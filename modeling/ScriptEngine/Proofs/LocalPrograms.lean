import ScriptEngine.Proofs.LocalExpressions

/-!
# Statements are read locally

Function literals contain statements, so that their productions read locally as well.  A
statement may end with a semicolon or without, and an `if` may go on with an `else`; what
stands between two sources is neither.

* `Longer.headsForeach_eq` — looking ahead at the head of a loop;
* `Parse.local_statement` — one statement;
* `Grammar.local_upTo` — all productions, by induction on the nested requests.
-/

namespace ScriptEngine

open Parse Grammar Seen

/-! ## Looking ahead -/

/-- The head of a loop over a collection is found in the source itself. -/
theorem Longer.headsForeach_eq {rest : List Token} {s s' : Progress} (h : Longer rest s s')
    (hrest : Detached rest) :
    headsForeach (s'.cursor.peek 0) (s'.cursor.peek 1) (s'.cursor.peek 2) =
      headsForeach (s.cursor.peek 0) (s.cursor.peek 1) (s.cursor.peek 2) := by
  have hend {n : Nat} (hn : s.left ≤ n) : s.cursor.peek n = .eof := by
    unfold Cursor.peek
    rw [List.getElem?_eq_none hn]
  have hcolon {kind : TokenKind} (hkind : kind.isDetached = true) : kind ≠ .symbol .colon := by
    rintro rfl
    cases hkind
  have hfirst {first : TokenKind} (second third : TokenKind) (hkind : first.isDetached = true) :
      headsForeach first second third = false := by
    unfold headsForeach
    split <;> first | cases hkind | rfl
  have hsecond (first : TokenKind) {second : TokenKind} (third : TokenKind)
      (hkind : second.isDetached = true) : headsForeach first second third = false := by
    unfold headsForeach
    split
    · cases hkind
    · exact decide_eq_false (hcolon hkind)
    · rfl
  have hthird (first second : TokenKind) {third : TokenKind} (hkind : third.isDetached = true) :
      headsForeach first second third = headsForeach first second .eof := by
    unfold headsForeach
    split
    · exact (decide_eq_false (hcolon hkind)).trans (decide_eq_false nofun).symm
    · rfl
    · rfl
  -- each kind is the same in both, or the source has ended before it
  rcases h.peek_cases hrest (Nat.zero_le _) with hzero | ⟨hzero, hzero'⟩
  · rw [hzero]
    rcases Nat.lt_or_ge 0 s.left with hleft | hleft
    · rcases h.peek_cases hrest hleft with hone | ⟨hone, hone'⟩
      · rw [hone]
        rcases Nat.lt_or_ge 1 s.left with hleft' | hleft'
        · rcases h.peek_cases hrest hleft' with htwo | ⟨htwo, htwo'⟩
          · rw [htwo]
          · rw [htwo, hthird _ _ htwo']
        · rw [hend hleft', hsecond _ _ rfl, hsecond _ _ rfl]
      · rw [hone, hsecond _ _ hone', hsecond _ _ rfl]
    · rw [hend hleft, hfirst _ _ rfl, hfirst _ _ rfl]
  · rw [hzero, hfirst _ _ hzero', hfirst _ _ rfl]

namespace Parse

variable {α β : Type} [Seen α] [Seen β] {d : Dialect} {g g' : Grammar}

/-! ## Where statements end -/

theorem local_endSimple : Local d endSimple endSimple :=
  local_eat (local_pure rfl) (local_pure rfl)

section

variable (hg : Grammar.Local d g g')

include hg

theorem local_returnedValue : Local d g.returnedValue g'.returnedValue := by
  apply local_currentKind
  intro kind
  split
  · exact local_pure rfl
  · exact local_pure rfl
  · exact local_pure rfl
  · exact local_some hg.expr

theorem local_elseBranch : Local d g.elseBranch g'.elseBranch := by
  have hbranch : Local d (do if ← eat (.keyword .kwElse) then some <$> g.body else return none)
      (do if ← eat (.keyword .kwElse) then some <$> g'.body else return none) :=
    local_eat (local_some hg.body) (local_pure rfl)
  apply local_check
  intro found
  apply local_peek
  intro kind kind' hkind
  simp only [hkind (.keyword .kwElse) rfl]
  split
  · apply local_advance
    intro _
    exact hbranch
  · exact hbranch

/-! ## Statements -/

theorem local_condition : Local d g.condition g'.condition := by
  apply local_expect
  intro _
  apply local_bind hg.expr
  intro cond cond' hcond
  apply local_expect
  intro _
  exact local_pure hcond

theorem local_ifStatement : Local d g.ifStatement g'.ifStatement := by
  apply local_currentSpan
  intro start start'
  apply local_advance
  intro _
  apply local_bind (local_condition hg)
  intro cond cond' hcond
  apply local_bind hg.body
  intro yes yes' hyes
  apply local_bind (local_elseBranch hg)
  intro no no' hno
  apply local_make
  intro span span'
  simp [Like, hcond, hyes, hno]

theorem local_initialValue : Local d g.initialValue g'.initialValue :=
  local_eat (local_some hg.expr) (local_pure rfl)

theorem local_declaration : Local d g.declaration g'.declaration := by
  apply local_currentSpan
  intro start start'
  apply local_require
  apply local_advance
  intro _
  apply local_expectIdent
  intro name nameSpan
  apply local_bind (local_initialValue hg)
  intro init init' hinit
  apply local_bind (local_declare name nameSpan nameSpan)
  intro _ _ _
  apply local_make
  intro span span'
  simp [Like, hinit]

omit hg in
theorem local_foreachAhead : Local d foreachAhead foreachAhead := by
  intro rest s s' hrest hs ahead t hrun
  rw [foreachAhead_run] at hrun
  cases hrun
  rw [foreachAhead_run, hs.headsForeach_eq hrest]
  exact ⟨List.suffix_refl _, fun _ => ⟨_, s', rfl, rfl, hs⟩⟩

theorem local_foreachTail (start start' : Span) :
    Local d (g.foreachTail start) (g'.foreachTail start') := by
  have hrest (name : String) (declared : Bool) : Local d (do
        let _ ← expect (.symbol .colon)
        let iterable ← g.expr
        let _ ← expect (.symbol .rparen)
        let body ← inLoop g.body
        return Node.foreach (← spanFrom start) name declared iterable body) (do
        let _ ← expect (.symbol .colon)
        let iterable ← g'.expr
        let _ ← expect (.symbol .rparen)
        let body ← inLoop g'.body
        return Node.foreach (← spanFrom start') name declared iterable body) := by
    apply local_expect
    intro _
    apply local_bind hg.expr
    intro items items' hitems
    apply local_expect
    intro _
    apply local_bind (local_inLoop hg.body)
    intro body body' hbody
    apply local_make
    intro span span'
    simp [Like, hitems, hbody]
  apply local_eat
  · apply local_expectIdent
    intro name nameSpan
    apply local_require
    apply local_bind (local_declare name nameSpan nameSpan)
    intro _ _ _
    exact hrest name true
  · apply local_expectIdent
    intro name nameSpan
    exact hrest name false

theorem local_optionalExpr (closing : TokenKind) :
    Local d (g.optionalExpr closing) (g'.optionalExpr closing) := by
  apply local_check
  intro found
  split
  · exact local_pure rfl
  · exact local_some hg.expr

theorem local_loopStart : Local d g.loopStart g'.loopStart := by
  apply local_check
  intro found
  split
  · exact local_some (local_declaration hg)
  · exact local_optionalExpr hg _

theorem local_countingTail (start start' : Span) :
    Local d (g.countingTail start) (g'.countingTail start') := by
  apply local_bind (local_loopStart hg)
  intro init init' hinit
  apply local_expect
  intro _
  apply local_bind (local_optionalExpr hg _)
  intro cond cond' hcond
  apply local_expect
  intro _
  apply local_bind (local_optionalExpr hg _)
  intro step step' hstep
  apply local_expect
  intro _
  apply local_bind (local_inLoop hg.body)
  intro body body' hbody
  apply local_make
  intro span span'
  simp [Like, hinit, hcond, hstep, hbody]

theorem local_forStatement : Local d g.forStatement g'.forStatement := by
  apply local_currentSpan
  intro start start'
  apply local_require
  apply local_advance
  intro _
  apply local_expect
  intro _
  apply local_inScope false
  apply local_bind local_foreachAhead
  intro ahead ahead' hahead
  obtain rfl : ahead = ahead' := hahead
  cases ahead with
  | true => exact local_foreachTail hg start start'
  | false => exact local_countingTail hg start start'

theorem local_whileStatement : Local d g.whileStatement g'.whileStatement := by
  apply local_currentSpan
  intro start start'
  apply local_require
  apply local_advance
  intro _
  apply local_bind (local_condition hg)
  intro cond cond' hcond
  apply local_bind (local_inLoop hg.body)
  intro body body' hbody
  apply local_make
  intro span span'
  simp [Like, hcond, hbody]

theorem local_doStatement : Local d g.doStatement g'.doStatement := by
  apply local_currentSpan
  intro start start'
  apply local_require
  apply local_advance
  intro _
  apply local_bind (local_inLoop hg.body)
  intro body body' hbody
  apply local_expect
  intro _
  apply local_bind (local_condition hg)
  intro cond cond' hcond
  apply local_bind local_endSimple
  intro _ _ _
  apply local_make
  intro span span'
  simp [Like, hbody, hcond]

omit hg in
theorem local_loopControl : Local d loopControl loopControl := by
  apply local_advance
  intro token
  apply local_get
  intro rest s s' _ hs
  rw [hs.loops]
  dsimp only
  split
  · exact local_stop _ _ _
  · apply local_bind local_endSimple
    intro _ _ _
    exact local_pure rfl

theorem local_returnStatement : Local d g.returnStatement g'.returnStatement := by
  apply local_currentSpan
  intro start start'
  apply local_advance
  intro _
  apply local_bind (local_returnedValue hg)
  intro value value' hvalue
  apply local_bind local_endSimple
  intro _ _ _
  apply local_make
  intro span span'
  simp [Like, hvalue]

theorem local_blockStatement : Local d g.blockStatement g'.blockStatement := by
  apply local_currentSpan
  intro start start'
  apply local_expect
  intro _
  apply local_bind (local_inScope false hg.blockStatements)
  intro nodes nodes' hnodes
  apply local_make
  intro span span'
  simp [Like, hnodes]

theorem local_annotationArguments : Local d g.annotationArguments g'.annotationArguments := by
  apply local_check
  intro found
  split
  · exact local_callArguments hg
  · exact local_pure rfl

theorem local_annotatedStatement : Local d g.annotatedStatement g'.annotatedStatement := by
  apply local_currentSpan
  intro start start'
  apply local_require
  apply local_advance
  intro _
  apply local_bind local_word
  intro found found' hfound
  obtain rfl : found = found' := hfound
  apply local_bind (local_annotationArguments hg)
  intro args args' hargs
  apply local_bind hg.body
  intro body body' hbody
  apply local_make
  intro span span'
  simp [Like, hargs, hbody]

/-! ## Directives -/

theorem local_dottedTail (name : String) : Local d (g.dottedTail name) (g'.dottedTail name) := by
  refine local_eat ?_ (local_pure rfl)
  apply local_bind local_word
  intro part part' hpart
  obtain rfl : part = part' := hpart
  exact hg.dotted _

theorem local_dottedName : Local d g.dottedName g'.dottedName := by
  apply local_bind local_word
  intro name name' hname
  obtain rfl : name = name' := hname
  exact local_dottedTail hg _

omit hg in
/-- A value that is one token. -/
theorem local_value (value : Literal) : Local d (do let _ ← advance; return value)
    (do let _ ← advance; return value) :=
  local_advance fun _ => local_pure rfl

theorem local_pragmaValue : Local d g.pragmaValue g'.pragmaValue := by
  apply local_currentKind
  intro kind
  split
  · exact local_value _
  · apply local_advance
    intro _
    apply local_currentKind
    intro kind
    split
    · exact local_value _
    · apply local_currentSpan
      intro span span'
      exact local_fail _ span
  · exact local_value _
  · exact local_value _
  · exact local_value _
  · exact local_value _
  · apply local_map (local_dottedName hg)
    intro name name' hname
    exact congrArg Literal.text hname
  · apply local_currentSpan
    intro span span'
    exact local_fail _ span

theorem local_pragmaDirective : Local d g.pragmaDirective g'.pragmaDirective := by
  apply local_currentSpan
  intro start start'
  apply local_require
  apply local_advance
  intro _
  apply local_bind local_word
  intro found found' hfound
  obtain rfl : found = found' := hfound
  dsimp only
  split
  · apply local_bind (local_dottedName hg)
    intro key key' hkey
    apply local_bind (local_pragmaValue hg)
    intro value value' hvalue
    apply local_bind local_endSimple
    intro _ _ _
    exact local_modify (fun _ => rfl) fun rest s s' hs =>
      ⟨⟨hs.after, hs.loops, hs.scopes⟩, hs.inside⟩
  · exact local_stop _ _ _

/-! ## Sequences of statements -/

omit hg in
/-- An expression or a declaration, and what may end it. -/
theorem local_simple {step step' : Parse Node} (h : Local d step step') :
    Local d (do let node ← step; endSimple; return some node)
      (do let node ← step'; endSimple; return some node) := by
  apply local_bind h
  intro node node' hnode
  apply local_bind local_endSimple
  intro _ _ _
  apply local_pure
  simp [Like, hnode]

theorem local_statement : Local d g.statement g'.statement := by
  apply local_currentKind
  intro kind
  split
  · apply local_advance
    intro _
    exact local_pure rfl
  · apply local_bind (local_pragmaDirective hg)
    intro _ _ _
    exact local_pure rfl
  · exact local_some (local_ifStatement hg)
  · exact local_some (local_forStatement hg)
  · exact local_some (local_whileStatement hg)
  · exact local_some (local_doStatement hg)
  · exact local_some (local_blockStatement hg)
  · exact local_some (local_annotatedStatement hg)
  · exact local_some local_loopControl
  · exact local_some local_loopControl
  · exact local_some (local_returnStatement hg)
  · exact local_simple (local_declaration hg)
  · exact local_simple (local_assignmentLevel hg)

theorem local_bodyStatement : Local d g.bodyStatement g'.bodyStatement := by
  apply local_currentSpan
  intro start start'
  have hempty : Local d (pure (Node.block start [])) (pure (Node.block start' [])) :=
    local_pure (by simp [Like])
  apply local_eat hempty
  apply local_bind (local_statement hg)
  intro found found' hfound
  cases found with
  | none =>
      cases found' with
      | none => exact local_fail _ start
      | some node' => simp [Like] at hfound
  | some node =>
      cases found' with
      | none => simp [Like] at hfound
      | some node' => exact local_pure (by simpa [Like] using hfound)

theorem local_statementsOfBlock : Local d g.statementsOfBlock g'.statementsOfBlock := by
  apply local_check
  intro found
  split
  · apply local_advance
    intro _
    exact local_pure rfl
  · apply local_cursor
    intro rest s s' _ hs
    unfold Cursor.isAtEnd
    rw [hs.currentKind_eq]
    split
    · apply local_currentKind
      intro kind
      apply local_currentSpan
      intro span span'
      exact local_stop _ _ _
    · apply local_bind (local_statement hg)
      intro first first' hfirst
      apply local_bind hg.blockStatements
      intro rest rest' hrest
      apply local_pure
      simp [Like, hfirst, hrest]

end

end Parse

/-! ## All productions -/

namespace Grammar

variable {d : Dialect}

/-- No production at all succeeds. -/
theorem local_exhausted (g : Grammar) : Grammar.Local d exhausted g := by
  constructor <;> intros <;> exact fun _ _ _ _ _ _ _ hrun => nomatch hrun

/-- One more nested request reads locally as well. -/
theorem local_extend {g g' : Grammar} (hg : Grammar.Local d g g') :
    Grammar.Local d g.extend g'.extend where
  expr := local_assignmentLevel hg
  assignment := local_assignmentLevel hg
  conditional := local_conditionalLevel hg
  binary least := local_binaryLevel hg least
  binaryTail least start start' _ _ hleft := local_climb hg least start start' hleft
  unary := local_unaryLevel hg
  accesses start start' _ _ hobject := local_accessTail hg start start' hobject
  arguments := local_argumentList hg
  items := local_itemList hg
  moreItems := local_setTail hg
  moreEntries := local_mapTail hg
  parameters params := local_parameterList hg params
  dotted name := local_dottedTail hg name
  block := local_blockStatement hg
  body := local_bodyStatement hg
  blockStatements := local_statementsOfBlock hg

/-- **Every production reads in a longer source what it reads in a source**, also when it may
make more nested requests there. -/
theorem local_upTo {n m : Nat} (h : n ≤ m) : Grammar.Local d (upTo n) (upTo m) := by
  induction n generalizing m with
  | zero => exact local_exhausted _
  | succ n ih =>
      obtain ⟨m, rfl⟩ : ∃ k, m = k + 1 := ⟨m - 1, by omega⟩
      exact local_extend (ih (Nat.le_of_succ_le_succ h))

end Grammar

end ScriptEngine

import ScriptEngine.Engine.Source
import ScriptEngine.Proofs.PairedExpressions

/-!
# Reading one program twice

The productions of statements keep a reading as well, and so do all of them together, by
induction on the number of nested requests.

* `Reading.keeps_upTo` — the productions with any number of nested requests;
* `Reading.Program` — what a whole token list is read as;
* `SourceKind.read`, `Reading.results_read` — whole token lists.
-/

namespace ScriptEngine

namespace Reading

open Parse Grammar

variable {p : Reading} {g : Grammar} {loops : Nat} {k : Stretch} {s : Progress}

attribute [local simp] Node.children Node.needs

/-! ## Statements -/

theorem reads_endSimple : p.Reads loops k s endSimple endSimple :=
  reads_eat nofun rfl (fun _ => reads_pure rfl nofun) fun _ => reads_pure rfl nofun

/-- A part that may be left out. -/
theorem reads_some {step step' : Parse Node} (h : p.Reads loops (.since k.start) s step step') :
    p.Reads loops k s (some <$> step) (some <$> step') :=
  reads_map h (fun _ => rfl) (by simp)

/-- A `break` or `continue` is read where a loop is open. -/
theorem reads_loopControl {kind : TokenKind} (hkind : s.cursor.currentKind = kind)
    (hend : kind ≠ .eof) (hword : kind.isComparatorName = false) :
    p.Reads loops k s loopControl loopControl := by
  have hspan : s.cursor.current.span = s.cursor.currentSpan.merge s.advance.cursor.previousSpan :=
    Cursor.span_current (hkind ▸ hend)
  refine reads_depth fun hloops => reads_here (reads_advance (.of_kind hkind hend hword) ?_)
  refine reads_get ?_
  dsimp only
  split
  · exact reads_stop _ _
  · rename_i hopen
    have hinside : decide (0 < loops) = true := decide_eq_true (hloops ▸ Nat.pos_of_ne_zero hopen)
    refine reads_build (if s.cursor.current.kind = .keyword .kwBreak
      then .breakLoop s.cursor.current.span else .continueLoop s.cursor.current.span) ?_ ?_
    · split
      · exact ⟨hspan, hinside, nofun, .inl rfl, by simp⟩
      · exact ⟨hspan, hinside, nofun, .inl rfl, by simp⟩
    · refine reads_bind reads_endSimple fun _ s₁ => reads_pure ?_ (by simp)
      split <;> rfl

section

variable (hg : g.Keeps p)

include hg

theorem reads_condition : p.Reads loops k s g.condition g.condition := by
  refine reads_expect nofun rfl fun _ => reads_bind hg.expr fun cond s₁ => ?_
  exact reads_expect nofun rfl fun _ => reads_pure rfl (by simp)

theorem reads_elseBranch : p.Reads loops k s g.elseBranch g.elseBranch := by
  have hbranch {k' : Stretch} {s' : Progress} : p.Reads loops k' s'
      (do if ← eat (.keyword .kwElse) then some <$> g.body else return none)
      (do if ← eat (.keyword .kwElse) then some <$> g.body else return none) := by
    refine reads_eat nofun rfl (fun _ => ?_) fun _ => ?_
    · exact reads_some hg.body
    · exact reads_pure rfl nofun
  refine reads_check (reads_peek ?_)
  split
  · rename_i hfound
    have hkind : s.cursor.currentKind = .symbol .semicolon :=
      of_decide_eq_true (Bool.and_eq_true_iff.mp hfound).1
    exact reads_advance (.of_kind hkind nofun rfl) hbranch
  · exact hbranch

theorem reads_ifStatement (hkind : s.cursor.currentKind = .keyword .kwIf) :
    p.Reads loops k s g.ifStatement g.ifStatement := by
  refine reads_here (reads_currentSpan (reads_advance (.of_kind hkind nofun rfl) ?_))
  refine reads_bind (reads_condition hg) fun cond s₁ => reads_bind hg.body fun thenBranch s₂ => ?_
  refine reads_bind (reads_elseBranch hg) fun elseBranch s₃ => reads_spanFrom (reads_node ?_)
  exact ⟨rfl, rfl, nofun, .inl rfl, by simp +contextual⟩

theorem reads_initialValue : p.Reads loops k s g.initialValue g.initialValue := by
  refine reads_eat nofun rfl (fun _ => ?_) fun _ => ?_
  · exact reads_some hg.expr
  · exact reads_pure rfl nofun

theorem reads_declaration (hkind : s.cursor.currentKind = .keyword .kwVar) :
    p.Reads loops k s g.declaration g.declaration := by
  refine reads_here (reads_currentSpan (reads_require fun hgranted => ?_))
  refine reads_advance (.of_kind hkind nofun rfl) ?_
  refine reads_bind reads_expectIdent fun (name, nameSpan) s₁ => ?_
  refine reads_bind (reads_initialValue hg) fun init s₂ => ?_
  refine reads_bind (reads_declare name nameSpan) fun _ s₃ => reads_spanFrom (reads_node ?_)
  exact ⟨rfl, rfl, by simpa, .inl rfl, by simp +contextual⟩

omit hg in
theorem reads_foreachAhead : p.Reads loops k s foreachAhead foreachAhead := by
  refine reads_peek (reads_peek (reads_peek ?_))
  split
  · exact reads_pure rfl nofun
  · exact reads_pure rfl nofun
  · exact reads_pure rfl nofun

/-- The body of a loop is read inside it, and its head is not. -/
theorem reads_foreachTail (hgranted : p.first.features.has .loops = true) :
    p.Reads loops k s (g.foreachTail k.start.currentSpan) (g.foreachTail k.start.currentSpan) := by
  have hrest {k' : Stretch} {s' : Progress} (name : String) (declared : Bool)
      (hstart : k'.start = k.start)
      (hlocal : declared = true → p.first.features.has .localVar = true) : p.Reads loops k' s' (do
        let _ ← expect (.symbol .colon)
        let iterable ← g.expr
        let _ ← expect (.symbol .rparen)
        let body ← inLoop g.body
        return Node.foreach (← spanFrom k.start.currentSpan) name declared iterable body) (do
        let _ ← expect (.symbol .colon)
        let iterable ← g.expr
        let _ ← expect (.symbol .rparen)
        let body ← inLoop g.body
        return Node.foreach (← spanFrom k.start.currentSpan) name declared iterable body) := by
    refine reads_expect nofun rfl fun _ => reads_bind hg.expr fun iterable s₁ => ?_
    refine reads_expect nofun rfl fun _ => reads_inLoop (fun _ => hg.body) fun body s₂ => ?_
    refine reads_spanFrom (reads_node ⟨hstart ▸ rfl, rfl, ?_, .inl rfl, by simp⟩)
    cases declared with
    | false => simpa using hgranted
    | true => simpa using ⟨hgranted, hlocal rfl⟩
  refine reads_eat nofun rfl (fun _ => ?_) fun _ => ?_
  · refine reads_bind reads_expectIdent fun (name, nameSpan) s₁ => ?_
    refine reads_require fun hlocal => reads_bind (reads_declare name nameSpan) fun _ s₂ => ?_
    exact hrest name true rfl fun _ => hlocal
  · exact reads_bind reads_expectIdent fun (name, nameSpan) s₁ => hrest name false rfl nofun

theorem reads_optionalExpr (closing : TokenKind) :
    p.Reads loops k s (g.optionalExpr closing) (g.optionalExpr closing) := by
  refine reads_check ?_
  split
  · exact reads_pure rfl nofun
  · exact reads_some hg.expr

theorem reads_loopStart : p.Reads loops k s g.loopStart g.loopStart := by
  refine reads_check ?_
  split
  · rename_i hvar
    exact reads_some (reads_declaration hg (of_decide_eq_true hvar))
  · exact reads_optionalExpr hg _

theorem reads_countingTail (hgranted : p.first.features.has .loops = true) :
    p.Reads loops k s (g.countingTail k.start.currentSpan)
      (g.countingTail k.start.currentSpan) := by
  refine reads_bind (reads_loopStart hg) fun init s₁ => reads_expect nofun rfl fun _ => ?_
  refine reads_bind (reads_optionalExpr hg _) fun cond s₂ => reads_expect nofun rfl fun _ => ?_
  refine reads_bind (reads_optionalExpr hg _) fun step s₃ => reads_expect nofun rfl fun _ => ?_
  refine reads_inLoop (fun _ => hg.body) fun body s₄ => reads_spanFrom (reads_node ?_)
  refine ⟨rfl, rfl, by simpa, .inl rfl, ?_⟩
  simp only [Node.places, Stretch.kept_keep, Stretch.kept_pass, Readable.trees_option,
    Readable.trees_node]
  grind

theorem reads_forStatement (hkind : s.cursor.currentKind = .keyword .kwFor) :
    p.Reads loops k s g.forStatement g.forStatement := by
  refine reads_here (reads_currentSpan (reads_require fun hgranted => ?_))
  refine reads_advance (.of_kind hkind nofun rfl) (reads_expect nofun rfl fun _ => ?_)
  refine reads_inScope false fun s₁ => ?_
  refine reads_bind reads_foreachAhead fun ahead s₂ => ?_
  cases ahead with
  | true => exact reads_foreachTail hg hgranted
  | false => exact reads_countingTail hg hgranted

theorem reads_whileStatement (hkind : s.cursor.currentKind = .keyword .kwWhile) :
    p.Reads loops k s g.whileStatement g.whileStatement := by
  refine reads_here (reads_currentSpan (reads_require fun hgranted => ?_))
  refine reads_advance (.of_kind hkind nofun rfl) ?_
  refine reads_bind (reads_condition hg) fun cond s₁ => ?_
  refine reads_inLoop (fun _ => hg.body) fun body s₂ => reads_spanFrom (reads_node ?_)
  exact ⟨rfl, rfl, by simpa, .inl rfl, by simp⟩

theorem reads_doStatement (hkind : s.cursor.currentKind = .keyword .kwDo) :
    p.Reads loops k s g.doStatement g.doStatement := by
  refine reads_here (reads_currentSpan (reads_require fun hgranted => ?_))
  refine reads_advance (.of_kind hkind nofun rfl) ?_
  refine reads_inLoop (fun _ => hg.body) fun body s₁ => ?_
  refine reads_expect nofun rfl fun _ => reads_bind (reads_condition hg) fun cond s₂ => ?_
  refine reads_bind reads_endSimple fun _ s₃ => reads_spanFrom (reads_node ?_)
  exact ⟨rfl, rfl, by simpa, .inl rfl, by simp⟩

theorem reads_returnedValue : p.Reads loops k s g.returnedValue g.returnedValue := by
  refine reads_currentKind ?_
  split
  · exact reads_pure rfl nofun
  · exact reads_pure rfl nofun
  · exact reads_pure rfl nofun
  · exact reads_some hg.expr

theorem reads_returnStatement (hkind : s.cursor.currentKind = .keyword .kwReturn) :
    p.Reads loops k s g.returnStatement g.returnStatement := by
  refine reads_here (reads_currentSpan (reads_advance (.of_kind hkind nofun rfl) ?_))
  refine reads_bind (reads_returnedValue hg) fun value s₁ => ?_
  refine reads_bind reads_endSimple fun _ s₂ => ?_
  exact reads_spanFrom (reads_node ⟨rfl, rfl, nofun, .inl rfl, by simp +contextual⟩)

theorem reads_blockStatement : p.Reads loops k s g.blockStatement g.blockStatement := by
  refine reads_here (reads_currentSpan (reads_expect nofun rfl fun _ => ?_))
  refine reads_bind (reads_inScope false fun _ => hg.blockStatements) fun statements s₁ => ?_
  exact reads_spanFrom (reads_node ⟨rfl, rfl, nofun, .inl rfl, by simp +contextual⟩)

theorem reads_annotationArguments :
    p.Reads loops k s g.annotationArguments g.annotationArguments := by
  refine reads_check ?_
  split
  · exact reads_callArguments hg
  · exact reads_pure rfl nofun

theorem reads_annotatedStatement (hkind : s.cursor.currentKind = .symbol .atSign) :
    p.Reads loops k s g.annotatedStatement g.annotatedStatement := by
  have hpass : s.cursor.Passable p.first.features := .of_kind hkind nofun rfl
  have hname : s.advance.cursor.takesName = true :=
    Cursor.takesName_advance hpass.here (Cursor.announcesName_of_kind (.inr (.inl hkind)))
  refine reads_here (reads_currentSpan (reads_require fun hgranted => reads_advance hpass ?_))
  refine reads_word (.inl hname) fun _ name _ => ?_
  refine reads_bind (reads_annotationArguments hg) fun args s₂ => ?_
  refine reads_bind hg.body fun statement s₃ => reads_spanFrom (reads_node ?_)
  refine ⟨rfl, rfl, by simpa, .inl rfl, ?_⟩
  simp only [Node.places, Node.children, Stretch.kept_keep, Stretch.kept_pass, Readable.trees_list,
    Readable.trees_node]
  grind

/-! ## Directives -/

theorem reads_dottedTail (name : String) :
    p.Reads loops k s (g.dottedTail name) (g.dottedTail name) := by
  refine reads_eat nofun rfl (fun hdot => ?_) fun _ => reads_pure rfl nofun
  have hhere : s.cursor.after ≠ [] := Cursor.after_ne_nil (hdot ▸ nofun)
  have hname : s.advance.cursor.takesName = true :=
    Cursor.takesName_advance hhere (Cursor.announcesName_of_kind (.inl hdot))
  exact reads_word (.inl hname) fun _ part _ => reads_last (hg.dotted _)

theorem reads_dottedName
    (h : s.cursor.takesName = true ∨ s.cursor.current.isComparatorWord = false) :
    p.Reads loops k s g.dottedName g.dottedName :=
  reads_word h fun _ name _ => reads_dottedTail hg name

theorem reads_pragmaValue : p.Reads loops k s g.pragmaValue g.pragmaValue := by
  have hpass {s' : Progress} (value : Literal) {kind : TokenKind}
      (hkind : s'.cursor.currentKind = kind) (hend : kind ≠ .eof)
      (hword : kind.isComparatorName = false) {k' : Stretch} :
      p.Reads loops k' s' (do let _ ← advance; return value) (do let _ ← advance; return value) :=
    reads_advance (.of_kind hkind hend hword) (reads_pure rfl nofun)
  refine reads_currentKind ?_
  split
  · rename_i hkind
    exact hpass _ hkind nofun rfl
  · rename_i hkind
    refine reads_advance (.of_kind hkind nofun rfl) (reads_currentKind ?_)
    split
    · rename_i hnumber
      exact hpass _ hnumber nofun rfl
    · exact reads_currentSpan (reads_fail _ _)
  · rename_i hkind
    exact hpass _ hkind nofun rfl
  · rename_i hkind
    exact hpass _ hkind nofun rfl
  · rename_i hkind
    exact hpass _ hkind nofun rfl
  · rename_i hkind
    exact hpass _ hkind nofun rfl
  · rename_i name hkind
    have hident : s.cursor.current.isComparatorWord = false :=
      Token.isComparatorWord_eq_false (congrArg TokenKind.isComparatorName hkind)
    exact reads_map (reads_dottedName hg (.inr hident)) (fun _ => rfl) nofun
  · exact reads_currentSpan (reads_fail _ _)

/-- A directive has the word `pragma` after its sign, and then a name. -/
theorem reads_pragmaDirective (hkind : s.cursor.currentKind = .symbol .hash) :
    p.Reads loops k s g.pragmaDirective g.pragmaDirective := by
  have hpass : s.cursor.Passable p.first.features := .of_kind hkind nofun rfl
  have hname : s.advance.cursor.takesName = true :=
    Cursor.takesName_advance hpass.here (Cursor.announcesName_of_kind (.inr (.inr hkind)))
  refine reads_currentSpan (reads_require fun hgranted => reads_advance hpass ?_)
  refine reads_word (.inl hname) fun hhere name nameSpan => ?_
  have hnext : s.advance.advance.cursor.takesName = true :=
    Cursor.takesName_advance_advance hpass.here hhere hkind
  dsimp only
  split
  · refine reads_bind (reads_dottedName hg (.inl hnext)) fun key s₁ => ?_
    refine reads_bind (reads_pragmaValue hg) fun value s₂ => ?_
    refine reads_bind reads_endSimple fun _ s₃ => ?_
    exact reads_modify ⟨.refl _, rfl, .inr hgranted⟩
  · exact reads_stop _ _

/-! ## Sequences of statements -/

theorem reads_statement : p.Reads loops k s g.statement g.statement := by
  refine reads_currentKind ?_
  split
  · rename_i hkind
    exact reads_advance (.of_kind hkind nofun rfl) (reads_pure rfl nofun)
  · rename_i hkind
    exact reads_bind (reads_pragmaDirective hg hkind) fun _ s₁ => reads_pure rfl nofun
  · rename_i hkind
    exact reads_some (reads_ifStatement hg hkind)
  · rename_i hkind
    exact reads_some (reads_forStatement hg hkind)
  · rename_i hkind
    exact reads_some (reads_whileStatement hg hkind)
  · rename_i hkind
    exact reads_some (reads_doStatement hg hkind)
  · exact reads_some (reads_blockStatement hg)
  · rename_i hkind
    exact reads_some (reads_annotatedStatement hg hkind)
  · rename_i hkind
    exact reads_some (reads_loopControl hkind nofun rfl)
  · rename_i hkind
    exact reads_some (reads_loopControl hkind nofun rfl)
  · rename_i hkind
    exact reads_some (reads_returnStatement hg hkind)
  · rename_i hkind
    refine reads_bind (reads_declaration hg hkind) fun node s₁ => ?_
    exact reads_bind reads_endSimple fun _ s₂ => reads_pure rfl (by simp)
  · refine reads_bind (reads_assignmentLevel hg) fun node s₁ => ?_
    exact reads_bind reads_endSimple fun _ s₂ => reads_pure rfl (by simp)

theorem reads_bodyStatement : p.Reads loops k s g.bodyStatement g.bodyStatement := by
  refine reads_here (reads_currentSpan (reads_eat nofun rfl (fun hkind => ?_) fun _ => ?_))
  · refine reads_node ⟨?_, rfl, nofun, .inl rfl, by simp⟩
    have hend : s.cursor.currentKind ≠ .eof := hkind ▸ nofun
    exact (if_neg fun h => hend h.1).trans (Cursor.span_current hend)
  · refine reads_bind (reads_statement hg) fun statement s₁ => ?_
    cases statement with
    | some node => exact reads_pure rfl (by simp)
    | none => exact reads_fail _ _

/-- A statement, and more of them. -/
theorem reads_cons {more : Parse (List Node)}
    (h : ∀ {s}, p.Reads loops (.since k.start) s more more) :
    p.Reads loops k s (do
      let first ← g.statement
      let rest ← more
      return first.toList ++ rest) (do
      let first ← g.statement
      let rest ← more
      return first.toList ++ rest) := by
  refine reads_bind (reads_statement hg) fun first s₁ => ?_
  refine reads_bind h fun rest s₂ => reads_pure ?_ ?_
  · show (Node.inUnitOption _ first).toList ++ Node.inUnitAll _ rest = Node.inUnitAll _ _
    rw [Node.inUnitAll_append, Node.inUnitAll_toList]
  · simp only [Stretch.kept_keep, Readable.trees_option, Readable.trees_list]
    grind

theorem reads_statementsOfBlock : p.Reads loops k s g.statementsOfBlock g.statementsOfBlock := by
  refine reads_check ?_
  split
  · rename_i hbrace
    exact reads_advance (.of_kind (of_decide_eq_true hbrace) nofun rfl) (reads_pure rfl nofun)
  · refine reads_cursor ?_
    split
    · exact reads_currentKind (reads_currentSpan (reads_stop _ _))
    · exact reads_cons hg hg.blockStatements

theorem reads_statementsOfScript : p.Reads loops k s g.statementsOfScript g.statementsOfScript := by
  refine reads_cursor ?_
  split
  · exact reads_pure rfl nofun
  · exact reads_cons hg hg.statements

end

/-! ## All productions -/

/-- No production at all stops on both sides. -/
theorem keeps_exhausted : exhausted.Keeps p := by
  have hstop {α : Type} [Readable α] {loops : Nat} {k : Stretch} {s : Progress} :
      p.Reads loops k s (do fail .exhausted (← currentSpan) : Parse α)
        (do fail .exhausted (← currentSpan)) := reads_currentSpan (reads_fail _ _)
  exact
    { expr := hstop
      assignment := hstop
      conditional := hstop
      binary := fun _ => hstop
      binaryTail := fun _ _ => hstop
      unary := hstop
      accesses := fun _ => hstop
      arguments := hstop
      items := hstop
      moreItems := hstop
      moreEntries := hstop
      parameters := fun _ => hstop
      dotted := fun _ => hstop
      block := hstop
      body := hstop
      blockStatements := hstop
      statements := hstop }

/-- **One more nested request** keeps a reading. -/
theorem keeps_extend (hg : g.Keeps p) : g.extend.Keeps p where
  expr := reads_assignmentLevel hg
  assignment := reads_assignmentLevel hg
  conditional := reads_conditionalLevel hg
  binary := reads_binaryLevel hg
  binaryTail {loops c s} least left :=
    reads_climb (k := (Stretch.since c).keep (decide (0 < loops)) [left]) hg least (by simp)
  unary := reads_unaryLevel hg
  accesses {loops c s} object :=
    reads_accessTail (k := (Stretch.since c).keep (decide (0 < loops)) [object]) hg (by simp)
  arguments := reads_argumentList hg
  items := reads_itemList hg
  moreItems := reads_setTail hg
  moreEntries := reads_mapTail hg
  parameters := reads_parameterList hg
  dotted := reads_dottedTail hg
  block := reads_blockStatement hg
  body := reads_bodyStatement hg
  blockStatements := reads_statementsOfBlock hg
  statements := reads_statementsOfScript hg

theorem keeps_upTo (n : Nat) : (upTo n).Keeps p := by
  induction n with
  | zero => exact keeps_exhausted
  | succ n ih => exact keeps_extend ih

/-! ## Whole token lists -/

theorem reads_wholeExpression (n : Nat) :
    p.Reads loops k s (wholeExpression n) (wholeExpression n) := by
  refine reads_bind (keeps_upTo n).expr fun node s₁ => ?_
  refine reads_bind (reads_semicolons n) fun _ s₂ => reads_bind reads_expectEnd fun _ s₃ => ?_
  exact reads_pure rfl (by simp)

/-- Without the feature for scripts there is at most one expression, in both dialects. -/
theorem reads_scriptBody (n : Nat) : p.Reads loops k s (scriptBody n) (scriptBody n) := by
  refine reads_read ?_
  rw [p.script]
  split
  · exact reads_last (keeps_upTo n).statements
  · have hrest {k' : Stretch} {s' : Progress} (body : List Node)
        (hbody : ∀ node ∈ body, (decide (0 < loops), node) ∈ k'.kept) : p.Reads loops k' s' (do
          semicolons n
          expectEnd
          return body) (do
          semicolons n
          expectEnd
          return Node.inUnitAll p.second.unit body) := by
      refine reads_bind (reads_semicolons n) fun _ s₂ => reads_bind reads_expectEnd fun _ s₃ => ?_
      exact reads_pure rfl fun node hnode =>
        List.mem_append_right _ (List.mem_append_right _ (hbody node hnode))
    refine reads_cursor ?_
    split
    · exact hrest [] nofun
    · have hone : p.Reads loops (.since k.start) s ((fun node => [node]) <$> (upTo n).expr)
          ((fun node => [node]) <$> (upTo n).expr) :=
        reads_map (keeps_upTo n).expr (fun _ => rfl) (by simp)
      exact reads_bind hone fun body s₁ => hrest body (by simp +contextual)

end Reading

/-! ## The end of the input -/

namespace Grammar

open Parse

/-- A step that does not succeed before the end of the input. -/
def Finishes {α : Type} (step : Parse α) : Prop :=
  ∀ dialect s a s', step dialect s = .ok (a, s') → s'.cursor.isAtEnd = true

/-- What comes last has to succeed at the end. -/
theorem finishes_bind {α β : Type} {step : Parse α} {next : α → Parse β}
    (h : ∀ a, Finishes (next a)) : Finishes (step >>= next) := by
  intro dialect s b s'' hrun
  obtain ⟨r, -, hnext⟩ := Parse.bind_eq_ok.mp hrun
  exact h r.1 dialect r.2 b s'' hnext

theorem finishes_expectEnd {α : Type} (a : α) : Finishes (do expectEnd; return a) := by
  intro dialect s b s' hrun
  have hend : (if s.cursor.isAtEnd = true then .ok (a, s) else
      .error ⟨.trailing s.cursor.currentKind, s.cursor.currentSpan⟩ :
      Except ParseError (α × Progress)) = .ok (b, s') := by
    rw [← hrun]
    show _ = ((if s.cursor.isAtEnd = true then pure () else do
      let found ← currentKind
      let span ← currentSpan
      fail (.trailing found) span : Parse Unit) >>= fun _ => pure a) dialect s
    split <;> rfl
  split at hend
  · rename_i hatEnd
    cases hend
    exact hatEnd
  · cases hend

/-- What is made of the result does not matter. -/
theorem finishes_return {α β : Type} {step : Parse α} (h : Finishes step) (f : α → β) :
    Finishes (do return f (← step)) := by
  intro dialect s b s' hrun
  obtain ⟨r, hresult, hlast⟩ := Parse.bind_eq_ok.mp hrun
  cases hlast
  exact h dialect s r.1 r.2 hresult

/-- Statements are read up to the end, by induction on the nested requests. -/
theorem finishes_statements (n : Nat) : Finishes (upTo n).statements := by
  induction n with
  | zero =>
      intro dialect s a s' hrun
      cases hrun
  | succ n ih =>
      intro dialect s a s' hrun
      have hrun : (if s.cursor.isAtEnd = true then pure [] else do
        let first ← (upTo n).statement
        let rest ← (upTo n).statements
        return first.toList ++ rest : Parse (List Node)) dialect s = .ok (a, s') := hrun
      split at hrun
      · rename_i hatEnd
        cases hrun
        exact hatEnd
      · exact finishes_bind (fun first => finishes_return ih _) dialect s a s' hrun

theorem finishes_scriptBody (n : Nat) : Finishes (scriptBody n) := by
  have hrest (body : List Node) : Finishes (do
      semicolons n
      expectEnd
      return body) := finishes_bind fun _ => finishes_expectEnd body
  refine finishes_bind fun dialect => ?_
  split
  · exact finishes_statements n
  · refine finishes_bind fun cursor => ?_
    split
    · exact hrest []
    · exact finishes_bind hrest

/-- The steps of a whole script: its parameters are declared, and its body is read.  What
is made of them is a node with the directives that were found. -/
theorem wholeScript_run (n : Nat) (params : List String) (dialect : Dialect) (s : Progress) :
    wholeScript n params dialect s =
      (do declareAll s.cursor.currentSpan params; scriptBody n : Parse (List Node)) dialect s >>=
        fun r => .ok (.script (if r.1.isEmpty then s.cursor.currentSpan
          else s.cursor.currentSpan.merge r.2.cursor.previousSpan) r.1 r.2.pragmas, r.2) := by
  have hrest (body : List Node) (s' : Progress) : (do
      let span ← if body.isEmpty then pure s.cursor.currentSpan else spanFrom s.cursor.currentSpan
      return .script span body (← get).pragmas : Parse Node) dialect s' =
      .ok (.script (if body.isEmpty then s.cursor.currentSpan
        else s.cursor.currentSpan.merge s'.cursor.previousSpan) body s'.pragmas, s') := by
    cases body <;> rfl
  show (declareAll s.cursor.currentSpan params dialect s >>= fun declared =>
      scriptBody n dialect declared.2 >>= fun r => (do
        let span ← if r.1.isEmpty then pure s.cursor.currentSpan else spanFrom s.cursor.currentSpan
        return .script span r.1 (← get).pragmas : Parse Node) dialect r.2) =
    (declareAll s.cursor.currentSpan params dialect s >>= fun declared =>
      scriptBody n dialect declared.2) >>= _
  simp only [hrest, bind_assoc]

end Grammar

/-- Read a token list as a source of some kind, with parameters if it is a script. -/
def SourceKind.read (kind : SourceKind) (params : List String) (tokens : List Token)
    (dialect : Dialect) : Except ParseError Node :=
  match kind with
  | .expression => Node.ofExpression dialect tokens
  | .script => Node.ofScript dialect params tokens

/-- A source is read as its kind says. -/
theorem Source.tree_eq_read (source : Source) (dialect : Dialect) :
    source.tree dialect = source.kind.read source.params (Token.ofSource source.text) dialect := by
  unfold Source.tree SourceKind.read
  cases source.kind <;> rfl

namespace Reading

open Parse

variable {p : Reading}

/-- **What a whole token list is read as**: an expression that covers tokens up to the end,
or a script of statements that do, with directives if they are enabled. -/
inductive Program (p : Reading) (c c' : Cursor) : Node → Prop
  | expression {tree : Node} : p.Tree false c c' tree → Program p c c' tree
  | script {span : Span} {body : List Node} {pragmas : List Pragma} :
      span = (if body.isEmpty then c.currentSpan else c.currentSpan.merge c'.previousSpan) →
      (∀ node ∈ body, p.Tree false c c' node) →
      (pragmas ≠ [] → p.first.features.has .pragma = true) →
      Program p c c' (.script span body pragmas)

/-- The results of reading one token list in both dialects. -/
def Results (p : Reading) (tokens : List Token) : (result result' : Except ParseError Node) → Prop
  | .ok tree, result' =>
    result' = .ok (tree.inUnit p.second.unit) ∧
      ∃ c, (Cursor.ofList tokens).Path p.first.features c ∧ c.isAtEnd = true ∧
        p.Program (.ofList tokens) c tree
  | .error e, result' => p.lenient ∨ result' = .error e

/-- Errors among the tokens are found before anything is read. -/
theorem results_ofTokens {tokens : List Token} {step : Parse Node}
    (h : p.Results tokens ((step p.first (start tokens)).map (·.1))
      ((step p.second (start tokens)).map (·.1))) :
    p.Results tokens (Node.ofTokens p.first tokens step) (Node.ofTokens p.second tokens step) := by
  unfold Node.ofTokens
  split
  · exact .inr rfl
  · exact h

/-- An expression is read in both dialects. -/
theorem results_ofExpression (tokens : List Token) :
    p.Results tokens (Node.ofExpression p.first tokens) (Node.ofExpression p.second tokens) := by
  refine results_ofTokens ?_
  have hreads : p.Reads 0 (.since (.ofList tokens)) (start tokens)
      (Grammar.wholeExpression (tokens.length + 2)) (Grammar.wholeExpression (tokens.length + 2)) :=
    reads_wholeExpression _
  have hends := hreads (holds_since _) rfl
  cases hrun : Grammar.wholeExpression (tokens.length + 2) p.first (start tokens) with
  | error e =>
      rw [hrun] at hends
      exact hends.imp id fun hsecond => by rw [hsecond]; rfl
  | ok r =>
      rw [hrun] at hends
      obtain ⟨hsecond, htree, hmoves⟩ := hends
      rw [hsecond]
      have hfinishes : Grammar.Finishes (Grammar.wholeExpression (tokens.length + 2)) :=
        Grammar.finishes_bind fun node => Grammar.finishes_bind fun _ =>
          Grammar.finishes_expectEnd node
      have htree := htree r.1 (List.mem_singleton.mpr rfl)
      exact ⟨rfl, r.2.cursor, hmoves.path, hfinishes _ _ _ _ hrun, .expression htree⟩

/-- A script is read in both dialects. -/
theorem results_ofScript (params : List String) (tokens : List Token) :
    p.Results tokens (Node.ofScript p.first params tokens)
      (Node.ofScript p.second params tokens) := by
  refine results_ofTokens ?_
  have hreads : p.Reads 0 (.since (.ofList tokens)) (start tokens) (do
      declareAll (start tokens).cursor.currentSpan params
      Grammar.scriptBody (tokens.length + 2)) (do
      declareAll (start tokens).cursor.currentSpan params
      Grammar.scriptBody (tokens.length + 2)) :=
    reads_bind (reads_declareAll _ params) fun _ s => reads_scriptBody _
  have hends := hreads (holds_since _) rfl
  rw [Grammar.wholeScript_run, Grammar.wholeScript_run]
  cases hrun : (do
      declareAll (start tokens).cursor.currentSpan params
      Grammar.scriptBody (tokens.length + 2) : Parse (List Node)) p.first (start tokens) with
  | error e =>
      rw [hrun] at hends
      exact hends.imp id fun hsecond => by rw [hsecond]; rfl
  | ok r =>
      rw [hrun] at hends
      obtain ⟨hsecond, hbody, hmoves⟩ := hends
      rw [hsecond]
      have hfinishes : Grammar.Finishes (do
          declareAll (start tokens).cursor.currentSpan params
          Grammar.scriptBody (tokens.length + 2)) :=
        Grammar.finishes_bind fun _ => Grammar.finishes_scriptBody _
      refine ⟨?_, r.2.cursor, hmoves.path, hfinishes _ _ _ _ hrun,
        .script rfl hbody fun hsome => ?_⟩
      · obtain ⟨body, s'⟩ := r
        cases body <;> rfl
      · exact hmoves.pragmas.resolve_left hsome

/-- **A token list is read in both dialects**, as an expression or as a script. -/
theorem results_read (kind : SourceKind) (params : List String) (tokens : List Token) :
    p.Results tokens (kind.read params tokens p.first) (kind.read params tokens p.second) := by
  cases kind with
  | expression => exact results_ofExpression tokens
  | script => exact results_ofScript params tokens

end Reading

end ScriptEngine

import ScriptEngine.Proofs.FormedExpressions
import ScriptEngine.Proofs.TokenTexts

/-!
# The programs that are read are formed

The productions of statements yield trees that may stand as statements, and so do all of them
together, by induction on the number of nested requests.  What a statement leaves open decides
what may follow it: a branch that ends with an `if` without an `else` takes the `else` that
comes next.

* `yields_elseBranch`, `yields_ifStatement` — an `else` belongs to the innermost open `if`;
* `forms_upTo` — the productions with any number of nested requests;
* `Node.formed_of_ofScript` — whole scripts.
-/

namespace ScriptEngine

open Parse

namespace Grammar

variable {g : Grammar} {loops : Nat} {s : Progress} {start : Span}

/-! ## Parts of statements -/

theorem yields_endSimple : Yields loops s endSimple (fun _ _ => True) :=
  yields_eat (fun _ _ => yields_pure trivial) fun _ => yields_pure trivial

/-- A statement that leaves no `if` open. -/
theorem placed_of_hangs {node : Node} {c : Cursor}
    (h : node.Formed (.statement (decide (0 < loops)))) (hhangs : node.hangs = false) :
    node.placed loops c :=
  ⟨h, fun hhang => Bool.noConfusion (hhangs ▸ hhang)⟩

/-- An operand is a statement. -/
theorem placed_of_operand {node : Node} {c : Cursor} (h : node.Formed .operand) :
    node.placed loops c :=
  placed_of_hangs (.simple (.expression h)) (Node.hangs_of_isStatement h.isStatement_eq_false)

/-- Inside one more loop a loop is open. -/
theorem placed_looping {node : Node} {c : Cursor} (h : node.placed (loops + 1) c) :
    node.Formed (.statement true) ∧ (node.hangs = true → NoElse (c.after.map Token.word)) := by
  have hopen : decide (0 < loops + 1) = true := decide_eq_true (Nat.succ_pos _)
  unfold Node.placed at h
  rwa [hopen] at h

theorem yields_loopControl : Yields loops s loopControl (Node.placed loops) := by
  refine yields_advance fun s' _ => yields_get (yields_lawful fun hs => ?_)
  dsimp only
  split
  · exact yields_stop
  · rename_i hdepth
    have hopen : decide (0 < loops) = true :=
      decide_eq_true (Nat.pos_of_ne_zero fun hzero => hdepth (hs.loops.trans hzero))
    refine yields_bind yields_endSimple fun _ _ _ => yields_pure ?_
    rw [Node.placed, hopen]
    split
    · exact ⟨.breakLoop, nofun⟩
    · exact ⟨.continueLoop, nofun⟩

/-- Passing a token leaves the words after it. -/
theorem words_advance (s : Progress) :
    s.advance.cursor.after.map Token.word = (s.cursor.after.map Token.word).tail := by
  show s.cursor.advance.after.map Token.word = _
  unfold Cursor.advance
  split
  case h_1 first rest hafter => rw [hafter, List.map_cons, List.tail_cons]
  case h_2 hafter => rw [hafter, List.map_nil, List.tail_nil]

/-- What is yielded after a first branch with the words `ws` behind it: another branch, if there
is an `else` for it, or nothing, and then there is no `else`. -/
def Branches (loops : Nat) (ws : List Word) (branch? : Option Node) (c : Cursor) : Prop :=
  (∀ node ∈ branch?, node.placed loops c ∧ ¬NoElse ws) ∧
    (branch? = none → NoElse (c.after.map Token.word))

/-- What may be left out, where it is not. -/
theorem yields_some {step : Parse Node} {holds : Node → Cursor → Prop}
    (h : Yields loops s step holds) :
    Yields loops s (some <$> step) (fun node? c => ∀ node ∈ node?, holds node c) := by
  refine yields_map h fun found _ hfound node hnode => ?_
  obtain rfl := Option.some.inj hnode
  exact hfound

section

variable (hg : g.Forms)

include hg

theorem yields_condition : Yields loops s g.condition Node.operand := by
  refine yields_expect fun _ => yields_bind hg.expr fun cond _ hcond => ?_
  exact yields_expect fun _ => yields_pure hcond

/-! ## Branches -/

/-- **Another branch is read if an `else` is to be found**, and otherwise none is found after
it. -/
theorem yields_elseBranch :
    Yields loops s g.elseBranch (Branches loops (s.cursor.after.map Token.word)) := by
  have hbranch {s' : Progress} (helse : s'.cursor.currentKind = .keyword .kwElse →
      ¬NoElse (s.cursor.after.map Token.word)) (hnone : s'.cursor.currentKind ≠ .keyword .kwElse →
      NoElse (s'.cursor.after.map Token.word)) :
      Yields loops s' (do if ← eat (.keyword .kwElse) then some <$> g.body else return none)
        (Branches loops (s.cursor.after.map Token.word)) := by
    refine yields_eat (fun _ hyes => ?_) fun hno => ?_
    · refine yields_map hg.body fun node c hnode => ⟨fun node' hnode' => ?_, nofun⟩
      obtain rfl := Option.some.inj hnode'
      exact ⟨hnode, helse hyes⟩
    · exact yields_pure ⟨nofun, fun _ => hnone hno⟩
  have hkind : s.cursor.currentKind = Word.headKind (s.cursor.after.map Token.word) :=
    current_kind rfl
  have hpeek : s.cursor.peek 1 = Word.headKind (s.cursor.after.map Token.word).tail :=
    (peek_kind rfl 1).trans (by rw [List.drop_one])
  refine yields_check (yields_peek ?_)
  split
  case isTrue hboth =>
    obtain ⟨hsemicolon, helse⟩ := Bool.and_eq_true_iff.mp hboth
    have hsemicolon' := hkind.symm.trans (of_decide_eq_true hsemicolon)
    have helse' := hpeek.symm.trans (of_decide_eq_true helse)
    refine yields_advance fun s' hs' => hbranch (fun _ hnone => hnone.2 hsemicolon' helse') ?_
    -- `else` comes next, so that it is found
    refine fun hno => absurd ?_ hno
    rw [hs', current_kind rfl, words_advance]
    exact helse'
  case isFalse hnot =>
    refine hbranch (fun helse hnone => hnone.1 (hkind.symm.trans helse)) fun hno => ⟨?_, ?_⟩
    · exact hkind ▸ hno
    · intro hsemicolon helse
      refine hnot (Bool.and_eq_true_iff.mpr ⟨?_, ?_⟩)
      · exact decide_eq_true (hkind.trans hsemicolon)
      · exact decide_eq_true (hpeek.trans helse)

/-- **The first branch of an `if` with an `else` leaves no `if` open.** -/
theorem yields_ifStatement : Yields loops s g.ifStatement (Node.placed loops) := by
  refine yields_currentSpan fun start => yields_advance fun _ _ => ?_
  refine yields_bind (yields_condition hg) fun cond _ hcond => ?_
  refine yields_bind hg.body fun thenBranch s₁ hthen => ?_
  refine yields_bind (yields_elseBranch hg) fun branch? s₂ ⟨hsome, hnone⟩ => ?_
  refine yields_spanFrom fun _ => yields_pure ?_
  cases branch? with
  | none => exact ⟨.ifThen hcond hthen.1, fun _ => hnone rfl⟩
  | some elseBranch =>
      obtain ⟨helse, hfound⟩ := hsome elseBranch rfl
      have hclosed : thenBranch.hangs = false :=
        Bool.eq_false_iff.mpr fun hhangs => hfound (hthen.2 hhangs)
      exact ⟨.ifElse hcond hclosed hthen.1 helse.1, helse.2⟩

/-! ## Declarations and loops -/

theorem yields_initialValue :
    Yields loops s g.initialValue (fun value? _ => ∀ t ∈ value?, t.Formed .operand) :=
  yields_eat (fun _ _ => yields_some hg.expr) fun _ => yields_pure nofun

theorem yields_declaration :
    Yields loops s g.declaration (fun node _ => node.Formed .start ∧ node.hangs = false) := by
  refine yields_currentSpan fun start => yields_require (yields_advance fun _ _ => ?_)
  refine yields_bind yields_expectIdent fun (name, span) _ hname => ?_
  refine yields_bind (yields_initialValue hg) fun init _ hinit => ?_
  refine yields_bind (yields_declare _ _) fun _ _ _ => ?_
  exact yields_spanFrom fun _ => yields_pure ⟨.var hname hinit, rfl⟩

omit hg in
theorem yields_foreachAhead : Yields loops s foreachAhead (fun _ _ => True) := by
  refine yields_peek (yields_peek (yields_peek ?_))
  split
  · exact yields_pure trivial
  · exact yields_pure trivial
  · exact yields_pure trivial

theorem yields_foreachTail : Yields loops s (g.foreachTail start) (Node.placed loops) := by
  have hrest {name : String} (declared : Bool) (hname : IsName name) {s : Progress} :
      Yields loops s (do
        let _ ← expect (.symbol .colon)
        let iterable ← g.expr
        let _ ← expect (.symbol .rparen)
        let body ← inLoop g.body
        return Node.foreach (← spanFrom start) name declared iterable body)
        (Node.placed loops) := by
    refine yields_expect fun _ => yields_bind hg.expr fun iterable _ hiterable => ?_
    refine yields_expect fun _ => ?_
    refine yields_bind (yields_inLoop fun _ => hg.body) fun body _ hbody => ?_
    obtain ⟨hformed, hhangs⟩ := placed_looping hbody
    exact yields_spanFrom fun _ => yields_pure ⟨.foreach hname hiterable hformed, hhangs⟩
  refine yields_eat (fun _ _ => ?_) fun _ => ?_
  · refine yields_bind yields_expectIdent fun (name, span) _ hname => yields_require ?_
    exact yields_bind (yields_declare _ _) fun _ _ _ => hrest true hname
  · exact yields_bind yields_expectIdent fun (name, span) _ hname => hrest false hname

theorem yields_optionalExpr (closing : TokenKind) :
    Yields loops s (g.optionalExpr closing) (fun value? _ => ∀ t ∈ value?, t.Formed .operand) := by
  refine yields_check ?_
  split
  · exact yields_pure nofun
  · exact yields_some hg.expr

theorem yields_loopStart :
    Yields loops s g.loopStart (fun start? _ => ∀ t ∈ start?, t.Formed .start) := by
  refine yields_check ?_
  split
  · exact yields_some ((yields_declaration hg).imp fun _ _ hnode => hnode.1)
  · exact (yields_optionalExpr hg _).imp fun _ _ h t ht => .expression (h t ht)

theorem yields_countingTail : Yields loops s (g.countingTail start) (Node.placed loops) := by
  refine yields_bind (yields_loopStart hg) fun init _ hinit => yields_expect fun _ => ?_
  refine yields_bind (yields_optionalExpr hg _) fun cond _ hcond => yields_expect fun _ => ?_
  refine yields_bind (yields_optionalExpr hg _) fun step _ hstep => yields_expect fun _ => ?_
  refine yields_bind (yields_inLoop fun _ => hg.body) fun body _ hbody => ?_
  obtain ⟨hformed, hhangs⟩ := placed_looping hbody
  exact yields_spanFrom fun _ => yields_pure ⟨.forLoop hinit hcond hstep hformed, hhangs⟩

theorem yields_forStatement : Yields loops s g.forStatement (Node.placed loops) := by
  refine yields_currentSpan fun start => yields_require (yields_advance fun _ _ => ?_)
  refine yields_expect fun _ => yields_inScope false fun _ => ?_
  refine yields_bind yields_foreachAhead fun ahead _ _ => ?_
  cases ahead with
  | true => exact yields_foreachTail hg
  | false => exact yields_countingTail hg

theorem yields_whileStatement : Yields loops s g.whileStatement (Node.placed loops) := by
  refine yields_currentSpan fun start => yields_require (yields_advance fun _ _ => ?_)
  refine yields_bind (yields_condition hg) fun cond _ hcond => ?_
  refine yields_bind (yields_inLoop fun _ => hg.body) fun body _ hbody => ?_
  obtain ⟨hformed, hhangs⟩ := placed_looping hbody
  exact yields_spanFrom fun _ => yields_pure ⟨.whileLoop hcond hformed, hhangs⟩

theorem yields_doStatement : Yields loops s g.doStatement (Node.placed loops) := by
  refine yields_currentSpan fun start => yields_require (yields_advance fun _ _ => ?_)
  refine yields_bind (yields_inLoop fun _ => hg.body) fun body _ hbody => yields_expect fun _ => ?_
  refine yields_bind (yields_condition hg) fun cond _ hcond => ?_
  refine yields_bind yields_endSimple fun _ _ _ => yields_spanFrom fun _ => yields_pure ?_
  exact ⟨.doWhile (placed_looping hbody).1 hcond, nofun⟩

/-! ## Other statements -/

theorem yields_returnedValue :
    Yields loops s g.returnedValue (fun value? _ => ∀ t ∈ value?, t.Formed .operand) := by
  refine yields_currentKind fun _ => ?_
  split
  · exact yields_pure nofun
  · exact yields_pure nofun
  · exact yields_pure nofun
  · exact yields_some hg.expr

theorem yields_returnStatement : Yields loops s g.returnStatement (Node.placed loops) := by
  refine yields_currentSpan fun start => yields_advance fun _ _ => ?_
  refine yields_bind (yields_returnedValue hg) fun value _ hvalue => ?_
  refine yields_bind yields_endSimple fun _ _ _ => yields_spanFrom fun _ => yields_pure ?_
  exact ⟨.returnValue hvalue, nofun⟩

theorem yields_blockStatement : Yields loops s g.blockStatement (Node.placedBlock loops) := by
  refine yields_currentSpan fun start => yields_expect fun _ => ?_
  refine yields_bind (yields_inScope false fun _ => hg.blockStatements) fun statements _ hall => ?_
  exact yields_spanFrom fun _ => yields_pure ⟨.block hall, rfl⟩

theorem yields_annotationArguments :
    Yields loops s g.annotationArguments Node.operands := by
  refine yields_check ?_
  split
  · exact yields_callArguments hg
  · exact yields_pure nofun

theorem yields_annotatedStatement : Yields loops s g.annotatedStatement (Node.placed loops) := by
  refine yields_currentSpan fun start => yields_require (yields_advance fun _ _ => ?_)
  refine yields_bind yields_word fun (name, span) _ hname => ?_
  refine yields_bind (yields_annotationArguments hg) fun args _ hargs => ?_
  refine yields_bind hg.body fun statement _ hstatement => ?_
  exact yields_spanFrom fun _ => yields_pure ⟨.annotated hname hargs hstatement.1, hstatement.2⟩

/-! ## Directives -/

theorem yields_dottedTail {part : String} {parts : List String}
    (hparts : ∀ name ∈ part :: parts, IsWordName name) :
    Yields loops s (g.dottedTail (ScriptEngine.dottedName part parts)) Pragma.keyed := by
  refine yields_eat (fun _ _ => ?_) fun _ => yields_pure ⟨part, parts, hparts, rfl⟩
  refine yields_bind yields_word fun (next, span) _ hnext => ?_
  have hmore : ∀ name ∈ part :: (parts ++ [next]), IsWordName name := by
    rw [← List.cons_append]
    exact List.forall_mem_append.mpr ⟨hparts, List.forall_mem_singleton.mpr hnext⟩
  have hname : ScriptEngine.dottedName part (parts ++ [next]) =
      ScriptEngine.dottedName part parts ++ "." ++ next := by
    unfold ScriptEngine.dottedName
    rw [List.foldl_append]
    rfl
  have hdotted : ∀ s', Yields loops s' (g.dotted (ScriptEngine.dottedName part (parts ++ [next])))
      Pragma.keyed := fun _ => hg.dotted hmore
  rw [hname] at hdotted
  exact hdotted _

theorem yields_dottedName : Yields loops s g.dottedName Pragma.keyed := by
  refine yields_bind yields_word fun (name, span) _ hname => ?_
  have htail {s' : Progress} :
      Yields loops s' (g.dottedTail (ScriptEngine.dottedName name [])) Pragma.keyed :=
    yields_dottedTail hg (List.forall_mem_singleton.mpr hname)
  exact htail

theorem yields_pragmaValue :
    Yields loops s g.pragmaValue (fun value _ => value.IsSignedWritable) := by
  have hpass {s : Progress} {value : Literal} (h : value.IsSignedWritable) :
      Yields loops s (do let _ ← advance; return value) (fun value _ => value.IsSignedWritable) :=
    yields_advance fun _ _ => yields_pure h
  refine yields_currentKind fun hcurrent => ?_
  split
  case h_1 q hkind => exact hpass (hcurrent.number q hkind).2
  case h_2 =>
    refine yields_advance fun _ _ => yields_currentKind fun hnext => ?_
    split
    case h_1 q hkind =>
      obtain ⟨-, k, hk⟩ := hnext.number q hkind
      exact hpass ⟨k, by rwa [Rat.neg_den]⟩
    case h_2 => exact yields_currentSpan fun _ => yields_fail
  case h_3 => exact hpass trivial
  case h_4 => exact hpass trivial
  case h_5 => exact hpass trivial
  case h_6 => exact hpass trivial
  case h_7 => exact yields_map (yields_dottedName hg) fun _ _ _ => trivial
  case h_8 => exact yields_currentSpan fun _ => yields_fail

theorem yields_pragmaDirective : Yields loops s g.pragmaDirective (fun _ _ => True) := by
  refine yields_currentSpan fun start => yields_require (yields_advance fun _ _ => ?_)
  refine yields_bind yields_word fun (name, span) _ _ => ?_
  dsimp only
  split
  · refine yields_bind (yields_dottedName hg) fun key _ hkey => ?_
    refine yields_bind (yields_pragmaValue hg) fun value _ hvalue => ?_
    refine yields_bind yields_endSimple fun _ s' _ hs d a s'' hrun => ?_
    cases hrun
    refine ⟨⟨hs.tokens, hs.loops, ?_⟩, trivial⟩
    exact List.forall_mem_append.mpr ⟨hs.pragmas, List.forall_mem_singleton.mpr ⟨hkey, hvalue⟩⟩
  · exact yields_stop

/-! ## Statements in a row -/

theorem yields_statement :
    Yields loops s g.statement (fun node? c => ∀ node ∈ node?, node.placed loops c) := by
  have hsimple {s : Progress} {node : Node} (hnode : ∀ c, node.placed loops c) :
      Yields loops s (do
        endSimple
        return some node) (fun node? c => ∀ node ∈ node?, node.placed loops c) := by
    refine yields_bind yields_endSimple fun _ _ _ => yields_pure fun node' hnode' => ?_
    obtain rfl := Option.some.inj hnode'
    exact hnode _
  refine yields_currentKind fun _ => ?_
  split
  · exact yields_advance fun _ _ => yields_pure nofun
  · exact yields_bind (yields_pragmaDirective hg) fun _ _ _ => yields_pure nofun
  · exact yields_some (yields_ifStatement hg)
  · exact yields_some (yields_forStatement hg)
  · exact yields_some (yields_whileStatement hg)
  · exact yields_some (yields_doStatement hg)
  · refine yields_some ((yields_blockStatement hg).imp fun node _ ⟨hnode, hblock⟩ => ?_)
    exact placed_of_hangs hnode (Node.hangs_of_isBlock hblock)
  · exact yields_some (yields_annotatedStatement hg)
  · exact yields_some yields_loopControl
  · exact yields_some yields_loopControl
  · exact yields_some (yields_returnStatement hg)
  · refine yields_bind (yields_declaration hg) fun node _ ⟨hnode, hhangs⟩ => ?_
    exact hsimple fun _ => placed_of_hangs (.simple hnode) hhangs
  · refine yields_bind (yields_assignmentLevel hg) fun node _ hnode => ?_
    exact hsimple fun _ => placed_of_operand hnode

theorem yields_bodyStatement : Yields loops s g.bodyStatement (Node.placed loops) := by
  refine yields_currentSpan fun span => yields_eat (fun _ _ => ?_) fun _ => ?_
  · exact yields_pure ⟨.block nofun, nofun⟩
  · refine yields_bind (yields_statement hg) fun node? _ hnode => ?_
    cases node? with
    | none => exact yields_fail
    | some node => exact yields_pure (hnode node rfl)

/-- A statement, and more of them after it. -/
theorem yields_cons {more : Parse (List Node)}
    (hmore : ∀ {s}, Yields loops s more (Node.placedAll loops)) :
    Yields loops s (do
      let first ← g.statement
      let rest ← more
      return first.toList ++ rest) (Node.placedAll loops) := by
  refine yields_bind (yields_statement hg) fun first _ hfirst => ?_
  refine yields_bind hmore fun rest _ hrest => yields_pure ?_
  refine List.forall_mem_append.mpr ⟨fun node hnode => ?_, hrest⟩
  exact (hfirst node (Option.mem_toList.mp hnode)).1

theorem yields_statementsOfBlock :
    Yields loops s g.statementsOfBlock (Node.placedAll loops) := by
  refine yields_check ?_
  split
  · exact yields_advance fun _ _ => yields_pure nofun
  · refine yields_cursor fun _ => ?_
    split
    · exact yields_currentKind fun _ => yields_currentSpan fun _ => yields_stop
    · exact yields_cons hg hg.blockStatements

theorem yields_statementsOfScript :
    Yields loops s g.statementsOfScript (Node.placedAll loops) := by
  refine yields_cursor fun _ => ?_
  split
  · exact yields_pure nofun
  · exact yields_cons hg hg.statements

end

/-! ## All productions together -/

theorem forms_exhausted : exhausted.Forms := by
  have hstop {α : Type} {loops : Nat} {s : Progress} {holds : α → Cursor → Prop} :
      Yields loops s (do fail .exhausted (← currentSpan)) holds :=
    yields_currentSpan fun _ => yields_fail
  exact {
    expr := hstop
    assignment := hstop
    conditional := hstop
    binary := fun _ => hstop
    binaryTail := fun _ _ _ _ => hstop
    unary := hstop
    accesses := fun _ _ _ => hstop
    arguments := hstop
    items := hstop
    moreItems := hstop
    moreEntries := hstop
    parameters := fun _ _ => hstop
    dotted := fun _ => hstop
    block := hstop
    body := hstop
    blockStatements := hstop
    statements := hstop }

theorem forms_extend (hg : g.Forms) : g.extend.Forms where
  expr := yields_assignmentLevel hg
  assignment := yields_assignmentLevel hg
  conditional := yields_conditionalLevel hg
  binary := yields_binaryLevel hg
  binaryTail least _ _ := yields_climb hg least
  unary := yields_unaryLevel hg
  accesses _ _ := yields_accessTail hg
  arguments := yields_argumentList hg
  items := yields_itemList hg
  moreItems := yields_setTail hg
  moreEntries := yields_mapTail hg
  parameters := yields_parameterList hg
  dotted := yields_dottedTail hg
  block := yields_blockStatement hg
  body := yields_bodyStatement hg
  blockStatements := yields_statementsOfBlock hg
  statements := yields_statementsOfScript hg

/-- **The productions form trees**, with any number of nested requests. -/
theorem forms_upTo (n : Nat) : (upTo n).Forms := by
  induction n with
  | zero => exact forms_exhausted
  | succ n ih => exact forms_extend ih

theorem yields_scriptBody (n : Nat) : Yields loops s (scriptBody n) (Node.placedAll loops) := by
  have hend {s : Progress} {body : List Node} (hbody : ∀ c, Node.placedAll loops body c) :
      Yields loops s (do
        semicolons n
        expectEnd
        return body) (Node.placedAll loops) :=
    yields_bind (yields_semicolons n) fun _ s' _ =>
      yields_bind yields_expectEnd fun _ s'' _ => yields_pure (hbody s''.cursor)
  refine yields_read fun d => ?_
  split
  · exact (forms_upTo n).statements
  · refine yields_cursor fun _ => ?_
    split
    · exact hend fun _ => nofun
    · have hbody {s : Progress} : Yields loops s ((fun node => [node]) <$> (upTo n).expr)
          (Node.placedAll loops) :=
        yields_map (forms_upTo n).expr fun _ _ hnode =>
          List.forall_mem_singleton.mpr (.simple (.expression hnode))
      exact yields_bind hbody fun _ _ hall => hend fun _ => hall

/-- **A whole script is formed**: its statements stand outside of all loops. -/
theorem yields_wholeScript (n : Nat) (params : List String) :
    Yields 0 s (wholeScript n params) (fun tree _ => tree.FormedScript) := by
  refine yields_currentSpan fun start => yields_bind (yields_declareAll _ _) fun _ _ _ => ?_
  refine yields_bind (yields_scriptBody n) fun body s' hbody => ?_
  have hscript {s : Progress} (span : Span) : Yields 0 s (do
      return Node.script span body (← get).pragmas) (fun tree _ => tree.FormedScript) :=
    yields_get (yields_lawful fun hs => yields_pure (.intro hbody hs.pragmas))
  split
  · exact hscript start
  · exact yields_spanFrom fun span => hscript span

end Grammar

/-- **The tree of a script is formed**, whatever the features and the source. -/
theorem Node.formed_of_ofScript {dialect : Dialect} {params : List String} {source : String}
    {tree : Node} (h : Node.ofScript dialect params (Token.ofSource source) = .ok tree) :
    tree.FormedScript := by
  unfold ofScript ofTokens at h
  split at h
  case h_1 => cases h
  case h_2 hvalid =>
    have hlawful : (Parse.start (Token.ofSource source)).Lawful 0 := by
      refine ⟨fun token htoken => ?_, rfl, nofun⟩
      exact Token.lawful_of_mem_ofSource htoken (Token.valid_of_firstError hvalid token htoken)
    cases hrun : Grammar.wholeScript ((Token.ofSource source).length + 2) params dialect
        (Parse.start (Token.ofSource source)) with
    | error e =>
        rw [hrun] at h
        cases h
    | ok r =>
        rw [hrun] at h
        cases h
        exact (Grammar.yields_wholeScript _ _ hlawful dialect r.1 r.2 hrun).2

end ScriptEngine

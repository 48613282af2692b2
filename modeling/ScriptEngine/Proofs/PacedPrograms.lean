import ScriptEngine.Proofs.PacedExpressions

/-!
# The pace of statements

Every statement begins with a token of its own or with an expression, so that one that is read
passes a token.  Parts that may be left out, such as the statements of an empty source, pass
none; these ask for nothing then.

* `Pace.keeps_statement`, `Pace.keeps_bodyStatement` — one statement;
* `Pace.keeps_statementsOfBlock`, `Pace.keeps_statementsOfScript` — sequences of statements;
* `Pace.keeps_extend` — all productions that a grammar is made of.
-/

namespace ScriptEngine

namespace Pace

open Parse Grammar

variable {p : Pace} {st st' : Stage} {g g' : Grammar}

/-! ## Where statements end -/

theorem keeps_endSimple : p.Keeps st st endSimple endSimple :=
  keeps_eat nofun (.anyEnd (keeps_pure ())) (keeps_pure ())

/-- A part that may be left out. -/
theorem keeps_some {step step' : Parse Node} (h : p.Keeps st st' step step') :
    p.Keeps st st' (some <$> step) (some <$> step') :=
  keeps_map some h

section

variable (hg : p.Serves g g')

include hg

theorem keeps_returnedValue : p.Keeps .passed .passed g.returnedValue g'.returnedValue := by
  refine keeps_currentKind fun kind => .inl ?_
  split
  · exact keeps_pure none
  · exact keeps_pure none
  · exact keeps_pure none
  · exact keeps_some (hg .expr)

theorem keeps_elseBranch : p.Keeps .passed .passed g.elseBranch g'.elseBranch := by
  have hbranch : p.Keeps .passed .passed
      (do if ← eat (.keyword .kwElse) then some <$> g.body else return none)
      (do if ← eat (.keyword .kwElse) then some <$> g'.body else return none) :=
    keeps_eat nofun (keeps_some (hg .body)) (keeps_pure none)
  have hsemicolon (found : Bool) : p.Keeps .passed .passed (do
        if found && (← peek 1) = .keyword .kwElse then
          let _ ← advance
        if ← eat (.keyword .kwElse) then some <$> g.body else return none) (do
        if found && (← peek 1) = .keyword .kwElse then
          let _ ← advance
        if ← eat (.keyword .kwElse) then some <$> g'.body else return none) := by
    apply keeps_peek
    intro kind
    split
    · exact .further (keeps_advance fun _ => hbranch)
    · exact hbranch
  exact keeps_check (.inl (hsemicolon true)) (hsemicolon false)

/-! ## Statements -/

theorem keeps_condition : p.Keeps st .passed g.condition g'.condition := by
  refine keeps_expect nofun fun _ => ?_
  apply keeps_bind (hg .expr)
  intro cond
  exact keeps_expect nofun fun _ => keeps_pure cond

theorem keeps_ifStatement : p.Keeps .near .passed g.ifStatement g'.ifStatement := by
  apply keeps_currentSpan
  intro start
  apply keeps_advance
  intro _
  apply keeps_bind (keeps_condition hg)
  intro cond
  apply keeps_bind (hg .body)
  intro thenBranch
  apply keeps_bind (keeps_elseBranch hg)
  intro elseBranch
  exact keeps_make start _

theorem keeps_initialValue : p.Keeps .passed .passed g.initialValue g'.initialValue :=
  keeps_eat nofun (keeps_some (hg .expr)) (keeps_pure none)

theorem keeps_declaration : p.Keeps .near .passed g.declaration g'.declaration := by
  apply keeps_currentSpan
  intro start
  apply keeps_require
  apply keeps_advance
  intro _
  apply keeps_expectIdent
  intro found
  apply keeps_bind (keeps_initialValue hg)
  intro init
  apply keeps_bind (keeps_declare found.1 found.2)
  intro _
  exact keeps_make start _

omit hg in
theorem keeps_foreachAhead : p.Keeps st st foreachAhead foreachAhead := by
  apply keeps_peek
  intro first
  apply keeps_peek
  intro second
  apply keeps_peek
  intro third
  split <;> exact keeps_pure _

theorem keeps_foreachTail (start : Span) :
    p.Keeps .passed .passed (g.foreachTail start) (g'.foreachTail start) := by
  have hrest (name : String) (declared : Bool) : p.Keeps .passed .passed (do
        let _ ← expect (.symbol .colon)
        let iterable ← g.expr
        let _ ← expect (.symbol .rparen)
        let body ← inLoop g.body
        return Node.foreach (← spanFrom start) name declared iterable body) (do
        let _ ← expect (.symbol .colon)
        let iterable ← g'.expr
        let _ ← expect (.symbol .rparen)
        let body ← inLoop g'.body
        return Node.foreach (← spanFrom start) name declared iterable body) := by
    refine keeps_expect nofun fun _ => ?_
    apply keeps_bind (hg .expr)
    intro iterable
    refine keeps_expect nofun fun _ => ?_
    apply keeps_bind (keeps_inLoop (hg .body))
    intro body
    exact keeps_make start _
  refine keeps_eat nofun ?_ ?_
  · apply keeps_expectIdent
    intro found
    apply keeps_require
    apply keeps_bind (keeps_declare found.1 found.2)
    intro _
    exact hrest found.1 true
  · apply keeps_expectIdent
    intro found
    exact hrest found.1 false

theorem keeps_optionalExpr (closing : TokenKind) :
    p.Keeps .passed .passed (g.optionalExpr closing) (g'.optionalExpr closing) :=
  keeps_check (.inl (keeps_pure none)) (keeps_some (hg .expr))

theorem keeps_loopStart : p.Keeps .passed .passed g.loopStart g'.loopStart :=
  keeps_check (.inl (keeps_some (.further (keeps_declaration hg)))) (keeps_optionalExpr hg _)

theorem keeps_countingTail (start : Span) :
    p.Keeps .passed .passed (g.countingTail start) (g'.countingTail start) := by
  apply keeps_bind (keeps_loopStart hg)
  intro init
  refine keeps_expect nofun fun _ => ?_
  apply keeps_bind (keeps_optionalExpr hg _)
  intro cond
  refine keeps_expect nofun fun _ => ?_
  apply keeps_bind (keeps_optionalExpr hg _)
  intro step
  refine keeps_expect nofun fun _ => ?_
  apply keeps_bind (keeps_inLoop (hg .body))
  intro body
  exact keeps_make start _

theorem keeps_forStatement : p.Keeps .near .passed g.forStatement g'.forStatement := by
  apply keeps_currentSpan
  intro start
  apply keeps_require
  apply keeps_advance
  intro _
  refine keeps_expect nofun fun _ => ?_
  apply keeps_inScope false
  apply keeps_bind keeps_foreachAhead
  intro ahead
  split
  · exact keeps_foreachTail hg start
  · exact keeps_countingTail hg start

theorem keeps_whileStatement : p.Keeps .near .passed g.whileStatement g'.whileStatement := by
  apply keeps_currentSpan
  intro start
  apply keeps_require
  apply keeps_advance
  intro _
  apply keeps_bind (keeps_condition hg)
  intro cond
  apply keeps_bind (keeps_inLoop (hg .body))
  intro body
  exact keeps_make start _

theorem keeps_doStatement : p.Keeps .near .passed g.doStatement g'.doStatement := by
  apply keeps_currentSpan
  intro start
  apply keeps_require
  apply keeps_advance
  intro _
  apply keeps_bind (keeps_inLoop (hg .body))
  intro body
  refine keeps_expect nofun fun _ => ?_
  apply keeps_bind (keeps_condition hg)
  intro cond
  apply keeps_bind keeps_endSimple
  intro _
  exact keeps_make start _

omit hg in
theorem keeps_loopControl : p.Keeps .near .passed loopControl loopControl := by
  apply keeps_advance
  intro token
  apply keeps_get
  intro s
  dsimp only
  split
  · exact keeps_stop nofun
  · exact keeps_bind keeps_endSimple fun _ => keeps_pure _

theorem keeps_returnStatement : p.Keeps .near .passed g.returnStatement g'.returnStatement := by
  apply keeps_currentSpan
  intro start
  apply keeps_advance
  intro _
  apply keeps_bind (keeps_returnedValue hg)
  intro value
  apply keeps_bind keeps_endSimple
  intro _
  exact keeps_make start _

theorem keeps_blockStatement : p.Keeps st .passed g.blockStatement g'.blockStatement := by
  apply keeps_currentSpan
  intro start
  refine keeps_expect nofun fun _ => ?_
  apply keeps_bind (keeps_inScope false (hg .blockStatements))
  intro statements
  exact keeps_make start _

theorem keeps_annotationArguments :
    p.Keeps .passed .passed g.annotationArguments g'.annotationArguments :=
  keeps_check (.inl (keeps_callArguments hg)) (keeps_pure [])

theorem keeps_annotatedStatement :
    p.Keeps .near .passed g.annotatedStatement g'.annotatedStatement := by
  apply keeps_currentSpan
  intro start
  apply keeps_require
  apply keeps_advance
  intro _
  apply keeps_bind keeps_word
  intro found
  apply keeps_bind (keeps_annotationArguments hg)
  intro args
  apply keeps_bind (hg .body)
  intro statement
  exact keeps_make start _

/-! ## Directives -/

theorem keeps_dottedTail (name : String) :
    p.Keeps st st (g.dottedTail name) (g'.dottedTail name) := by
  refine keeps_eat nofun (.anyEnd ?_) (keeps_pure name)
  apply keeps_bind keeps_word
  intro part
  exact hg (.dotted (name ++ "." ++ part.1))

theorem keeps_dottedName : p.Keeps st .passed g.dottedName g'.dottedName := by
  apply keeps_bind keeps_word
  intro name
  exact keeps_dottedTail hg name.1

omit hg in
/-- A value that is one token. -/
theorem keeps_value (value : Literal) : p.Keeps .near .passed (do let _ ← advance; return value)
    (do let _ ← advance; return value) :=
  keeps_advance fun _ => keeps_pure value

theorem keeps_pragmaValue : p.Keeps st .passed g.pragmaValue g'.pragmaValue := by
  refine keeps_currentKind fun kind => ?_
  split
  · exact .inr ⟨nofun, keeps_value _⟩
  · refine .inr ⟨nofun, keeps_advance fun _ => keeps_currentKind fun kind => .inl ?_⟩
    split
    · exact .further (keeps_value _)
    · exact fun _ _ => ⟨rfl, nofun⟩
  · exact .inr ⟨nofun, keeps_value _⟩
  · exact .inr ⟨nofun, keeps_value _⟩
  · exact .inr ⟨nofun, keeps_value _⟩
  · exact .inr ⟨nofun, keeps_value _⟩
  · exact .inl (keeps_map Literal.text (keeps_dottedName hg))
  · exact .inl fun _ _ => ⟨rfl, nofun⟩

theorem keeps_pragmaDirective : p.Keeps .near .passed g.pragmaDirective g'.pragmaDirective := by
  apply keeps_currentSpan
  intro start
  apply keeps_require
  apply keeps_advance
  intro _
  apply keeps_bind keeps_word
  intro found
  dsimp only
  split
  · apply keeps_bind (keeps_dottedName hg)
    intro key
    apply keeps_bind (keeps_pragmaValue hg)
    intro value
    apply keeps_bind keeps_endSimple
    intro _
    exact keeps_modify fun _ => rfl
  · exact keeps_stop nofun

/-! ## Sequences of statements -/

omit hg in
/-- An expression or a declaration, and what may end it. -/
theorem keeps_simple {step step' : Parse Node} (h : p.Keeps st st' step step') :
    p.Keeps st st' (do let node ← step; endSimple; return some node)
      (do let node ← step'; endSimple; return some node) := by
  apply keeps_bind h
  intro node
  exact keeps_bind keeps_endSimple fun _ => keeps_pure (some node)

theorem keeps_statement : p.Keeps st .passed g.statement g'.statement := by
  refine keeps_currentKind fun kind => ?_
  split
  · exact .inr ⟨nofun, keeps_advance fun _ => keeps_pure none⟩
  · exact .inr ⟨nofun, keeps_bind (keeps_pragmaDirective hg) fun _ => keeps_pure none⟩
  · exact .inr ⟨nofun, keeps_some (keeps_ifStatement hg)⟩
  · exact .inr ⟨nofun, keeps_some (keeps_forStatement hg)⟩
  · exact .inr ⟨nofun, keeps_some (keeps_whileStatement hg)⟩
  · exact .inr ⟨nofun, keeps_some (keeps_doStatement hg)⟩
  · exact .inl (keeps_some (keeps_blockStatement hg))
  · exact .inr ⟨nofun, keeps_some (keeps_annotatedStatement hg)⟩
  · exact .inr ⟨nofun, keeps_some keeps_loopControl⟩
  · exact .inr ⟨nofun, keeps_some keeps_loopControl⟩
  · exact .inr ⟨nofun, keeps_some (keeps_returnStatement hg)⟩
  · exact .inr ⟨nofun, keeps_simple (keeps_declaration hg)⟩
  · exact .inl (keeps_simple (keeps_assignmentLevel hg))

theorem keeps_bodyStatement : p.Keeps st .passed g.bodyStatement g'.bodyStatement := by
  apply keeps_currentSpan
  intro span
  refine keeps_eat nofun (keeps_pure _) ?_
  apply keeps_bind (keeps_statement hg)
  intro found
  cases found with
  | none => exact keeps_fail nofun
  | some node => exact keeps_pure node

theorem keeps_statementsOfBlock :
    p.Keeps st .passed g.statementsOfBlock g'.statementsOfBlock := by
  refine keeps_check (.inr ⟨nofun, ?_⟩) ?_
  · rw [if_pos rfl]
    exact keeps_advance fun _ => keeps_pure []
  rw [if_neg nofun]
  refine keeps_cursor fun c => .inl ?_
  split
  · refine keeps_currentKind fun kind => .inl ?_
    apply keeps_currentSpan
    intro span
    exact keeps_stop nofun
  · apply keeps_bind (keeps_statement hg)
    intro first
    apply keeps_bind (hg .blockStatements)
    intro rest
    exact keeps_pure _

theorem keeps_statementsOfScript :
    p.Keeps st st g.statementsOfScript g'.statementsOfScript := by
  refine keeps_cursor fun c => .inl ?_
  split
  · exact keeps_pure []
  · apply Keeps.anyEnd
    apply keeps_bind (keeps_statement hg)
    intro first
    apply keeps_bind (hg .statements)
    intro rest
    exact keeps_pure _

/-! ## All productions -/

/-- **Every production ends alike in two grammars**, and has passed a token if it takes one, if
the grammars that it may ask give the same answers further on. -/
theorem keeps_extend {α : Type} (r : Production α) :
    p.Keeps .begun r.stage (g.extend.parse r) (g'.extend.parse r) := by
  cases r with
  | expr => exact keeps_assignmentLevel hg
  | assignment => exact keeps_assignmentLevel hg
  | conditional => exact keeps_conditionalLevel hg
  | binary least => exact keeps_binaryLevel hg least
  | binaryTail least start left => exact keeps_climb hg least start left
  | unary => exact keeps_unaryLevel hg
  | accesses start object => exact keeps_accessTail hg start object
  | arguments => exact keeps_argumentList hg
  | items => exact keeps_itemList hg
  | moreItems => exact keeps_setTail hg
  | moreEntries => exact keeps_mapTail hg
  | parameters params => exact keeps_parameterList hg params
  | dotted name => exact keeps_dottedTail hg name
  | block => exact keeps_blockStatement hg
  | body => exact keeps_bodyStatement hg
  | blockStatements => exact keeps_statementsOfBlock hg
  | statements => exact keeps_statementsOfScript hg

end

end Pace

end ScriptEngine

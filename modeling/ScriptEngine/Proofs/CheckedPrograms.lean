import ScriptEngine.Proofs.CheckedExpressions

/-!
# Programs and the checks of declarations

The productions of statements account for their declarations as well, and so do all of them
together, by induction on the number of nested requests.  A declaration enters the innermost
scope and stays there for the statements that follow; blocks and the heads of loops close the
scopes that they open.

* `Checking.accounts_declaration`, `Checking.accounts_blockStatement`, … — statements;
* `Checking.accounted_upTo` — the productions with any number of nested requests;
* `Checking.Results`, `Checking.results_ofScript`, … — whole token lists.
-/

namespace ScriptEngine

namespace Checking

open Parse Grammar

variable {q : Checking} {g : Grammar} {scopes : List Scope} {start : Span}

/-! ## Statements -/

theorem accounts_endSimple : q.Accounts scopes endSimple (.silent scopes) :=
  accounts_eat (accounts_pure ⟨rfl, rfl, trivial⟩) (accounts_pure ⟨rfl, rfl, trivial⟩)

/-- What changes no scope is a statement as well. -/
theorem accounts_statementOf {step : Parse Node} {holds : Node → Prop}
    (h : q.Accounts scopes step (.within scopes Node.walk holds)) :
    q.Accounts scopes step (.along scopes Node.walk) := by
  refine accounts_imp h ?_
  rintro node _ met ⟨rfl, hwalk, -⟩
  exact hwalk

/-- A part that may be left out is there. -/
theorem accounts_some {step : Parse Node} {holds : Node → Prop}
    (h : q.Accounts scopes step (.within scopes Node.walk holds)) :
    q.Accounts scopes (some <$> step) (.parts scopes Node.walkOption) :=
  accounts_map (accounts_imp h fun _ _ _ ⟨hlast, hwalk, _⟩ => ⟨hlast, hwalk, trivial⟩)

/-- A statement that may be left out is there. -/
theorem accounts_someStatement {step : Parse Node}
    (h : q.Accounts scopes step (.along scopes Node.walk)) :
    q.Accounts scopes (some <$> step) (.along scopes Node.walkOption) :=
  accounts_map h

theorem accounts_loopControl : q.Accounts scopes loopControl (.along scopes Node.walk) := by
  refine accounts_advance fun token htoken => accounts_get fun s => ?_
  dsimp only
  split
  · exact accounts_stop htoken
  · refine accounts_plain accounts_endSimple fun _ _ => accounts_pure ?_
    split <;> exact .stay

section

variable (hg : g.Accounted q)

include hg

theorem accounts_condition : q.Accounts scopes g.condition (q.operand scopes) := by
  refine accounts_expect fun _ => accounts_within hg.expr fun cond met hcond hspan => ?_
  exact accounts_expect fun _ => accounts_pure ⟨rfl, hcond.done, hspan⟩

theorem accounts_elseBranch :
    q.Accounts scopes g.elseBranch (.along scopes Node.walkOption) := by
  have hbranch : q.Accounts scopes
      (do if ← eat (.keyword .kwElse) then some <$> g.body else return none)
      (.along scopes Node.walkOption) :=
    accounts_eat (accounts_someStatement hg.body) (accounts_pure .stay)
  refine accounts_check fun semicolon => accounts_peek fun following => ?_
  split
  · exact accounts_advance fun _ _ => hbranch
  · exact hbranch

theorem accounts_ifStatement : q.Accounts scopes g.ifStatement (.along scopes Node.walk) := by
  refine accounts_currentSpan fun start hstart => accounts_advance fun _ _ => ?_
  refine accounts_within (accounts_condition hg) fun cond met hcond _ => ?_
  refine accounts_bind hg.body fun thenBranch between met₁ hthen => ?_
  refine accounts_bind (accounts_elseBranch hg) fun elseBranch last met₂ helse => ?_
  refine accounts_spanFrom hstart fun _ _ => accounts_pure ?_
  exact hcond.andThen (hthen.andThen helse.done)

theorem accounts_initialValue :
    q.Accounts scopes g.initialValue (.parts scopes Node.walkOption) :=
  accounts_eat (accounts_some hg.expr) (accounts_pure ⟨rfl, .stay, trivial⟩)

/-- The initial value is read before the name enters the scope. -/
theorem accounts_declaration : q.Accounts scopes g.declaration (.along scopes Node.walk) := by
  refine accounts_currentSpan fun start hstart => accounts_require hstart rfl ?_
  refine accounts_advance fun _ _ => accounts_plain accounts_expectIdent ?_
  intro (name, span) hname
  refine accounts_within (accounts_initialValue hg) fun init met hinit _ => ?_
  refine accounts_bind (accounts_declare name hname) fun _ last met₁ hdeclare => ?_
  exact accounts_spanFrom hstart fun _ _ => accounts_pure (hinit.andThen hdeclare.done)

omit hg in
theorem accounts_foreachAhead : q.Accounts scopes foreachAhead (.silent scopes) := by
  refine accounts_peek fun first => accounts_peek fun second => accounts_peek fun third => ?_
  split
  · exact accounts_pure ⟨rfl, rfl, trivial⟩
  · exact accounts_pure ⟨rfl, rfl, trivial⟩
  · exact accounts_pure ⟨rfl, rfl, trivial⟩

/-- The outcome of a loop whose head has opened a scope: a walk in this scope meets what was
declared. -/
@[reducible]
def headed (scopes : List Scope) : Outcome Node := fun node last met =>
  ∃ w : Walk, node.walk = .inScope false w ∧ w.Does scopes met last

theorem accounts_foreachTail (hstart : q.Here start) :
    q.Accounts scopes (g.foreachTail start) (headed scopes) := by
  have hrest (name : String) (declared : Bool) {met : List Declaration} {between : List Scope}
      (hname : (if declared then .declare name else .stay : Walk).Does scopes met between) :
      q.Accounts between (do
        let _ ← expect (.symbol .colon)
        let iterable ← g.expr
        let _ ← expect (.symbol .rparen)
        let body ← inLoop g.body
        return Node.foreach (← spanFrom start) name declared iterable body)
        (.later met (headed scopes)) := by
    refine accounts_expect fun _ => accounts_within hg.expr fun iterable met₁ hiterable _ => ?_
    refine accounts_expect fun _ => accounts_bind (accounts_inLoop hg.body) ?_
    intro body last met₂ hbody
    refine accounts_spanFrom hstart fun _ _ => accounts_pure ⟨_, rfl, ?_⟩
    exact hname.andThen (hiterable.andThen hbody.done)
  refine accounts_eat ?_ ?_
  · refine accounts_plain accounts_expectIdent fun (name, span) hname => ?_
    refine accounts_require hname rfl ?_
    exact accounts_bind (accounts_declare name hname) fun _ _ _ hdeclare => hrest name true hdeclare
  · refine accounts_plain accounts_expectIdent fun (name, span) hname => ?_
    exact hrest name false .stay

theorem accounts_optionalExpr (closing : TokenKind) :
    q.Accounts scopes (g.optionalExpr closing) (.parts scopes Node.walkOption) := by
  refine accounts_check fun closed => ?_
  split
  · exact accounts_pure ⟨rfl, .stay, trivial⟩
  · exact accounts_some hg.expr

theorem accounts_loopStart : q.Accounts scopes g.loopStart (.along scopes Node.walkOption) := by
  refine accounts_check fun declared => ?_
  split
  · exact accounts_someStatement (accounts_declaration hg)
  · refine accounts_imp (accounts_optionalExpr hg _) ?_
    rintro init _ met ⟨rfl, hinit, -⟩
    exact hinit

theorem accounts_countingTail (hstart : q.Here start) :
    q.Accounts scopes (g.countingTail start) (headed scopes) := by
  refine accounts_bind (accounts_loopStart hg) fun init between met hinit => ?_
  refine accounts_expect fun _ => accounts_within (accounts_optionalExpr hg _) ?_
  intro cond met₁ hcond _
  refine accounts_expect fun _ => accounts_within (accounts_optionalExpr hg _) ?_
  intro step met₂ hstep _
  refine accounts_expect fun _ => accounts_bind (accounts_inLoop hg.body) ?_
  intro body last met₃ hbody
  refine accounts_spanFrom hstart fun _ _ => accounts_pure ⟨_, rfl, ?_⟩
  exact hinit.andThen (hcond.andThen (hstep.andThen hbody.done))

theorem accounts_forStatement : q.Accounts scopes g.forStatement (.parts scopes Node.walk) := by
  refine accounts_currentSpan fun start hstart => accounts_require hstart rfl ?_
  refine accounts_advance fun _ _ => accounts_expect fun _ => ?_
  refine accounts_inScope (headed (⟨[], false⟩ :: scopes)) ?_ ?_
  · refine accounts_plain accounts_foreachAhead fun ahead _ => ?_
    cases ahead with
    | true => exact accounts_foreachTail hg hstart
    | false => exact accounts_countingTail hg hstart
  · rintro node last met ⟨w, hnode, hwalk⟩
    exact ⟨hwalk.outer, hnode ▸ hwalk.inScope, trivial⟩

theorem accounts_whileStatement :
    q.Accounts scopes g.whileStatement (.along scopes Node.walk) := by
  refine accounts_currentSpan fun start hstart => accounts_require hstart rfl ?_
  refine accounts_advance fun _ _ => accounts_within (accounts_condition hg) ?_
  intro cond met hcond _
  refine accounts_bind (accounts_inLoop hg.body) fun body last met₁ hbody => ?_
  exact accounts_spanFrom hstart fun _ _ => accounts_pure (hcond.andThen hbody.done)

theorem accounts_doStatement : q.Accounts scopes g.doStatement (.along scopes Node.walk) := by
  refine accounts_currentSpan fun start hstart => accounts_require hstart rfl ?_
  refine accounts_advance fun _ _ => accounts_bind (accounts_inLoop hg.body) ?_
  intro body last met hbody
  refine accounts_expect fun _ => accounts_within (accounts_condition hg) ?_
  intro cond met₁ hcond _
  refine accounts_plain accounts_endSimple fun _ _ => ?_
  exact accounts_spanFrom hstart fun _ _ => accounts_pure (hbody.andThen hcond.done)

theorem accounts_returnedValue :
    q.Accounts scopes g.returnedValue (.parts scopes Node.walkOption) := by
  refine accounts_currentKind fun kind => ?_
  split
  · exact accounts_pure ⟨rfl, .stay, trivial⟩
  · exact accounts_pure ⟨rfl, .stay, trivial⟩
  · exact accounts_pure ⟨rfl, .stay, trivial⟩
  · exact accounts_some hg.expr

theorem accounts_returnStatement :
    q.Accounts scopes g.returnStatement (.parts scopes Node.walk) := by
  refine accounts_currentSpan fun start hstart => accounts_advance fun _ _ => ?_
  refine accounts_within (accounts_returnedValue hg) fun value met hvalue _ => ?_
  refine accounts_plain accounts_endSimple fun _ _ => accounts_spanFrom hstart fun _ _ => ?_
  exact accounts_pure ⟨rfl, hvalue.done, trivial⟩

/-- What the statements of a block declare is in the scope of the block. -/
theorem accounts_blockStatement :
    q.Accounts scopes g.blockStatement (.parts scopes Node.walk) := by
  refine accounts_currentSpan fun start hstart => accounts_expect fun _ => ?_
  have hinner : q.Accounts scopes (inScope false g.blockStatements)
      (.parts scopes fun statements => .inScope false (Node.walkAll statements)) :=
    accounts_inScope (.along (⟨[], false⟩ :: scopes) Node.walkAll) hg.blockStatements
      fun _ _ _ hwalk => ⟨hwalk.outer, hwalk.inScope, trivial⟩
  refine accounts_within hinner fun statements met hwalk _ => ?_
  exact accounts_spanFrom hstart fun _ _ => accounts_pure ⟨rfl, hwalk.done, trivial⟩

theorem accounts_annotationArguments :
    q.Accounts scopes g.annotationArguments (.parts scopes Node.walkAll) := by
  refine accounts_check fun found => ?_
  split
  · exact accounts_callArguments hg
  · exact accounts_pure ⟨rfl, .stay, trivial⟩

theorem accounts_annotatedStatement :
    q.Accounts scopes g.annotatedStatement (.along scopes Node.walk) := by
  refine accounts_currentSpan fun start hstart => accounts_require hstart rfl ?_
  refine accounts_advance fun _ _ => accounts_plain accounts_word fun (name, span) _ => ?_
  refine accounts_within (accounts_annotationArguments hg) fun args met hargs _ => ?_
  refine accounts_bind hg.body fun statement last met₁ hstatement => ?_
  exact accounts_spanFrom hstart fun _ _ => accounts_pure (hargs.andThen hstatement.done)

/-! ## Directives -/

theorem accounts_dottedTail (name : String) :
    q.Accounts scopes (g.dottedTail name) (.silent scopes) := by
  refine accounts_eat ?_ (accounts_pure ⟨rfl, rfl, trivial⟩)
  exact accounts_plain accounts_word fun _ _ => hg.dotted _

theorem accounts_dottedName : q.Accounts scopes g.dottedName (.silent scopes) :=
  accounts_plain accounts_word fun (name, _) _ => accounts_dottedTail hg name

theorem accounts_pragmaValue : q.Accounts scopes g.pragmaValue (.silent scopes) := by
  have hpass (value : Literal) :
      q.Accounts scopes (do let _ ← advance; return value) (.silent scopes) :=
    accounts_advance fun _ _ => accounts_pure ⟨rfl, rfl, trivial⟩
  refine accounts_currentKind fun kind => ?_
  split
  · exact hpass _
  · refine accounts_advance fun _ _ => accounts_currentKind fun kind => ?_
    split
    · exact hpass _
    · exact accounts_currentSpan fun _ hspan => accounts_fail hspan
  · exact hpass _
  · exact hpass _
  · exact hpass _
  · exact hpass _
  · exact accounts_map (accounts_dottedName hg)
  · exact accounts_currentSpan fun _ hspan => accounts_fail hspan

theorem accounts_pragmaDirective : q.Accounts scopes g.pragmaDirective (.silent scopes) := by
  refine accounts_currentSpan fun start hstart => accounts_require hstart rfl ?_
  refine accounts_advance fun _ _ => accounts_plain accounts_word fun (name, span) hname => ?_
  dsimp only
  split
  · refine accounts_plain (accounts_dottedName hg) fun key _ => ?_
    refine accounts_plain (accounts_pragmaValue hg) fun value _ => ?_
    refine accounts_plain accounts_endSimple fun _ _ => ?_
    exact accounts_same fun s hscopes hanchored =>
      ⟨(), _, rfl, rfl, hanchored, hscopes, rfl, trivial⟩
  · exact accounts_stop hname

/-! ## Sequences of statements -/

theorem accounts_statement : q.Accounts scopes g.statement (.along scopes Node.walkOption) := by
  refine accounts_currentKind fun kind => ?_
  split
  · exact accounts_advance fun _ _ => accounts_pure .stay
  · exact accounts_plain (accounts_pragmaDirective hg) fun _ _ => accounts_pure .stay
  · exact accounts_someStatement (accounts_ifStatement hg)
  · exact accounts_someStatement (accounts_statementOf (accounts_forStatement hg))
  · exact accounts_someStatement (accounts_whileStatement hg)
  · exact accounts_someStatement (accounts_doStatement hg)
  · exact accounts_someStatement (accounts_statementOf (accounts_blockStatement hg))
  · exact accounts_someStatement (accounts_annotatedStatement hg)
  · exact accounts_someStatement accounts_loopControl
  · exact accounts_someStatement accounts_loopControl
  · exact accounts_someStatement (accounts_statementOf (accounts_returnStatement hg))
  · refine accounts_bind (accounts_declaration hg) fun node last met hwalk => ?_
    exact accounts_plain accounts_endSimple fun _ _ => accounts_pure hwalk.done
  · refine accounts_within (accounts_assignmentLevel hg) fun node met hwalk _ => ?_
    exact accounts_plain accounts_endSimple fun _ _ => accounts_pure hwalk.done

theorem accounts_bodyStatement :
    q.Accounts scopes g.bodyStatement (.along scopes Node.walk) := by
  refine accounts_currentSpan fun span hspan => accounts_eat (accounts_pure ?_) ?_
  · exact Walk.Does.stay.inScope
  · refine accounts_bind (accounts_statement hg) fun statement last met hwalk => ?_
    cases statement with
    | some node => exact accounts_pure hwalk.done
    | none => exact accounts_fail hspan

/-- A statement, and more of them in the scopes that it leaves. -/
theorem accounts_cons {more : Parse (List Node)}
    (h : ∀ {scopes}, q.Accounts scopes more (.along scopes Node.walkAll)) :
    q.Accounts scopes (do
      let first ← g.statement
      let rest ← more
      return first.toList ++ rest) (.along scopes Node.walkAll) := by
  refine accounts_bind (accounts_statement hg) fun first between met hfirst => ?_
  refine accounts_bind h fun rest last met₁ hrest => accounts_pure ?_
  cases first with
  | some node => exact hfirst.andThen hrest.done
  | none => exact hfirst.andThen hrest.done

theorem accounts_statementsOfBlock :
    q.Accounts scopes g.statementsOfBlock (.along scopes Node.walkAll) := by
  refine accounts_check fun closed => ?_
  split
  · exact accounts_advance fun _ _ => accounts_pure .stay
  · refine accounts_cursor fun c _ => ?_
    split
    · exact accounts_currentKind fun _ => accounts_currentSpan fun _ hspan => accounts_stop hspan
    · exact accounts_cons hg hg.blockStatements

theorem accounts_statementsOfScript :
    q.Accounts scopes g.statementsOfScript (.along scopes Node.walkAll) := by
  refine accounts_cursor fun c _ => ?_
  split
  · exact accounts_pure .stay
  · exact accounts_cons hg hg.statements

end

/-! ## All productions -/

/-- No production at all stops where it is asked for. -/
theorem accounted_exhausted : exhausted.Accounted q := by
  have hstop {α : Type} {scopes : List Scope} {outcome : Outcome α} :
      q.Accounts scopes (do fail .exhausted (← currentSpan) : Parse α) outcome :=
    accounts_currentSpan fun _ hspan => accounts_fail hspan
  exact
    { expr := hstop
      assignment := hstop
      conditional := hstop
      binary := fun _ => hstop
      binaryTail := fun _ _ _ _ _ _ => hstop
      unary := hstop
      accesses := fun _ _ _ => hstop
      arguments := hstop
      items := hstop
      moreItems := hstop
      moreEntries := hstop
      parameters := fun _ => hstop
      dotted := fun _ => hstop
      block := hstop
      body := hstop
      blockStatements := hstop
      statements := hstop }

/-- **One more nested request** accounts for its declarations. -/
theorem accounted_extend (hg : g.Accounted q) : g.extend.Accounted q where
  expr := accounts_assignmentLevel hg
  assignment := accounts_assignmentLevel hg
  conditional := accounts_conditionalLevel hg
  binary := accounts_binaryLevel hg
  binaryTail least _ _ := accounts_climb hg least
  unary := accounts_unaryLevel hg
  accesses := accounts_accessTail hg
  arguments := accounts_argumentList hg
  items := accounts_itemList hg
  moreItems := accounts_setTail hg
  moreEntries := accounts_mapTail hg
  parameters := accounts_parameterList hg
  dotted := accounts_dottedTail hg
  block := accounts_statementOf (accounts_blockStatement hg)
  body := accounts_bodyStatement hg
  blockStatements := accounts_statementsOfBlock hg
  statements := accounts_statementsOfScript hg

theorem accounted_upTo (n : Nat) : (upTo n).Accounted q := by
  induction n with
  | zero => exact accounted_exhausted
  | succ n ih => exact accounted_extend ih

/-! ## Whole token lists -/

theorem accounts_wholeExpression (n : Nat) :
    q.Accounts scopes (wholeExpression n) (q.operand scopes) := by
  refine accounts_within (accounted_upTo n).expr fun node met hwalk hspan => ?_
  refine accounts_plain (accounts_semicolons n) fun _ _ => ?_
  exact accounts_plain accounts_expectEnd fun _ _ => accounts_pure ⟨rfl, hwalk.done, hspan⟩

theorem accounts_scriptBody (n : Nat) :
    q.Accounts scopes (scriptBody n) (.along scopes Node.walkAll) := by
  refine accounts_read ?_ ?_
  · rw [q.features .script rfl]
  · split
    · exact (accounted_upTo n).statements
    · have hrest (body : List Node) {met : List Declaration}
          (hwalk : (Node.walkAll body).Does scopes met scopes) : q.Accounts scopes (do
            semicolons n
            expectEnd
            return body) (.later met (.along scopes Node.walkAll)) := by
        refine accounts_plain (accounts_semicolons n) fun _ _ => ?_
        exact accounts_plain accounts_expectEnd fun _ _ => accounts_pure hwalk.done
      have hone : q.Accounts scopes ((fun node => [node]) <$> (upTo n).expr)
          (.parts scopes Node.walkAll) := by
        refine accounts_map (accounts_imp (accounted_upTo n).expr ?_)
        rintro node _ met ⟨rfl, hwalk, -⟩
        exact ⟨rfl, (hwalk.andThen .stay).congr (by simp), trivial⟩
      refine accounts_cursor fun c _ => ?_
      split
      · exact hrest [] .stay
      · exact accounts_within hone fun body met hwalk _ => hrest body hwalk

/-- The parameters of a script are declared before its statements. -/
theorem accounts_wholeScript (n : Nat) (params : List String) :
    q.Accounts scopes (wholeScript n params)
      (.along scopes fun tree => (Walk.declareAll params).andThen tree.walk) := by
  refine accounts_currentSpan fun start hstart => ?_
  refine accounts_bind (accounts_declareAll hstart params) fun _ between met hparams => ?_
  refine accounts_bind (accounts_scriptBody n) fun body last met₁ hbody => ?_
  have hrest (span : Span) : q.Accounts last
      (do return Node.script span body (← get).pragmas)
      (.later met₁ (.later met (.along scopes fun tree =>
        (Walk.declareAll params).andThen tree.walk))) :=
    accounts_get fun s => accounts_pure (hparams.andThen hbody.done)
  split
  · exact hrest start
  · exact accounts_spanFrom hstart fun span _ => hrest span

/-- The results of reading one token list in both dialects.  If all that a walk through the
tree meets is admitted, the strict one reads the same tree, and otherwise it fails. -/
def Results (q : Checking) (walk : Node → Walk) : (result result' : Except ParseError Node) → Prop
  | .ok tree, result' =>
    (∀ d ∈ (walk tree [⟨[], true⟩]).1, q.Admits d) ∧ result' = .ok tree ∨
      (¬∀ d ∈ (walk tree [⟨[], true⟩]).1, q.Admits d) ∧ q.Fails result'
  | .error _, result' => q.Fails result'

/-- Errors among the tokens are found before anything is read. -/
theorem results_ofTokens {walk : Node → Walk} {step : Parse Node} {tokens : List Token}
    (htokens : ∀ token ∈ tokens, q.Here token.span)
    (h : q.Accounts [⟨[], true⟩] step (.along [⟨[], true⟩] walk)) :
    q.Results walk (Node.ofTokens q.lax tokens step) (Node.ofTokens q.strict tokens step) := by
  unfold Node.ofTokens
  split
  · rename_i token reason hfound
    obtain ⟨found, hmem, hreason⟩ := List.exists_of_findSome?_eq_some hfound
    obtain ⟨reason', -, hpair⟩ := Option.map_eq_some_iff.mp hreason
    cases hpair
    exact ⟨_, rfl, htokens _ hmem⟩
  · have hends := h (start tokens) rfl htokens
    cases hlax : step q.lax (start tokens) with
    | error e =>
        rw [hlax] at hends
        obtain ⟨e', hstrict, hhere⟩ := hends
        exact ⟨e', by rw [hstrict]; rfl, hhere⟩
    | ok r =>
        rw [hlax] at hends
        obtain ⟨-, met, hwalk, hstrict⟩ := hends
        have hmet : (∀ d ∈ met, q.Admits d) ↔ ∀ d ∈ (walk r.1 [⟨[], true⟩]).1, q.Admits d :=
          forall_congr' fun d => imp_congr_left (hwalk.declarations d).symm
        rw [hmet] at hstrict
        refine hstrict.imp ?_ ?_
        · exact fun ⟨hall, hsame⟩ => ⟨hall, by rw [hsame]; rfl⟩
        · exact fun ⟨hnot, e, hfails, hhere⟩ => ⟨hnot, e, by rw [hfails]; rfl, hhere⟩

/-- Whenever the strict dialect fails, it is at a place that may be one. -/
theorem Results.here {walk : Node → Walk} {result : Except ParseError Node} {e : ParseError}
    (h : q.Results walk result (.error e)) : q.Here e.span := by
  have hfails : q.Fails (.error e : Except ParseError Node) := by
    cases result with
    | error _ => exact h
    | ok tree => exact (h.resolve_left fun hok => nomatch hok.2).2
  obtain ⟨e', heq, hhere⟩ := hfails
  cases heq
  exact hhere

/-- **An expression is read in both dialects.** -/
theorem results_ofExpression {tokens : List Token}
    (htokens : ∀ token ∈ tokens, q.Here token.span) : q.Results Node.walk
      (Node.ofExpression q.lax tokens) (Node.ofExpression q.strict tokens) :=
  results_ofTokens htokens (accounts_statementOf (accounts_wholeExpression _))

/-- **A script is read in both dialects**; its parameters are met before its tree. -/
theorem results_ofScript (params : List String) {tokens : List Token}
    (htokens : ∀ token ∈ tokens, q.Here token.span) :
    q.Results (fun tree => (Walk.declareAll params).andThen tree.walk)
      (Node.ofScript q.lax params tokens) (Node.ofScript q.strict params tokens) :=
  results_ofTokens htokens (accounts_wholeScript _ params)

end Checking

end ScriptEngine

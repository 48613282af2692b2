import ScriptEngine.Proofs.Abiding
import ScriptEngine.Proofs.RegularPrograms

/-!
# Nothing escapes from accepted programs

Reading and evaluation share the guarantee that no exit is left uncaught and that
nothing is assigned to what cannot be assigned to.  Reading sees to it that trees are
regular, and evaluation of regular trees lets `break` and `continue` out of a step
only inside a loop, which catches them; the end of a function and the end of a run
catch what is returned.

* `Node.Accepted`, `Node.AcceptedBody` — what sources are read as, and the bodies of
  the functions that come from them;
* `Embedder.discipline` — regular code, from where exits are inside loops only;
* `Semantics.interpret_never_escapes` — the whole of an evaluation or of a call.
-/

namespace ScriptEngine

namespace Node

/-- What a source is read as, with some features. -/
def Accepted (tree : Node) : Prop :=
  ∃ (source : Source) (dialect : Dialect), source.tree dialect = .ok tree

/-- The body of a function that comes from an accepted source: a whole program, or the
body of a function literal in one. -/
inductive AcceptedBody (body : Node) : Prop
  | program : body.Accepted → AcceptedBody body
  | literal {span : Span} {id : LambdaId} {params : List String} {tree : Node} :
      (lambda span id params body).Within tree → tree.Accepted → AcceptedBody body

/-- Accepted trees are regular. -/
theorem Accepted.regular {tree : Node} (h : tree.Accepted) : tree.Regular false := by
  obtain ⟨source, dialect, htree⟩ := h
  exact Source.regular_of_tree htree

/-- The body of a function stands outside of all loops, wherever the function does. -/
theorem AcceptedBody.regular {body : Node} (h : body.AcceptedBody) : body.Regular false := by
  cases h with
  | program h => exact h.regular
  | literal hwithin htree =>
      obtain ⟨inside, hliteral⟩ := htree.regular.within hwithin
      exact hliteral.place (by simp)

/-- The body of a function is part of an accepted tree. -/
theorem AcceptedBody.within {body : Node} (h : body.AcceptedBody) :
    ∃ tree, tree.Accepted ∧ body.Within tree := by
  cases h with
  | program h => exact ⟨body, h, .here⟩
  | literal hwithin htree =>
      exact ⟨_, htree, (Within.part (by simp [children]) .here).trans hwithin⟩

end Node

namespace Embedder

variable (e : Embedder)

/-- What a run may fail for: everything but escapes, and what the embedder's own code
fails for. -/
def Permits (cause : EvalError.Cause) : Prop :=
  cause.isEscape = false ∨ e.Raises cause

theorem permits_of_not_reserved {cause : EvalError.Cause} (h : cause.isReserved = false) :
    e.Permits cause := by
  left
  cases cause with
  | stackOverflow limit => rfl
  | cancelled => rfl
  | _ => exact h

/-- What a run can reach, with the functions that come from accepted sources. -/
def territory (s : Store) (root : ContextRef) (held : Value → Prop) : Territory :=
  .reachedFrom s root held Node.AcceptedBody e.Permits e.permits_of_not_reserved

/-- **The discipline of accepted programs.**  The code is regular, and loops are left
from inside them only. -/
def discipline (s : Store) (root : ContextRef) (held : Value → Prop) : Discipline :=
  { e.territory s root held with
    code := fun inLoop node => node.Regular inLoop ∧ ∃ tree, tree.Accepted ∧ node.Within tree
    exits := fun inLoop => inLoop = true
    code_place := fun ⟨hregular, tree, htree, hwithin⟩ hplace =>
      ⟨hregular.place hplace, tree, htree,
        (Node.Within.part (Node.mem_children_of_mem_places hplace) .here).trans hwithin⟩
    code_body := fun h => ⟨h.regular, h.within⟩
    functions_lambda := fun ⟨_, _, htree, hwithin⟩ => .literal hwithin htree
    code_break := fun h => h.1.fits
    code_continue := fun h => h.1.fits
    exits_cause := fun h => by cases h
    code_target := fun h => .inl h.1.fits
    cancelled := .inl rfl }

variable {e} {s : Store} {root : ContextRef} {held : Value → Prop}

/-- Values that can be reached belong to the discipline, if all functions that can be
reached come from accepted sources. -/
theorem holds_discipline (h : ∀ closure : Closure Value, s.Reaches root held (.function closure) →
    closure.lambda.body.AcceptedBody) {v : Value} (hv : s.Reaches root held v) :
    (e.discipline s root held).Holds v :=
  @Territory.holds_of_reaches _ _ _ _ _ e.permits_of_not_reserved h v hv

theorem closed_discipline (h : ∀ closure : Closure Value, s.Reaches root held (.function closure) →
    closure.lambda.body.AcceptedBody) : (e.discipline s root held).Closed s :=
  @Territory.closed_reachedFrom _ _ _ _ _ e.permits_of_not_reserved h

end Embedder

namespace Semantics

/-- An escape that a run of an abiding step fails for is the embedder's own. -/
theorem raises_of_runStep {e : Embedder} {options : Options} {ctx : ContextRef} {s : Store}
    {held : Value → Prop} {step : Eval Value} {error : EvalError}
    (hfunctions : ∀ closure : Closure Value, s.Reaches ctx held (.function closure) →
      closure.lambda.body.AcceptedBody)
    (hstep : Eval.Abides (e.discipline s ctx held) (.top options.maxDepth) false
      (e.discipline s ctx held).Holds step step)
    (hrun : (runStep options step s).1 = .failure error) (hescape : error.cause.isEscape = true) :
    e.Raises error.cause := by
  rcases causes_of_runStep hstep (Embedder.closed_discipline hfunctions) hrun with hno | hraises
  · rw [hescape] at hno
    cases hno
  · exact hraises

/-- **Nothing escapes from accepted programs.**  The tree or the function that is run
comes from an accepted source, and so do all functions that can be reached from the
context or from what the embedder's own code holds on to (`held`); that code stays
within what it can reach.  Then a run does not fail because of an assignment to what
cannot be assigned to, nor because of an exit that nothing has caught, unless the
embedder's own code fails with such an error itself. -/
theorem interpret_never_escapes {rules : Semantics} {options : Options} {ctx : ContextRef}
    {s : Store} {held : Value → Prop}
    (hfunctions : ∀ closure : Closure Value, s.Reaches ctx held (.function closure) →
      closure.lambda.body.AcceptedBody)
    (hhost : (rules.members.embedder.territory s ctx held).Contains rules.members.embedder) :
    (∀ (tree : Node) (e : EvalError), tree.Accepted →
      (rules.interpret options tree ctx s).1 = .failure e →
      e.cause.isEscape = true → rules.members.embedder.Raises e.cause) ∧
    ∀ (closure : Closure Value) (args : List Value) (e : EvalError),
      s.Reaches ctx held (.function closure) → (∀ v ∈ args, s.Reaches ctx held v) →
      (rules.call options closure args ctx s).1 = .failure e →
      e.cause.isEscape = true → rules.members.embedder.Raises e.cause := by
  have hhost' : (rules.members.embedder.discipline s ctx held).Contains rules.members.embedder :=
    hhost
  have hctx : (rules.members.embedder.discipline s ctx held).contexts ctx := .inl .root
  have hevaluate : (abiding hhost' (.top options.maxDepth)).Couples (rules.evaluate plenty)
      (rules.evaluate plenty) := couples_evaluate hhost' (fun _ => .inl rfl) trivial plenty _
  constructor
  · intro tree e htree hrun
    refine raises_of_runStep hfunctions ?_ hrun
    exact hevaluate tree ctx ⟨htree.regular, tree, htree, .here⟩ hctx
  · intro closure args e hclosure hargs hrun
    refine raises_of_runStep hfunctions ?_ hrun
    exact (abiding hhost' _).rel_callFunction hevaluate hctx
      (Embedder.holds_discipline hfunctions hclosure)
      fun v hv => Embedder.holds_discipline hfunctions (hargs v hv)

/-- A loop is left from inside of it, and then a member of nil makes the run fail; that
failure is no escape. -/
theorem interpret_never_escapes_loop :
    let rules : Semantics := ⟨⟨true⟩, ⟨none, .none⟩⟩
    let tree : Node := .script ⟨0, 24⟩ [
      .whileLoop ⟨0, 17⟩ (.literal ⟨6, 10⟩ (.bool true)) (.breakLoop ⟨11, 16⟩),
      .property ⟨18, 24⟩ (.literal ⟨18, 22⟩ .nil) "x"] []
    (Source.ofScript "while(true)break; null.x" []).tree ⟨.standard, 0⟩ = .ok tree ∧
    ∃ e, (rules.interpret { Options.standard with safe := false } tree ⟨0⟩ .empty).1 = .failure e ∧
      e.cause.isEscape = false := by
  intro rules tree
  have htree : (Source.ofScript "while(true)break; null.x" []).tree ⟨.standard, 0⟩ = .ok tree := rfl
  have hrun : (rules.interpret { Options.standard with safe := false } tree ⟨0⟩ .empty).1 =
      .failure ⟨.nilAccess "x", some ⟨18, 24⟩⟩ := by with_unfolding_all rfl
  refine ⟨htree, _, hrun, Bool.eq_false_iff.mpr fun hescape => ?_⟩
  have hraises := (interpret_never_escapes (fun _ h => (Store.not_reaches_empty h).elim)
    Territory.contains_none).1 tree _ ⟨_, _, htree⟩ hrun hescape
  exact Territory.not_raises_none hraises

end Semantics

end ScriptEngine

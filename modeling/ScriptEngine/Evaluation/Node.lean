import ScriptEngine.Evaluation.Statement

/-!
# Evaluating programs

`Eval.node` gives every form of node its meaning in terms of an evaluator for
the parts.  `Semantics.evaluate n` ties the knot: it is the evaluator that goes
at most `n` nodes deep, and runs no loop more than `n` rounds.  An evaluation
that ends within some `n` ends in the same way for every greater one.

A run ends with an `Outcome`:

* `Semantics.interpret` evaluates a tree;
* `Semantics.call` calls a function.
-/

namespace ScriptEngine

namespace Eval

/-- The meaning of a node, with `ev` for its parts and at most `fuel` rounds for
a loop. -/
def node (rules : Semantics) (fuel : Nat) (ev : Evaluator) (n : Node) (ctx : ContextRef) :
    Eval Value := do
  match n with
  | .literal _ value => return value.toValue
  | .ident _ name => variableValue rules name ctx
  | .binary _ op left right => binaryNode rules ev op left right ctx
  | .unary _ op operand => unaryNode rules ev op operand ctx
  | .property _ object name =>
    let base ← ev object ctx
    readMember rules base name
  | .index _ object key =>
    let base ← ev object ctx
    let key ← ev key ctx
    readIndex rules base key
  | .methodCall _ object method args => methodNode rules ev object method args ctx
  | .call _ callee args => callNode ev callee args ctx
  | .construct _ className args => constructNode rules ev className args ctx
  | .assign _ target value isPostfix => assignNode rules ev target value isPostfix ctx
  | .ternary _ cond thenBranch elseBranch => choice ev cond thenBranch elseBranch ctx
  | .elvis _ left right _ => fallback ev left right ctx
  | .range _ first last => binaryNode rules ev .range first last ctx
  | .array _ items => newArray (← all ev items ctx).toArray
  | .map _ items => newMap (← entries ev ctx items .empty)
  | .set _ items => newArray (← distinct ev ctx items []).reverse.toArray
  | .lambda _ id params body => return .function (.ofLambda ⟨id, params, body⟩ (some ctx))
  | .ifElse _ cond thenBranch elseBranch => conditional ev cond thenBranch elseBranch ctx
  | .forLoop _ init cond step body => forNode ev fuel init cond step body ctx
  | .foreach _ var declared iterable body => foreachNode rules ev var declared iterable body ctx
  | .whileLoop _ cond body => whileNode ev fuel cond body ctx
  | .doWhile _ body cond => doNode ev fuel body cond ctx
  | .block _ statements | .script _ statements _ => sequence ev ctx statements .nil
  | .breakLoop _ => throw .breakLoop
  | .continueLoop _ => throw .continueLoop
  | .returnValue _ value => throw (.returned (← optional ev value ctx))
  | .var _ name init => declaration rules ev name init ctx
  | .annotated _ name args statement => annotated ev name args statement ctx

end Eval

/-- How a run ends. -/
inductive Outcome where
  | value (value : Value)
  | failure (e : EvalError)
  /-- The steps granted were used up. -/
  | exhausted
  deriving Inhabited

namespace Semantics

variable (rules : Semantics)

/-- The evaluator that goes at most `n` nodes deep. -/
def evaluate : (n : Nat) → Evaluator
  | 0, _, _ => throw .exhausted
  | n + 1, tree, ctx => Eval.entering tree.span (Eval.node rules n (evaluate n) tree ctx)

/-- A number of steps that no run on a machine uses up. -/
def plenty : Nat := tenPow 18

/-- What an error of a whole run is for its embedder.  A run that may not be
cancelled with an error ends with nil, and so does any failure of a silent
one. -/
def settle (options : Options) (e : EvalError) : Outcome :=
  if e.cause = .cancelled ∧ !options.cancellable then .value .nil
  else if options.silent then .value .nil
  else .failure e

/-- The end of a whole run. -/
def finish (options : Options) : EStateM.Result Signal Run Value → Outcome × Store
  | .ok value run => (.value value, run.store)
  | .error (.returned value) run => (.value value, run.store)
  | .error signal run =>
    match signal.toError? with
    | some e => (settle options e, run.store)
    | none => (.exhausted, run.store)

/-- Do a whole run of a step on a store. -/
def runStep (options : Options) (step : Eval Value) (s : Store) : Outcome × Store :=
  finish options (step ⟨s, options, .top options.maxDepth⟩)

/-- Evaluate a tree in a context. -/
def interpret (options : Options) (tree : Node) (ctx : ContextRef) (s : Store) :
    Outcome × Store :=
  runStep options (rules.evaluate plenty tree ctx) s

/-- Call a function in a context. -/
def call (options : Options) (closure : Closure Value) (args : List Value) (ctx : ContextRef)
    (s : Store) : Outcome × Store :=
  runStep options (Eval.callFunction (rules.evaluate plenty) closure args ctx) s

end Semantics

end ScriptEngine

import ScriptEngine.Evaluation.Expression

/-!
# Evaluating statements

The statement forms, each in terms of an evaluator for its parts.  A loop has
the value of the last run of its body that came to its end, or nil.  Before
every statement of a block and every round of a loop the run is stopped if it
has been cancelled.

`Eval.rounds` is the one loop that `for`, `while` and `do` are made of; its
fuel bounds the number of rounds.
-/

namespace ScriptEngine.Eval

variable (rules : Semantics) (ev : Evaluator)

/-- Statements one after the other; the value is that of the last one. -/
def sequence (ctx : ContextRef) : List Node → (last : Value) → Eval Value
  | [], last => return last
  | statement :: rest, _ => do
    poll ctx
    let value ← ev statement ctx
    sequence ctx rest value

/-- A part that may be missing. -/
def optional (node : Option Node) (ctx : ContextRef) : Eval Value :=
  match node with
  | some node => ev node ctx
  | none => return .nil

/-- A conditional statement. -/
def conditional (cond thenBranch : Node) (elseBranch : Option Node) (ctx : ContextRef) :
    Eval Value := do
  if ← truth (← ev cond ctx) then ev thenBranch ctx else optional ev elseBranch ctx

/-- A declaration of a local variable. -/
def declaration (name : String) (init : Option Node) (ctx : ContextRef) : Eval Value := do
  let value ← optional ev init ctx
  act (ctx.declare rules.members name value)
  return value

/-! ## Loops -/

/-- Run the body of a loop once: whether the loop goes on, and its value so
far. -/
def round (body : Eval Value) (last : Value) : Eval (Bool × Value) := fun run =>
  match body run with
  | .ok value run => .ok (true, value) run
  | .error .breakLoop run => .ok (false, last) run
  | .error .continueLoop run => .ok (true, last) run
  | .error signal run => .error signal run

/-- Rounds of a loop.  `before` decides ahead of the body whether there is a
round, and `after` whether the next one is tried. -/
def rounds (ctx : ContextRef) (before : Eval Bool) (body : Eval Value) (after : Eval Bool) :
    (fuel : Nat) → (last : Value) → Eval Value
  | 0, _ => throw .exhausted
  | fuel + 1, last => do
    poll ctx
    if ← before then
      let (goesOn, last) ← round body last
      if goesOn then
        if ← after then rounds ctx before body after fuel last else return last
      else return last
    else return last

/-- The condition of a loop; a missing one always holds. -/
def condition (cond : Option Node) (ctx : ContextRef) : Eval Bool :=
  match cond with
  | some cond => do truth (← ev cond ctx)
  | none => return true

/-- A loop with an initialisation, a test before each round and a step after
it, any of which may be missing. -/
def forNode (fuel : Nat) (init cond step : Option Node) (body : Node) (ctx : ContextRef) :
    Eval Value := do
  let _ ← optional ev init ctx
  let after : Eval Bool := do
    let _ ← optional ev step ctx
    return true
  rounds ctx (condition ev cond ctx) (ev body ctx) after fuel .nil

/-- A loop with a test before each round. -/
def whileNode (fuel : Nat) (cond body : Node) (ctx : ContextRef) : Eval Value :=
  rounds ctx (condition ev (some cond) ctx) (ev body ctx) (return true) fuel .nil

/-- A loop with a test after each round. -/
def doNode (fuel : Nat) (body cond : Node) (ctx : ContextRef) : Eval Value :=
  rounds ctx (return true) (ev body ctx) (condition ev (some cond) ctx) fuel .nil

/-- What a loop over a value runs through: items, values of entries or
characters; any other value is the only item, and nil has none. -/
def iteration (s : Store) : Value → List Value
  | .nil => []
  | .array ref => (s.items ref).toList
  | .map ref => (s.entries ref).values
  | .text value => value.toList.map fun c => .text (String.singleton c)
  | other => [other]

/-- One round for each item. -/
def each (ctx : ContextRef) (bind : Value → Eval Unit) (body : Eval Value) :
    List Value → (last : Value) → Eval Value
  | [], last => return last
  | item :: rest, last => do
    poll ctx
    bind item
    let (goesOn, last) ← round body last
    if goesOn then each ctx bind body rest last else return last

/-- A loop over the items that a value has before the first round. -/
def foreachNode (var : String) (declared : Bool) (iterable body : Node) (ctx : ContextRef) :
    Eval Value := do
  let source ← ev iterable ctx
  let items ← look fun s => iteration s source
  let bind (item : Value) : Eval Unit :=
    act (if declared then ctx.declare rules.members var item
      else ctx.assign rules.members var item)
  each ctx bind (ev body ctx) items .nil

/-! ## Annotations -/

/-- Nil in place of an error, except that a run stays cancelled. -/
def silently (step : Eval Value) : Eval Value := fun run =>
  match step run with
  | .error (.error e) run => if e.cause = .cancelled then .error (.error e) run else .ok .nil run
  | other => other

/-- A statement under an annotation.  The first argument is the flag to set;
without one it is set to true.  Annotations without a meaning here are left to
the embedder. -/
def annotated (name : String) (args : List Node) (statement : Node) (ctx : ContextRef) :
    Eval Value := do
  let flag ← condition ev args.head? ctx
  let outer ← options
  match name with
  | "silent" => silently (ev statement ctx)
  | "strict" => withOptions { outer with strict := flag } (ev statement ctx)
  | "lenient" => withOptions { outer with strict := false } (ev statement ctx)
  | "safe" => withOptions { outer with safe := flag } (ev statement ctx)
  | _ => ev statement ctx

end ScriptEngine.Eval

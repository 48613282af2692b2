import ScriptEngine.Evaluation.Operation
import ScriptEngine.Tree.Printer

/-!
# Evaluating expressions

The expression forms, each in terms of an evaluator for its parts.  Parts are
evaluated from left to right, except that the value of an assignment comes
before its target.

* `Eval.callFunction` runs a function in a new frame over the context of the
  call;
* `Eval.assignTo` stores a value where a target says.
-/

namespace ScriptEngine

/-- How the parts of a node are evaluated in a context. -/
abbrev Evaluator := Node → ContextRef → Eval Value

namespace Eval

variable (rules : Semantics) (ev : Evaluator)

/-- The values of several nodes, in order. -/
def all (nodes : List Node) (ctx : ContextRef) : Eval (List Value) :=
  nodes.mapM fun node => ev node ctx

/-- The value of a variable. -/
def variableValue (name : String) (ctx : ContextRef) : Eval Value := do
  match ← look fun s => ctx.lookup rules.members s name with
  | some value => return value
  | none => unresolved (.ofCause (.undefinedVariable name))

/-! ## Operators -/

/-- `&&` and `||`: a left operand that equals `deciding` decides. -/
def shortCircuit (deciding : Bool) (left right : Node) (ctx : ContextRef) : Eval Value := do
  if (← truth (← ev left ctx)) = deciding then return .bool deciding
  else return .bool (← truth (← ev right ctx))

/-- A binary operator on two nodes. -/
def binaryNode (op : BinaryOp) (left right : Node) (ctx : ContextRef) : Eval Value :=
  match op with
  | .and => shortCircuit ev false left right ctx
  | .or => shortCircuit ev true left right ctx
  | _ => do
    let x ← ev left ctx
    let y ← ev right ctx
    binary rules op x y

/-- A unary operator on a node.  Asking for the size or the emptiness of
something that is not there is no error. -/
def unaryNode (op : UnaryOp) (operand : Node) (ctx : ContextRef) : Eval Value := do
  let value ← match op with
    | .empty | .size => leniently (ev operand ctx)
    | _ => ev operand ctx
  unary rules op value

/-- One branch or the other. -/
def choice (cond thenBranch elseBranch : Node) (ctx : ContextRef) : Eval Value := do
  if ← truth (← ev cond ctx) then ev thenBranch ctx else ev elseBranch ctx

/-- A fallback for nil. -/
def fallback (left right : Node) (ctx : ContextRef) : Eval Value := do
  let value ← leniently (ev left ctx)
  if value.isNil then ev right ctx else return value

/-! ## Collections -/

/-- The entries of a map literal, in order. -/
def entries (ctx : ContextRef) :
    List (Node × Node) → OrderedMap Value → Eval (OrderedMap Value)
  | [], made => return made
  | (key, value) :: rest, made => do
    let key ← ev key ctx
    let name ← look fun s => s.plain key
    let value ← ev value ctx
    entries ctx rest (made.insert name value)

/-- The items of a set literal, last one first: an item that equals an earlier
one is left out. -/
def distinct (ctx : ContextRef) : List Node → List Value → Eval (List Value)
  | [], made => return made
  | item :: rest, made => do
    let value ← ev item ctx
    let known ← look fun s => made.any fun seen => s.equal seen value
    distinct ctx rest (if known then made else value :: made)

/-! ## Calls -/

/-- Run a function in a new frame over the context of the call. -/
def callFunction (closure : Closure Value) (args : List Value) (ctx : ContextRef) :
    Eval Value := do
  poll ctx
  let frame ← act do
    let bindings := OrderedMap.ofList (closure.arguments args)
    let (ref, s) := (← get).newContext (.frame bindings ctx closure.captured)
    set s
    return ref
  atFunctionEnd (ev closure.lambda.body frame)

/-- Call the value of a node. -/
def callNode (callee : Node) (args : List Node) (ctx : ContextRef) : Eval Value := do
  let function ← ev callee ctx
  let args ← all ev args ctx
  match function with
  | .function closure => callFunction ev closure args ctx
  | .nil =>
    if (← options).strict then fail (.notCallable "null") else return .nil
  | other => fail (.notCallable (← look other.typeName))

/-- The function that a map holds under a key. -/
def functionEntry? (s : Store) (base : Value) (name : String) : Option (Closure Value) :=
  match base with
  | .map ref =>
    match (s.entries ref).find? name with
    | some (.function closure) => some closure
    | _ => none
  | _ => none

/-- Call a method of a value that is not nil.  The entries of a map that are
functions are its methods too, after the builtin ones. -/
def callMethod (base : Value) (method : String) (args : List Value) (ctx : ContextRef) :
    Eval Value := do
  match base, method with
  | .function closure, "call" => callFunction ev closure args ctx
  | _, _ =>
    match ← look fun s => rules.members.method? s base method args with
    | some found => resolve (found.run rules.members.embedder base args)
    | none =>
      match ← look fun s => functionEntry? s base method with
      | some closure => callFunction ev closure args ctx
      | none => unresolved (.ofCause (.methodNotFound method (← look base.typeName)))

/-- A method call on the value of a node. -/
def methodNode (object : Node) (method : String) (args : List Node) (ctx : ContextRef) :
    Eval Value := do
  let base ← ev object ctx
  let args ← all ev args ctx
  if base.isNil then memberOfNil method else callMethod rules ev base method args ctx

/-- A constructor call. -/
def constructNode (className : Node) (args : List Node) (ctx : ContextRef) : Eval Value := do
  let name ← ev className ctx
  let args ← all ev args ctx
  let name ← look fun s => s.plain name
  act (rules.members.construct name args)

/-! ## Assignment -/

/-- Store a value where a target says. -/
def assignTo (target : Node) (value : Value) (ctx : ContextRef) : Eval Unit := do
  match target with
  | .ident _ name => act (ctx.assign rules.members name value)
  | .property _ object name =>
    let base ← ev object ctx
    writeMember rules base name value
  | .index _ object key =>
    let base ← ev object ctx
    let key ← ev key ctx
    writeIndex rules base key value
  | other => fail (.invalidAssignment other.render)

/-- A postfix step: the value held before is the result. -/
def stepAfter (op : BinaryOp) (target left right : Node) (ctx : ContextRef) : Eval Value := do
  let old ← ev left ctx
  let amount ← ev right ctx
  let new ← binary rules op old amount
  assignTo rules ev target new ctx
  return old

/-- An assignment. -/
def assignNode (target value : Node) (isPostfix : Bool) (ctx : ContextRef) : Eval Value := do
  match isPostfix, value with
  | true, .binary _ op left right => stepAfter rules ev op target left right ctx
  | _, _ =>
    let result ← ev value ctx
    assignTo rules ev target result ctx
    return result

end Eval

end ScriptEngine

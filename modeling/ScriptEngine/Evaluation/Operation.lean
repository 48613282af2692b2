import ScriptEngine.Evaluation.Signal

/-!
# Operators and members under a policy

What a run does with values that are evaluated already.  `Arithmetic` and
`Members` say what operators and members are; here the options in force decide
what happens to comparisons that make no sense, to members that are not found
and to members of nil.

* `Eval.binary`, `Eval.unary` — operators;
* `Eval.readMember`, `Eval.readIndex`, `Eval.writeMember`, `Eval.writeIndex` —
  properties by name and by key.
-/

namespace ScriptEngine

/-- The value of a literal. -/
def Literal.toValue : Literal → Value
  | nil => .nil
  | bool value => .bool value
  | number value => .number value
  | text value => .text value

namespace Eval

variable (rules : Semantics)

/-- Make a new array. -/
def newArray (items : Array Value) : Eval Value := fun ⟨store, options, depth⟩ =>
  let (ref, store) := store.newArray items
  .ok (.array ref) ⟨store, options, depth⟩

/-- Make a new map. -/
def newMap (entries : OrderedMap Value) : Eval Value := fun ⟨store, options, depth⟩ =>
  let (ref, store) := store.newMap entries
  .ok (.map ref) ⟨store, options, depth⟩

/-- Whether a value counts as true. -/
def truth (value : Value) : Eval Bool := look fun s => Arithmetic.truth s value

/-! ## Operators -/

/-- Whether an order of two operands is one that the operator asks for. -/
def holds (op : BinaryOp) (order : Ordering) : Bool :=
  match op with
  | .lt => order.isLT
  | .ltEq => order.isLE
  | .gt => order.isGT
  | _ => order.isGE

/-- Compare two values.  Values that are not comparable are an error only if
evaluation is strict. -/
def relational (op : BinaryOp) (left right : Value) : Eval Value := do
  let strict := (← options).strict
  compute fun s =>
    match Arithmetic.compare s left right with
    | .ok order => .ok (.bool (holds op order))
    | .error e => if strict then .error e else .ok (.bool false)

/-- The range from one value to another. -/
def range (first last : Value) : Eval Value := do
  let items ← compute fun s => do
    let x ← rules.arithmetic.toNumber s first
    let y ← rules.arithmetic.toNumber s last
    Arithmetic.range x y
  newArray items

/-- A predicate, or its opposite. -/
def predicate (expected : Bool) (test : Store → Except EvalError Bool) : Eval Value :=
  compute fun s => (test s).map fun answer => .bool (answer = expected)

/-- Apply a binary operator. -/
def binary (op : BinaryOp) (left right : Value) : Eval Value :=
  let a := rules.arithmetic
  match op with
  | .add => compute fun s => a.add s left right
  | .sub => compute fun s => a.subtract s left right
  | .mul => compute fun s => a.multiply s left right
  | .div => compute fun s => a.divide s left right
  | .mod => compute fun s => a.modulo s left right
  | .eq => predicate true fun s => .ok (s.equal left right)
  | .notEq => predicate false fun s => .ok (s.equal left right)
  | .lt | .ltEq | .gt | .gtEq => relational op left right
  | .and => predicate true fun s => .ok (Arithmetic.truth s left && Arithmetic.truth s right)
  | .or => predicate true fun s => .ok (Arithmetic.truth s left || Arithmetic.truth s right)
  | .bitAnd => compute fun s => a.bitAnd s left right
  | .bitOr => compute fun s => a.bitOr s left right
  | .bitXor => compute fun s => a.bitXor s left right
  | .shl => compute fun s => a.shiftLeft s left right
  | .shr => compute fun s => a.shiftRight s left right
  | .ushr => compute fun s => a.shiftRightUnsigned s left right
  | .within => predicate true fun s => Arithmetic.contains s right left
  | .notWithin => predicate false fun s => Arithmetic.contains s right left
  | .startsWith => predicate true fun s => a.startsWith s left right
  | .notStartsWith => predicate false fun s => a.startsWith s left right
  | .endsWith => predicate true fun s => a.endsWith s left right
  | .notEndsWith => predicate false fun s => a.endsWith s left right
  | .range => range rules left right

/-- Apply a unary operator. -/
def unary (op : UnaryOp) (operand : Value) : Eval Value :=
  let a := rules.arithmetic
  match op with
  | .neg => compute fun s => a.negate s operand
  | .plus =>
    match operand with
    | .bool value => return .bool value
    | _ => compute fun s => (a.toNumber s operand).map .number
  | .not => predicate false fun s => .ok (Arithmetic.truth s operand)
  | .bitNot => compute fun s => a.bitComplement s operand
  | .empty => predicate true fun s => .ok (Arithmetic.isEmpty s operand)
  | .size => compute fun s => (Arithmetic.size s operand).map .count

/-! ## Members -/

/-- Read a property by name. -/
def readMember (base : Value) (name : String) : Eval Value :=
  if base.isNil then memberOfNil name else resolve (rules.members.readProperty base name)

/-- Write a property by name.  A property that is not found is left alone,
unless evaluation is strict. -/
def writeMember (base : Value) (name : String) (value : Value) : Eval Unit := do
  let _ ←
    if base.isNil then memberOfNil name
    else resolve do
      rules.members.writeProperty base name value
      return .nil

/-- The length of an array that a key cannot be an index of: a number that is
no natural number, a truth value or nil. -/
def badIndex? (s : Store) (base key : Value) : Option Nat :=
  match base, key with
  | .array ref, .number value =>
    if value.toIndex?.isNone then some (s.items ref).size else none
  | .array ref, .bool _ | .array ref, .nil => some (s.items ref).size
  | _, _ => none

/-- Report a key that is no index of an array of the length given. -/
def indexFault (key : Value) (length : Nat) : Eval Value := do
  unresolved (.ofCause (.indexOutOfBounds (← look fun s => s.display key) length))

/-- Read a property by key. -/
def readIndex (base key : Value) : Eval Value := do
  if base.isNil then memberOfNil (← look fun s => s.plain key)
  else match ← look fun s => badIndex? s base key with
    | some length => indexFault key length
    | none => readMember rules base (← look fun s => s.plain key)

/-- Write a property by key. -/
def writeIndex (base key value : Value) : Eval Unit := do
  match ← look fun s => badIndex? s base key with
  | some length =>
    let _ ← indexFault key length
  | none => writeMember rules base (← look fun s => s.plain key) value

end Eval

end ScriptEngine

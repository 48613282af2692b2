import ScriptEngine.EvalError
import ScriptEngine.Number.Word
import ScriptEngine.Pattern.Text
import ScriptEngine.Text.Search
import ScriptEngine.Value.Equality
import ScriptEngine.Value.Printer

/-!
# The meaning of operators

What the operators do to values.  All arithmetic is exact.

* Truth values count as 0 and 1, texts that look like numbers as those numbers,
  and host objects by their numeric view.
* `+` puts texts together as soon as one side is a text.
* Nil counts as 0, or as the empty text, unless the arithmetic is strict.

No operator changes the store; each takes it to look at collections and host
objects.
-/

namespace ScriptEngine

/-- The rules of arithmetic; strict rules refuse nil. -/
structure Arithmetic where
  strict : Bool
  deriving DecidableEq, Repr

namespace Arithmetic

/-- Arithmetic as a summary shows it. -/
def summary (a : Arithmetic) : String :=
  s!"JexlArithmetic \x7b strict: {a.strict}, .. \x7d"

/-- The result of an operator. -/
abbrev Checked (α : Type) := Except EvalError α

/-- Refuse operands. -/
def unsupported {α : Type} (s : Store) (operator : String) (left : Value)
    (right : Option Value) : Checked α :=
  let operands := match right with
    | some right => s!"{left.typeName s} and {right.typeName s}"
    | none => left.typeName s
  .error (.ofCause (.unsupportedOperand operator operands))

/-- The number that a text looks like, with a sign or without, and with white
space around it. -/
def numberOfText? (text : String) : Option Number :=
  match Search.trim text.toList with
  | '-' :: digits => (Number.ofDecimal? (String.ofList digits)).map fun q => -q
  | '+' :: digits => Number.ofDecimal? (String.ofList digits)
  | digits => Number.ofDecimal? (String.ofList digits)

variable (a : Arithmetic) (s : Store)

/-- The number that an operand counts as. -/
def numeric? : Value → Option Number
  | .number value => some value
  | .bool value => some (Store.boolNumber value)
  | .text value => numberOfText? value
  | .nil => if a.strict then none else some 0
  | .object ref => (s.host ref).number
  | _ => none

/-- The number that a value counts as, for ranges and signs. -/
def toNumber (value : Value) : Checked Number :=
  match a.numeric? s value with
  | some number => .ok number
  | none => .error (.ofCause (.unsupportedOperation
      s!"cannot convert {value.typeName s} to a number"))

/-- Both operands as numbers. -/
def operands (operator : String) (left right : Value) : Checked (Number × Number) :=
  match a.numeric? s left, a.numeric? s right with
  | some x, some y => .ok (x, y)
  | _, _ => unsupported s operator left (some right)

/-- Both operands as signed words. -/
def words (operator : String) (left right : Value) : Checked (Int × Int) := do
  let (x, y) ← a.operands s operator left right
  return (x.clampInt64, y.clampInt64)

/-! ## Arithmetic -/

def isText : Value → Bool
  | .text _ => true
  | _ => false

/-- Addition, or concatenation if one side is a text. -/
def add (left right : Value) : Checked Value :=
  if isText left || isText right then
    if a.strict && (left.isNil || right.isNil) then unsupported s "+" left (some right)
    else .ok (.text (s.plain left ++ s.plain right))
  else do
    let (x, y) ← a.operands s "+" left right
    return .number (x + y)

def subtract (left right : Value) : Checked Value := do
  let (x, y) ← a.operands s "-" left right
  return .number (x - y)

def multiply (left right : Value) : Checked Value := do
  let (x, y) ← a.operands s "*" left right
  return .number (x * y)

def divide (left right : Value) : Checked Value := do
  let (x, y) ← a.operands s "/" left right
  if y = 0 then .error (.ofCause .divisionByZero) else return .number (x / y)

/-- The remainder of the integer parts, with the sign of the dividend. -/
def modulo (left right : Value) : Checked Value := do
  let (x, y) ← a.operands s "%" left right
  if y.trunc = 0 then .error (.ofCause .divisionByZero)
  else return .int (x.trunc.tmod y.trunc)

/-- The opposite; of a truth value, the other one. -/
def negate : Value → Checked Value
  | .bool value => .ok (.bool !value)
  | value =>
    match a.numeric? s value with
    | some x => .ok (.number (-x))
    | none => unsupported s "-" value none

/-! ## Comparison and truth -/

/-- How two values are ordered; values of different kinds are not. -/
def compare (left right : Value) : Checked Ordering :=
  match s.compare left right with
  | some order => .ok order
  | none => unsupported s "<=>" left (some right)

/-- Whether a value counts as true. -/
def truth : Value → Bool
  | .nil => false
  | .bool value => value
  | .number value => value ≠ 0
  | .text value => !value.isEmpty
  | .array ref => !(s.items ref).isEmpty
  | .map ref => !(s.entries ref).isEmpty
  | .function _ => true
  | .object ref =>
    match (s.host ref).number with
    | some value => value ≠ 0
    | none => true

/-! ## Predicates on texts and collections -/

/-- Whether `item` belongs to a container: matches a pattern, equals an item of
an array, is a key of a map or, for all others, equals the container. -/
def contains (container item : Value) : Checked Bool :=
  match container with
  | .text pattern =>
    match Pattern.wholeText? pattern with
    | some p => .ok (p.matchesSomewhere (s.plain item))
    | none => .error (.ofCause (.invalidPattern pattern))
  | .array ref => .ok ((s.items ref).any fun x => s.equal x item)
  | .map ref => .ok ((s.entries ref).contains (s.plain item))
  | other => .ok (s.equal other item)

/-- Whether the left side starts with the right one: an array with its first
item, others by their text. -/
def startsWith (left right : Value) : Checked Bool :=
  match left with
  | .array ref => .ok ((s.items ref)[0]?.any fun x => s.equal x right)
  | .nil => if a.strict then unsupported s "=^" left (some right) else .ok false
  | _ => .ok ((s.plain right).toList.isPrefixOf (s.plain left).toList)

/-- Whether the left side ends with the right one. -/
def endsWith (left right : Value) : Checked Bool :=
  match left with
  | .array ref => .ok ((s.items ref).back?.any fun x => s.equal x right)
  | .nil => if a.strict then unsupported s "=$" left (some right) else .ok false
  | _ => .ok ((s.plain right).toList.isSuffixOf (s.plain left).toList)

/-! ## Words -/

/-- A bitwise operation, which on two truth values is a logical one. -/
def bitwise (operator : String) (onBools : Bool → Bool → Bool) (onWords : Int → Int → Int)
    (left right : Value) : Checked Value :=
  match left, right with
  | .bool x, .bool y => .ok (.bool (onBools x y))
  | _, _ => do
    let (x, y) ← a.words s operator left right
    return .int (onWords x y)

def bitAnd : Value → Value → Checked Value := a.bitwise s "&" Bool.and Word.and

def bitOr : Value → Value → Checked Value := a.bitwise s "|" Bool.or Word.or

def bitXor : Value → Value → Checked Value := a.bitwise s "^" Bool.xor Word.xor

/-- The complement of a word; of a truth value, the other one. -/
def bitComplement : Value → Checked Value
  | .bool value => .ok (.bool !value)
  | value =>
    match a.numeric? s value with
    | some x => .ok (.int (Word.not x.clampInt64))
    | none => unsupported s "~" value none

/-- A shift of a word. -/
def shift (operator : String) (onWords : Int → Int → Int) (left right : Value) :
    Checked Value := do
  let (x, y) ← a.words s operator left right
  return .int (onWords x y)

def shiftLeft : Value → Value → Checked Value := a.shift s "<<" Word.shiftLeft

def shiftRight : Value → Value → Checked Value := a.shift s ">>" Word.shiftRight

def shiftRightUnsigned : Value → Value → Checked Value :=
  a.shift s ">>>" Word.shiftRightUnsigned

/-! ## Size -/

/-- Whether a value is nil or holds nothing. -/
def isEmpty : Value → Bool
  | .nil => true
  | .text value => value.isEmpty
  | .array ref => (s.items ref).isEmpty
  | .map ref => (s.entries ref).isEmpty
  | _ => false

/-- The number of characters, items or entries; nil has none. -/
def size : Value → Checked Nat
  | .nil => .ok 0
  | .text value => .ok value.length
  | .array ref => .ok (s.items ref).size
  | .map ref => .ok (s.entries ref).size
  | other => unsupported s "size" other none

/-! ## Ranges -/

/-- The greatest number of items of a range. -/
def longestRange : Nat := twoPow 24

/-- The integers from one bound to the other, both included, upward or
downward. -/
def rangeItems (first last : Int) : Array Value :=
  let count := (first - last).natAbs + 1
  (Array.range count).map fun (i : Nat) =>
    .int (if first ≤ last then first + (i : Int) else first - (i : Int))

/-- The items of the range between two numbers. -/
def range (first last : Number) : Checked (Array Value) :=
  match first.toInt64?, last.toInt64? with
  | some x, some y =>
    if (x - y).natAbs + 1 ≤ longestRange then .ok (rangeItems x y)
    else .error (.ofCause (.unsupportedOperation
      s!"range {x} .. {y} longer than {longestRange} elements"))
  | _, _ => .error (.ofCause (.unsupportedOperation "range bounds outside 64-bit integers"))

end Arithmetic

end ScriptEngine

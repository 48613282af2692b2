/-!
# Operators and the operator table

Every spelling of an operator has one row in `Operator.table`, with the number
of its operands, how tightly it binds and what it does.  Word operators such
as `eq` share their operation with the symbol they stand for.  Binding power
grows with the number: postfix access binds tightest, assignment loosest.

`Operator.afterOperand?` and `Operator.beforeOperand?` look a spelling up by position; `-`
is one operator after an operand and another one before it.
-/

namespace ScriptEngine

/-! Binding powers, loosest first. -/
namespace Binding

def assignment : Nat := 1
def conditional : Nat := 2
def disjunction : Nat := 3
def conjunction : Nat := 4
def bitOr : Nat := 5
def bitXor : Nat := 6
def bitAnd : Nat := 7
/-- Ranges and the predicates on texts and collections. -/
def predicate : Nat := 8
def equality : Nat := 9
def relational : Nat := 10
def additive : Nat := 11
def shift : Nat := 12
def multiplicative : Nat := 13
def unary : Nat := 14
def postfixChain : Nat := 15
/-- What needs no parentheses anywhere. -/
def atom : Nat := 16

end Binding

/-- Operations on two operands. -/
inductive BinaryOp where
  | add | sub | mul | div | mod
  | eq | notEq | lt | ltEq | gt | gtEq
  | and | or
  | bitAnd | bitOr | bitXor | shl | shr | ushr
  | within | notWithin | startsWith | notStartsWith | endsWith | notEndsWith
  | range
  deriving DecidableEq, Repr

namespace BinaryOp

/-- The symbol the operation is written with. -/
def symbol : BinaryOp → String
  | add => "+" | sub => "-" | mul => "*" | div => "/" | mod => "%"
  | eq => "==" | notEq => "!=" | lt => "<" | ltEq => "<=" | gt => ">" | gtEq => ">="
  | and => "&&" | or => "||"
  | bitAnd => "&" | bitOr => "|" | bitXor => "^" | shl => "<<" | shr => ">>" | ushr => ">>>"
  | within => "=~" | notWithin => "!~"
  | startsWith => "=^" | notStartsWith => "!^"
  | endsWith => "=$" | notEndsWith => "!$"
  | range => ".."

/-- How tightly the operation binds. -/
def precedence : BinaryOp → Nat
  | mul | div | mod => Binding.multiplicative
  | shl | shr | ushr => Binding.shift
  | add | sub => Binding.additive
  | lt | ltEq | gt | gtEq => Binding.relational
  | eq | notEq => Binding.equality
  | within | notWithin | startsWith | notStartsWith | endsWith | notEndsWith | range =>
    Binding.predicate
  | bitAnd => Binding.bitAnd
  | bitXor => Binding.bitXor
  | bitOr => Binding.bitOr
  | and => Binding.conjunction
  | or => Binding.disjunction

/-- Whether the right operand is evaluated only when the left one leaves the
result open. -/
def isShortCircuit : BinaryOp → Bool
  | and | or => true
  | _ => false

end BinaryOp

/-- Operations on one operand, written before it. -/
inductive UnaryOp where
  | neg | plus | not | bitNot | empty | size
  deriving DecidableEq, Repr

namespace UnaryOp

/-- The symbol the operation is written with. -/
def symbol : UnaryOp → String
  | neg => "-" | plus => "+" | not => "!" | bitNot => "~" | empty => "empty" | size => "size"

/-- Operators spelled with letters, which need a space before their operand. -/
def isWord : UnaryOp → Bool
  | empty | size => true
  | _ => false

end UnaryOp

/-- What an operator spelling does. -/
inductive Operator where
  | binary (op : BinaryOp)
  | unary (op : UnaryOp)
  /-- Plain `=`. -/
  | assign
  /-- Assignment of the operation's result, such as `+=`. -/
  | compound (op : BinaryOp)
  /-- A step by one: `++` or `--`. -/
  | step (op : BinaryOp)
  /-- The question mark of `c ? a : b`. -/
  | ternary
  /-- Fallback on nil: `??` when `coalesce`, else `?:`. -/
  | elvis (coalesce : Bool)
  deriving DecidableEq, Repr

namespace Operator

/-- The operation that a binary, compound or step form applies. -/
def base? : Operator → Option BinaryOp
  | binary op | compound op | step op => some op
  | _ => none

/-- One row of the operator table. -/
structure Row where
  symbol : String
  /-- 1 for prefix and postfix forms, 2 for infix ones, 3 for the ternary. -/
  arity : Nat
  precedence : Nat
  operator : Operator
  deriving DecidableEq, Repr

namespace Row

/-- The row of a binary operator. -/
def ofBinary (symbol : String) (op : BinaryOp) : Row := ⟨symbol, 2, op.precedence, .binary op⟩

/-- The row of a prefix operator. -/
def ofUnary (symbol : String) (op : UnaryOp) : Row := ⟨symbol, 1, Binding.unary, .unary op⟩

/-- The row of a compound assignment. -/
def ofCompound (symbol : String) (op : BinaryOp) : Row :=
  ⟨symbol, 2, Binding.assignment, .compound op⟩

end Row

/-- Every operator spelling of the language. -/
def table : List Row :=
  [.ofBinary "*" .mul, .ofBinary "/" .div, .ofBinary "%" .mod,
   .ofBinary "<<" .shl, .ofBinary ">>" .shr, .ofBinary ">>>" .ushr,
   .ofBinary "+" .add, .ofBinary "-" .sub,
   .ofBinary "<" .lt, .ofBinary "<=" .ltEq, .ofBinary ">" .gt, .ofBinary ">=" .gtEq,
   .ofBinary "lt" .lt, .ofBinary "le" .ltEq, .ofBinary "gt" .gt, .ofBinary "ge" .gtEq,
   .ofBinary "==" .eq, .ofBinary "!=" .notEq, .ofBinary "eq" .eq, .ofBinary "ne" .notEq,
   .ofBinary ".." .range,
   .ofBinary "=~" .within, .ofBinary "!~" .notWithin,
   .ofBinary "=^" .startsWith, .ofBinary "!^" .notStartsWith,
   .ofBinary "=$" .endsWith, .ofBinary "!$" .notEndsWith,
   .ofBinary "&" .bitAnd, .ofBinary "^" .bitXor, .ofBinary "|" .bitOr,
   .ofBinary "&&" .and, .ofBinary "and" .and, .ofBinary "||" .or, .ofBinary "or" .or,
   ⟨"?", 3, Binding.conditional, .ternary⟩,
   ⟨"?:", 2, Binding.conditional, .elvis false⟩,
   ⟨"??", 2, Binding.conditional, .elvis true⟩,
   ⟨"=", 2, Binding.assignment, .assign⟩,
   .ofCompound "+=" .add, .ofCompound "-=" .sub, .ofCompound "*=" .mul, .ofCompound "/=" .div,
   .ofCompound "%=" .mod, .ofCompound "&=" .bitAnd, .ofCompound "|=" .bitOr,
   .ofCompound "^=" .bitXor, .ofCompound "<<=" .shl, .ofCompound ">>=" .shr,
   .ofCompound ">>>=" .ushr,
   .ofUnary "-" .neg, .ofUnary "+" .plus, .ofUnary "!" .not, .ofUnary "not" .not,
   .ofUnary "~" .bitNot, .ofUnary "empty" .empty, .ofUnary "size" .size,
   ⟨"++", 1, Binding.unary, .step .add⟩, ⟨"--", 1, Binding.unary, .step .sub⟩]

/-- The row of a spelling that stands after an operand. -/
def afterOperand? (symbol : String) : Option Row :=
  table.find? fun row => 2 ≤ row.arity && row.symbol = symbol

/-- The row of a spelling that stands before an operand. -/
def beforeOperand? (symbol : String) : Option Row :=
  table.find? fun row => row.arity = 1 && row.symbol = symbol

end Operator

/-- The binary operation that a spelling stands for after an operand. -/
def BinaryOp.ofSymbol? (symbol : String) : Option BinaryOp :=
  match Operator.afterOperand? symbol with
  | some ⟨_, _, _, .binary op⟩ => some op
  | _ => none

/-- The unary operation that a spelling stands for before an operand. -/
def UnaryOp.ofSymbol? (symbol : String) : Option UnaryOp :=
  match Operator.beforeOperand? symbol with
  | some ⟨_, _, _, .unary op⟩ => some op
  | _ => none

end ScriptEngine

import ScriptEngine.Number.Decimal

/-!
# Sixty-four bit views of a number

Indices, ranges and the bitwise operators look at a number through a machine
word.  `toInt64?` is the integer part when it fits, `clampInt64` the nearest
word when it does not, and `toIndex?` the number itself when it is a
non-negative integer below `2 ^ 64`.  The bitwise operations act on
two's-complement words of 64 bits; a shift distance counts by its low six
bits.
-/

namespace ScriptEngine

/-- The least signed word. -/
def minInt64 : Int := -9223372036854775808

/-- The greatest signed word. -/
def maxInt64 : Int := 9223372036854775807

namespace Number

/-- The integer part, if it is a signed word. -/
def toInt64? (q : Number) : Option Int :=
  if minInt64 ≤ q.trunc ∧ q.trunc ≤ maxInt64 then some q.trunc else none

/-- The signed word nearest to the integer part. -/
def clampInt64 (q : Number) : Int :=
  max minInt64 (min maxInt64 q.trunc)

/-- The number as an index: a non-negative integer below `2 ^ 64`. -/
def toIndex? (q : Number) : Option Nat :=
  if q.den = 1 ∧ 0 ≤ q.num ∧ q.num < twoPow 64 then some q.num.toNat else none

/-- An index written in decimal digits, after a plus sign or none. -/
def indexOfText? (text : String) : Option Nat :=
  let digits := match text.toList with
    | '+' :: rest => rest
    | all => all
  if digits.isEmpty || !digits.all Char.isDigit then none
  else if digitsValue digits < twoPow 64 then some (digitsValue digits) else none

end Number

/-! Bitwise operations on signed words, given and returned as integers. -/
namespace Word

/-- The two's-complement word of an integer. -/
def ofInt (n : Int) : BitVec 64 := BitVec.ofInt 64 n

/-- The distance by which a shift moves: the low six bits of its operand. -/
def distance (n : Int) : Nat := (n % 64).toNat

def and (a b : Int) : Int := (ofInt a &&& ofInt b).toInt

def or (a b : Int) : Int := (ofInt a ||| ofInt b).toInt

def xor (a b : Int) : Int := (ofInt a ^^^ ofInt b).toInt

def not (a : Int) : Int := (~~~ ofInt a).toInt

/-- Shift left; bits that leave the word are lost. -/
def shiftLeft (a b : Int) : Int := (ofInt a <<< distance b).toInt

/-- Shift right, copying the sign. -/
def shiftRight (a b : Int) : Int := ((ofInt a).sshiftRight (distance b)).toInt

/-- Shift right, filling with zeros. -/
def shiftRightUnsigned (a b : Int) : Int := (ofInt a >>> distance b).toInt

end Word

end ScriptEngine

import ScriptEngine.Number.Power

/-!
# Exact numbers and their decimal form

Every number of the language is an exact rational.  It is read from decimal
digits with at most one point, without a sign, and written

* as an integer when it is one,
* as a decimal fraction when its denominator divides a power of ten, with the
  fewest places that hold it exactly,
* as `numerator/denominator` in lowest terms otherwise.

`Number.ofDecimal?` reads, `Number.render` writes.
-/

namespace ScriptEngine

/-- A number of the language. -/
abbrev Number := Rat

/-- The number written by a list of decimal digits. -/
def digitsValue (ds : List Char) : Nat :=
  ds.foldl (fun n d => 10 * n + (d.toNat - '0'.toNat)) 0

namespace Number

/-- Read digits with at most one point, such as `42`, `1.5`, `.5` or `2.`. -/
def ofDecimal? (text : String) : Option Number :=
  let whole := text.toList.takeWhile (· ≠ '.')
  let places := (text.toList.dropWhile (· ≠ '.')).drop 1
  if whole.isEmpty && places.isEmpty then none
  else if (whole ++ places).all Char.isDigit then
    some (mkRat (digitsValue (whole ++ places)) (tenPow places.length))
  else none

/-- A number without a fractional part. -/
def isInteger (q : Number) : Bool := q.den = 1

/-- The integer part, toward zero. -/
def trunc (q : Number) : Int := q.num.tdiv q.den

/-- The least number of decimal places that hold a fraction with denominator
`den` exactly, if there is one.  A denominator `2 ^ i * 5 ^ j` divides `10 ^ k`
from `k = max i j` on, which is at most its binary logarithm. -/
def decimalPlaces? (den : Nat) : Option Nat :=
  (List.range (den.log2 + 1)).find? fun k => tenPow k % den = 0

/-- The digits of `n`, at least one more of them than `places`, with a point
before the last `places`. -/
def withPoint (n places : Nat) : String :=
  let digits := Nat.toDigits 10 n
  let digits := List.replicate (places + 1 - digits.length) '0' ++ digits
  String.ofList (digits.take (digits.length - places)) ++ "." ++
    String.ofList (digits.drop (digits.length - places))

/-- A number as it is shown: `12`, `-0.25` or `10/3`. -/
def render (q : Number) : String :=
  if q.isInteger then toString q.num
  else match decimalPlaces? q.den with
    | none => s!"{q.num}/{q.den}"
    | some places =>
      (if q.num < 0 then "-" else "") ++
        withPoint (q.num.natAbs * tenPow places / q.den) places

end Number

end ScriptEngine

import ScriptEngine.Number.Decimal

/-!
# Binary floating point numbers

A binary floating point number of 64 bits is taken apart into sign, exponent
and significand and is then an exact rational (`ofBits?`; infinities and the
rest have no rational value).  In the other direction `nearestBits` gives the
bits of the number nearest to a rational: ties go to the even significand, a
magnitude beyond the range becomes an infinity, and a sign is kept also where
the magnitude is rounded to zero.
-/

namespace ScriptEngine.Binary64

/-- The rational with these bits, if it is finite. -/
def ofBits? (bits : Nat) : Option Number :=
  let negative := bits / twoPow 63 % 2 = 1
  let exponent := bits / twoPow 52 % twoPow 11
  let fraction := bits % twoPow 52
  if exponent = twoPow 11 - 1 then none
  else
    let significand : Nat := if exponent = 0 then fraction else twoPow 52 + fraction
    let scale : Int := (max exponent 1 : Nat) - 1075
    let magnitude : Number :=
      if 0 ≤ scale then mkRat (significand * twoPow scale.toNat : Nat) 1
      else mkRat significand (twoPow (-scale).toNat)
    some (if negative then -magnitude else magnitude)

/-- The integer nearest to `n / d`, ties to the even one. -/
def roundHalfEven (n d : Nat) : Nat :=
  let q := n / d
  let r := n % d
  if 2 * r < d then q
  else if d < 2 * r then q + 1
  else q + q % 2

/-- The greatest `e` with `2 ^ e ≤ n / d`, for positive `n` and `d`. -/
def binaryExponent (n d : Nat) : Int :=
  let e : Int := n.log2 - d.log2
  let reached := if 0 ≤ e then d * twoPow e.toNat ≤ n else d ≤ n * twoPow (-e).toNat
  if reached then e else e - 1

/-- The bits of the number nearest to `q`. -/
def nearestBits (q : Number) : Nat :=
  if q.num = 0 then 0
  else
    let n := q.num.natAbs
    let unit := max (binaryExponent n q.den) (-1022) - 52
    let significand :=
      if 0 ≤ unit then roundHalfEven n (q.den * twoPow unit.toNat)
      else roundHalfEven (n * twoPow (-unit).toNat) q.den
    -- A significand that rounds up to the next power of two carries into the exponent.
    let magnitude := (unit + 1074).toNat * twoPow 52 + significand
    let infinity := (twoPow 11 - 1) * twoPow 52
    (if q.num < 0 then twoPow 63 else 0) + min magnitude infinity

end ScriptEngine.Binary64

import Mathlib.Data.Int.Bitwise
import Mathlib.Data.Rat.Floor
import Mathlib.Tactic.NormNum
import ScriptEngine.Evaluation.Operation

/-!
# Integer operators

The remainder and the operators on words look at the integer parts of their operands, the
latter at the nearest signed words of 64 bits.  This file says in integers what they compute:
no operand is too large, too small or too far from an integer for it.

* `Number.towardZero` — the integer part of a number;
* `Word.toInt_bitwise` — an operation on words, bit by bit, is the one on integers, which
  have infinitely many bits;
* `Word.shiftLeft_eq`, `Word.shiftRight_eq`, `Word.shiftRightUnsigned_eq` — shifts are products
  and quotients by powers of two;
* `Eval.integer_operators` — all of them, between any two operands with a numeric view.
-/

namespace ScriptEngine

/-! ## Integer parts -/

/-- The nearest integer in the direction of zero. -/
def Number.towardZero (q : Number) : Int := if 0 ≤ q then ⌊q⌋ else ⌈q⌉

theorem Number.trunc_eq_towardZero (q : Number) : q.trunc = q.towardZero := by
  unfold Number.trunc Number.towardZero
  split
  · rename_i hq
    rw [Int.tdiv_eq_ediv_of_nonneg (Rat.num_nonneg.mpr hq), Rat.floor_def']
  · rename_i hq
    have hneg : 0 ≤ -q.num := by
      have := Rat.num_nonneg.not.mpr hq
      omega
    rw [Rat.ceil_def', ← Int.tdiv_eq_ediv_of_nonneg hneg, Int.neg_tdiv, Int.neg_neg]

/-! ## Signed words -/

/-- An integer that is a signed word. -/
def IsWord (n : Int) : Prop := minInt64 ≤ n ∧ n ≤ maxInt64

/-- The signed word nearest to the integer part. -/
theorem Number.clampInt64_eq (q : Number) :
    q.clampInt64 = max (-2 ^ 63) (min (2 ^ 63 - 1) q.towardZero) := by
  rw [Number.clampInt64, Number.trunc_eq_towardZero]
  rfl

theorem Number.isWord_clampInt64 (q : Number) : IsWord q.clampInt64 := by
  unfold Number.clampInt64 IsWord
  constructor
  · exact le_max_left _ _
  · exact max_le (by decide) (min_le_left _ _)

namespace Word

/-- Integers with the same bits are the same. -/
theorem eq_of_testBit {m n : Int} (h : ∀ i, m.testBit i = n.testBit i) : m = n := by
  -- a bit beyond both numbers tells the signs apart
  have hbeyond : ∀ a b : Nat, a.testBit (a + b) = false ∧ b.testBit (a + b) = false := by
    intro a b
    have hsmall : ∀ c ≤ a + b, c < 2 ^ (a + b) := fun c hc =>
      lt_of_lt_of_le Nat.lt_two_pow_self (Nat.pow_le_pow_right (by decide) hc)
    exact ⟨Nat.testBit_eq_false_of_lt (hsmall a (by omega)),
      Nat.testBit_eq_false_of_lt (hsmall b (by omega))⟩
  cases m with
  | ofNat a =>
      cases n with
      | ofNat b => exact congrArg Int.ofNat (Nat.eq_of_testBit_eq h)
      | negSucc b =>
          have hbit := h (a + b)
          simp [Int.testBit, hbeyond a b] at hbit
  | negSucc a =>
      cases n with
      | ofNat b =>
          have hbit := h (a + b)
          simp [Int.testBit, hbeyond a b] at hbit
      | negSucc b =>
          refine congrArg Int.negSucc (Nat.eq_of_testBit_eq fun i => ?_)
          have hbit := h i
          simpa [Int.testBit] using hbit

/-- The bits of a word go on with its sign. -/
theorem testBit_toInt {w : Nat} (x : BitVec w) (i : Nat) :
    x.toInt.testBit i = if i < w then x.getLsbD i else x.msb := by
  have hnat : x.toNat.testBit i = x.getLsbD i := x.testBit_toNat
  rw [BitVec.toInt_eq_msb_cond]
  cases hsign : x.msb with
  | false =>
      simp only [Bool.false_eq_true, if_false]
      show x.toNat.testBit i = _
      split
      · exact hnat
      · rw [hnat]
        exact BitVec.getLsbD_of_ge x i (by omega)
  | true =>
      have hneg : (x.toNat : Int) - ((2 ^ w : Nat) : Int) =
          Int.negSucc (2 ^ w - (x.toNat + 1)) := by
        have hlt := x.isLt
        omega
      simp only [if_true, hneg, Int.testBit, Nat.testBit_two_pow_sub_succ x.isLt, hnat]
      by_cases hi : i < w <;> simp [hi]

/-- **An operation on words, bit by bit**, is the operation on their integers. -/
theorem toInt_bitwise {w : Nat} (hw : 0 < w) {f : Bool → Bool → Bool} {x y z : BitVec w}
    (h : ∀ i < w, z.getLsbD i = f (x.getLsbD i) (y.getLsbD i)) :
    z.toInt = Int.bitwise f x.toInt y.toInt := by
  apply eq_of_testBit
  intro i
  rw [Int.testBit_bitwise, testBit_toInt, testBit_toInt, testBit_toInt]
  split
  · exact h i ‹_›
  · simp only [BitVec.msb_eq_getLsbD_last]
    exact h (w - 1) (by omega)

theorem toInt_not {w : Nat} (hw : 0 < w) (x : BitVec w) : (~~~x).toInt = Int.lnot x.toInt := by
  apply eq_of_testBit
  intro i
  rw [Int.testBit_lnot, testBit_toInt, testBit_toInt]
  split
  · rename_i hi
    simp [hi]
  · simp [BitVec.msb_not, hw]

/-! ### Words as integers -/

theorem isWord_toInt (x : BitVec 64) : IsWord x.toInt := by
  have hle : -2 ^ 63 ≤ x.toInt := x.le_toInt
  have hlt : x.toInt < 2 ^ 63 := x.toInt_lt
  unfold IsWord minInt64 maxInt64
  omega

/-- A word is its integer or greater by the number of words. -/
theorem toNat_ofInt (n : Int) : ((ofInt n).toNat : Int) = n % 2 ^ 64 := by
  rw [ofInt, BitVec.toNat_ofInt]
  omega

/-- What leaves the word to the left is a multiple of the number of words. -/
theorem shiftLeft_eq (m n : Int) : shiftLeft m n = (m * 2 ^ distance n).bmod (2 ^ 64) := by
  have hshift : (((ofInt m).toNat <<< distance n : Nat) : Int) =
      m % 2 ^ 64 * 2 ^ distance n := by
    rw [Nat.shiftLeft_eq, Nat.cast_mul, toNat_ofInt, Nat.cast_pow]
    rfl
  rw [shiftLeft, BitVec.toInt_shiftLeft, hshift]
  calc (m % 2 ^ 64 * 2 ^ distance n).bmod (2 ^ 64)
      = ((m % 2 ^ 64).bmod (2 ^ 64) * 2 ^ distance n).bmod (2 ^ 64) := Int.bmod_mul_bmod.symm
    _ = (m.bmod (2 ^ 64) * 2 ^ distance n).bmod (2 ^ 64) := by
        rw [← Int.emod_bmod m (2 ^ 64)]
        rfl
    _ = (m * 2 ^ distance n).bmod (2 ^ 64) := Int.bmod_mul_bmod

/-- What leaves the word to the right is the fraction of a quotient. -/
theorem shiftRightUnsigned_eq (m n : Int) :
    shiftRightUnsigned m n = (⌊((m % 2 ^ 64 : Int) : ℚ) / 2 ^ distance n⌋).bmod (2 ^ 64) := by
  have hfloor := Rat.floor_intCast_div_natCast (m % 2 ^ 64) (2 ^ distance n)
  have hshift : (((ofInt m >>> distance n).toNat : Nat) : Int) =
      m % 2 ^ 64 / ((2 ^ distance n : Nat) : Int) := by
    rw [BitVec.toNat_ushiftRight, Nat.shiftRight_eq_div_pow, Int.natCast_ediv, toNat_ofInt]
  rw [shiftRightUnsigned, BitVec.toInt_eq_toNat_bmod, hshift, ← hfloor]
  norm_num

section Operations

variable {m n : Int} (hm : IsWord m)

include hm

theorem toInt_ofInt : (ofInt m).toInt = m := by
  unfold IsWord minInt64 maxInt64 at hm
  exact BitVec.toInt_ofInt_eq_self (by decide) (by norm_num; omega) (by norm_num; omega)

theorem shiftRight_eq : shiftRight m n = ⌊(m : ℚ) / 2 ^ distance n⌋ := by
  have hfloor := Rat.floor_intCast_div_natCast m (2 ^ distance n)
  rw [shiftRight, BitVec.toInt_sshiftRight, toInt_ofInt hm, Int.shiftRight_eq_div_pow, ← hfloor]
  norm_num

theorem not_eq : not m = Int.lnot m := by
  rw [not, toInt_not (by decide), toInt_ofInt hm]

variable (hn : IsWord n)

include hn

/-- An operation on the words of two integers, bit by bit, is the one on the integers. -/
theorem toInt_bitwise_ofInt {f : Bool → Bool → Bool} {z : BitVec 64}
    (h : ∀ i < 64, z.getLsbD i = f ((ofInt m).getLsbD i) ((ofInt n).getLsbD i)) :
    z.toInt = Int.bitwise f m n := by
  rw [toInt_bitwise (by decide) h, toInt_ofInt hm, toInt_ofInt hn]

theorem and_eq : and m n = Int.land m n := by
  rw [and, toInt_bitwise_ofInt hm hn fun _ _ => BitVec.getLsbD_and, Int.bitwise_and]

theorem or_eq : or m n = Int.lor m n := by
  rw [or, toInt_bitwise_ofInt hm hn fun _ _ => BitVec.getLsbD_or, Int.bitwise_or]

theorem xor_eq : xor m n = Int.xor m n := by
  rw [xor, toInt_bitwise_ofInt hm hn fun _ _ => BitVec.getLsbD_xor, Int.bitwise_xor]

end Operations

end Word

/-! ## Remainders -/

/-- The remainder that has the sign of the dividend. -/
theorem exists_quotient_tmod (a : Int) {b : Int} (hb : b ≠ 0) :
    ∃ quotient, a = quotient * b + a.tmod b ∧ |a.tmod b| < |b| ∧
      (a.tmod b = 0 ∨ (a.tmod b).sign = a.sign) := by
  refine ⟨a.tdiv b, ?_, ?_, ?_⟩
  · have hdivision := Int.mul_tdiv_add_tmod a b
    rw [mul_comm, hdivision]
  · rw [Int.abs_eq_natAbs, Int.abs_eq_natAbs, Int.natAbs_tmod]
    exact_mod_cast Nat.mod_lt _ (Int.natAbs_pos.mpr hb)
  · rw [Int.sign_tmod]
    by_cases hdvd : b ∣ a
    · exact Or.inl (Int.tmod_eq_zero_of_dvd hdvd)
    · exact Or.inr (if_neg hdvd)

namespace Eval

/-! ## Operators -/

/-- A step gives a signed word and changes nothing. -/
def GivesWord (step : Eval Value) (r : Run) (n : Int) : Prop :=
  step r = .ok (.int n) r ∧ IsWord n

variable {rules : Semantics} {r : Run} {x y : Value} {p q : Number}

theorem givesWord_compute {f : Store → Except EvalError Value} {word : BitVec 64}
    (h : f r.store = .ok (.int word.toInt)) : GivesWord (compute f) r word.toInt := by
  constructor
  · unfold compute
    rw [h]
  · exact Word.isWord_toInt word

/-- The complement of an operand that is no truth value. -/
theorem givesWord_bitNot (hx : rules.arithmetic.numeric? r.store x = some p)
    (hbool : ¬∃ v, x = .bool v) :
    GivesWord (unary rules .bitNot x) r (Int.lnot p.clampInt64) := by
  rw [← Word.not_eq p.isWord_clampInt64]
  show GivesWord (compute fun s => rules.arithmetic.bitComplement s x) r (BitVec.toInt _)
  apply givesWord_compute
  unfold Arithmetic.bitComplement
  split
  · exact absurd ⟨_, rfl⟩ hbool
  · rw [hx]
    rfl

section Binary

variable (hx : rules.arithmetic.numeric? r.store x = some p)
  (hy : rules.arithmetic.numeric? r.store y = some q)

include hx hy

/-- The remainder fails for one reason only. -/
theorem binary_mod : binary rules .mod x y r =
    if q.towardZero = 0 then .error (.error (.ofCause .divisionByZero)) r
    else .ok (.int (p.towardZero.tmod q.towardZero)) r := by
  have hmodulo : rules.arithmetic.modulo r.store x y =
      if q.towardZero = 0 then .error (.ofCause .divisionByZero)
      else .ok (.int (p.towardZero.tmod q.towardZero)) := by
    unfold Arithmetic.modulo Arithmetic.operands
    rw [hx, hy, ← Number.trunc_eq_towardZero, ← Number.trunc_eq_towardZero]
    rfl
  show compute (fun s => rules.arithmetic.modulo s x y) r = _
  simp only [compute, hmodulo]
  by_cases hzero : q.towardZero = 0
  · rw [if_pos hzero, if_pos hzero]
  · rw [if_neg hzero, if_neg hzero]

theorem words_ok (operator : String) :
    rules.arithmetic.words r.store operator x y = .ok (p.clampInt64, q.clampInt64) := by
  unfold Arithmetic.words Arithmetic.operands
  rw [hx, hy]
  rfl

/-- A shift of the nearest words. -/
theorem givesWord_shift (operator : String) {onWords : Int → Int → Int} {word : BitVec 64}
    (hword : onWords p.clampInt64 q.clampInt64 = word.toInt) :
    GivesWord (compute fun s => rules.arithmetic.shift s operator onWords x y) r word.toInt := by
  apply givesWord_compute
  rw [← hword, Arithmetic.shift, words_ok hx hy]
  rfl

/-- A bitwise operation on the nearest words. -/
theorem givesWord_bitwise (hbools : ¬∃ v w, x = .bool v ∧ y = .bool w) (operator : String)
    (onBools : Bool → Bool → Bool) {onWords : Int → Int → Int} {word : BitVec 64}
    (hword : onWords p.clampInt64 q.clampInt64 = word.toInt) :
    GivesWord (compute fun s => rules.arithmetic.bitwise s operator onBools onWords x y) r
      word.toInt := by
  apply givesWord_compute
  unfold Arithmetic.bitwise
  split
  · exact absurd ⟨_, _, rfl, rfl⟩ hbools
  · rw [← hword, words_ok hx hy]
    rfl

end Binary

/-- **What the integer operators compute.**  Both operands are any values with a numeric
view.  The remainder is that of the integer parts, with the sign of the dividend, and fails
only if there is no divisor.  The bitwise operators act on the nearest signed words, whose
bits in two's complement go on with the sign; on truth values they are logical instead.  A
shift multiplies by a power of two, up to a multiple of the number of words, or divides by
it, rounding down; the unsigned one takes the words from 0 on.  The distance counts modulo
64.  Nothing else fails, and no result is beyond the signed words. -/
theorem integer_operators (hx : rules.arithmetic.numeric? r.store x = some p)
    (hy : rules.arithmetic.numeric? r.store y = some q) :
    let a := p.towardZero
    let b := q.towardZero
    let m := max (-2 ^ 63) (min (2 ^ 63 - 1) a)
    let n := max (-2 ^ 63) (min (2 ^ 63 - 1) b)
    let k := (n % 64).toNat
    (binary rules .mod x y r = .error (.error (.ofCause .divisionByZero)) r ↔ b = 0) ∧
      (b ≠ 0 → ∃ quotient rest : Int, binary rules .mod x y r = .ok (.int rest) r ∧
        a = quotient * b + rest ∧ |rest| < |b| ∧ (rest = 0 ∨ rest.sign = a.sign)) ∧
      ((¬∃ v w, x = .bool v ∧ y = .bool w) →
        GivesWord (binary rules .bitAnd x y) r (Int.land m n) ∧
          GivesWord (binary rules .bitOr x y) r (Int.lor m n) ∧
          GivesWord (binary rules .bitXor x y) r (Int.xor m n)) ∧
      ((¬∃ v, x = .bool v) → GivesWord (unary rules .bitNot x) r (Int.lnot m)) ∧
      GivesWord (binary rules .shl x y) r ((m * 2 ^ k).bmod (2 ^ 64)) ∧
      GivesWord (binary rules .shr x y) r ⌊(m : ℚ) / 2 ^ k⌋ ∧
      GivesWord (binary rules .ushr x y) r
        (⌊((m % 2 ^ 64 : Int) : ℚ) / 2 ^ k⌋.bmod (2 ^ 64)) := by
  intro a b m n k
  have hm : m = p.clampInt64 := p.clampInt64_eq.symm
  have hn : n = q.clampInt64 := q.clampInt64_eq.symm
  have hk : k = Word.distance q.clampInt64 := by
    rw [← hn]
    rfl
  have hp := p.isWord_clampInt64
  have hq := q.isWord_clampInt64
  rw [hm, hn, hk]
  refine ⟨?_, ?_, ?_, ?_, ?_, ?_, ?_⟩
  · rw [binary_mod hx hy]
    by_cases hzero : q.towardZero = 0 <;> simp [hzero, b]
  · intro hb
    obtain ⟨quotient, hdivision⟩ := exists_quotient_tmod a hb
    exact ⟨quotient, a.tmod b, by rw [binary_mod hx hy, if_neg hb], hdivision⟩
  · intro hbools
    rw [← Word.and_eq hp hq, ← Word.or_eq hp hq, ← Word.xor_eq hp hq]
    exact ⟨givesWord_bitwise hx hy hbools "&" Bool.and rfl,
      givesWord_bitwise hx hy hbools "|" Bool.or rfl,
      givesWord_bitwise hx hy hbools "^" Bool.xor rfl⟩
  · exact givesWord_bitNot hx
  · rw [← Word.shiftLeft_eq]
    exact givesWord_shift hx hy "<<" rfl
  · rw [← Word.shiftRight_eq hp]
    exact givesWord_shift hx hy ">>" rfl
  · rw [← Word.shiftRightUnsigned_eq]
    exact givesWord_shift hx hy ">>>" rfl

/-- A negative distance counts as well: -2 moves by 62 bits. -/
theorem operators_on_negative_fractions :
    let rules : Semantics := ⟨⟨true⟩, ⟨none, .none⟩⟩
    let r : Run := ⟨.empty, Options.standard, .top 8⟩
    let x : Value := .number (-15 / 2)
    let y : Value := .number (-5 / 2)
    (rules.arithmetic.numeric? r.store x = some (-15 / 2) ∧
        rules.arithmetic.numeric? r.store y = some (-5 / 2)) ∧
      GivesWord (binary rules .bitAnd x y) r (-8) ∧
      GivesWord (binary rules .shl x y) r (2 ^ 62) ∧
      GivesWord (binary rules .shr x y) r (-1) ∧
      GivesWord (binary rules .ushr x y) r 3 := by
  intro rules r x y
  obtain ⟨-, -, hbitwise, -, hshl, hshr, hushr⟩ :=
    @integer_operators rules r x y (-15 / 2) (-5 / 2) rfl rfl
  have ha : Number.towardZero (-15 / 2) = -7 := by norm_num [Number.towardZero]
  have hb : Number.towardZero (-5 / 2) = -2 := by norm_num [Number.towardZero]
  rw [ha, hb] at hbitwise hshl hshr hushr
  refine ⟨⟨rfl, rfl⟩, ?_, ?_, ?_, ?_⟩
  · exact (hbitwise (by simp [x])).1
  · exact hshl
  · have hfloor : ⌊((-7 : Int) : ℚ) / 2 ^ 62⌋ = -1 := by norm_num
    rw [← hfloor]
    exact hshr
  · have hfloor : ⌊(((-7 : Int) % 2 ^ 64 : Int) : ℚ) / 2 ^ 62⌋ = 3 := by norm_num
    have hwrap : (3 : Int).bmod (2 ^ 64) = 3 := by decide
    rw [← hwrap, ← hfloor]
    exact hushr

end Eval

end ScriptEngine

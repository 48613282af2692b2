import Mathlib.Data.List.TakeWhile
import Mathlib.Data.Nat.Prime.Basic
import ScriptEngine.Number.Decimal

/-!
# Numbers and their decimal form

A number whose denominator divides a power of ten is written with finitely many
digits, and reading them gives the number back.

* `decimalPlaces_of_dvd`, `decimalPlaces_spec` — the places that such a number
  needs are found, and they are the fewest;
* `render_eq` — the shape of a number that is not negative;
* `ofDecimal_render` — what is written is read as the same number.
-/

namespace ScriptEngine

/-- Reading digits undoes writing them. -/
theorem digitsValue_toDigits (n : Nat) : digitsValue (Nat.toDigits 10 n) = n :=
  Nat.ofDigitChars_ten_toDigits

/-- Zeros in front of digits do not count. -/
theorem digitsValue_replicate_append (k : Nat) (ds : List Char) :
    digitsValue (List.replicate k '0' ++ ds) = digitsValue ds := by
  show Nat.ofDigitChars 10 (List.replicate k '0' ++ ds) 0 = Nat.ofDigitChars 10 ds 0
  rw [Nat.ofDigitChars_append, Nat.ofDigitChars_replicate_zero, Nat.mul_zero]

namespace Number

/-! ## Denominators of decimal fractions -/

/-- A divisor of some power of ten divides already the power with its binary
logarithm. -/
theorem dvd_ten_pow_log2 {den k : Nat} (hden : den ≠ 0) (h : den ∣ 10 ^ k) :
    den ∣ 10 ^ den.log2 := by
  have hsplit : den ∣ 2 ^ k * 5 ^ k := by
    rw [← Nat.mul_pow]
    exact h
  obtain ⟨a, b, ha, hb, rfl⟩ := Nat.dvd_mul.mp hsplit
  obtain ⟨i, -, rfl⟩ := (Nat.dvd_prime_pow (by decide : Nat.Prime 2)).mp ha
  obtain ⟨j, -, rfl⟩ := (Nat.dvd_prime_pow Nat.prime_five).mp hb
  have hi : i ≤ (2 ^ i * 5 ^ j).log2 := by
    rw [Nat.le_log2 hden]
    exact Nat.le_mul_of_pos_right _ (Nat.pow_pos (by decide))
  have hj : j ≤ (2 ^ i * 5 ^ j).log2 := by
    rw [Nat.le_log2 hden]
    calc 2 ^ j ≤ 5 ^ j := Nat.pow_le_pow_left (by decide) j
      _ ≤ 2 ^ i * 5 ^ j := Nat.le_mul_of_pos_left _ (Nat.pow_pos (by decide))
  rw [show (10 : Nat) = 2 * 5 from rfl, Nat.mul_pow]
  exact Nat.mul_dvd_mul (Nat.pow_dvd_pow 2 hi) (Nat.pow_dvd_pow 5 hj)

/-- Places that are found hold the fraction, and no fewer do. -/
theorem decimalPlaces_spec {den places : Nat} (h : decimalPlaces? den = some places) :
    den ∣ 10 ^ places ∧ ∀ k, den ∣ 10 ^ k → places ≤ k := by
  obtain ⟨hfound, -, hfirst⟩ := List.find?_range_eq_some.mp h
  have hdvd : den ∣ 10 ^ places := Nat.dvd_of_mod_eq_zero (of_decide_eq_true hfound)
  have hleast : ∀ k, den ∣ 10 ^ k → places ≤ k := by
    intro k hk
    by_contra hlt
    have hmissed := hfirst k (Nat.lt_of_not_le hlt)
    rw [decide_eq_true (Nat.mod_eq_zero_of_dvd hk : tenPow k % den = 0)] at hmissed
    exact absurd hmissed (by decide)
  exact ⟨hdvd, hleast⟩

/-- The places of a decimal fraction are found. -/
theorem decimalPlaces_of_dvd {den k : Nat} (hden : den ≠ 0) (h : den ∣ 10 ^ k) :
    ∃ places, decimalPlaces? den = some places := by
  have hsome : (decimalPlaces? den).isSome = true := by
    refine List.find?_isSome.mpr ⟨den.log2, ?_, ?_⟩
    · exact List.mem_range.mpr (Nat.lt_succ_self _)
    · exact decide_eq_true (Nat.mod_eq_zero_of_dvd (dvd_ten_pow_log2 hden h))
  exact Option.isSome_iff_exists.mp hsome

/-! ## Shape -/

/-- Digits only, and at least one. -/
def AreDigits (cs : List Char) : Prop := cs ≠ [] ∧ ∀ c ∈ cs, c.isDigit = true

theorem areDigits_toDigits (n : Nat) : AreDigits (Nat.toDigits 10 n) :=
  ⟨Nat.toDigits_ne_nil, fun _ hc => Nat.isDigit_of_mem_toDigits (by decide) (by decide) hc⟩

/-- The shape of a number with a point: digits on both sides that add up to the
number without the point. -/
theorem withPoint_eq (n : Nat) {places : Nat} (hplaces : places ≠ 0) :
    ∃ whole fraction, (withPoint n places).toList = whole ++ '.' :: fraction ∧
      AreDigits whole ∧ AreDigits fraction ∧ fraction.length = places ∧
      digitsValue (whole ++ fraction) = n := by
  let digits := List.replicate (places + 1 - (Nat.toDigits 10 n).length) '0' ++
    Nat.toDigits 10 n
  have hlength : places < digits.length := by
    simp only [digits, List.length_append, List.length_replicate]
    omega
  have hdigits : ∀ c ∈ digits, c.isDigit = true := by
    intro c hc
    rcases List.mem_append.mp hc with hc | hc
    · rw [(List.mem_replicate.mp hc).2]
      rfl
    · exact (areDigits_toDigits n).2 c hc
  refine ⟨digits.take (digits.length - places), digits.drop (digits.length - places), ?_,
    ⟨?_, fun c hc => hdigits c (List.mem_of_mem_take hc)⟩,
    ⟨?_, fun c hc => hdigits c (List.mem_of_mem_drop hc)⟩, ?_, ?_⟩
  · unfold withPoint
    simp only [String.toList_append, String.toList_ofList, List.append_assoc]
    rfl
  · intro hnil
    have := congrArg List.length hnil
    simp only [List.length_take, List.length_nil] at this
    omega
  · intro hnil
    have := congrArg List.length hnil
    simp only [List.length_drop, List.length_nil] at this
    omega
  · rw [List.length_drop]
    omega
  · rw [List.take_append_drop, digitsValue_replicate_append, digitsValue_toDigits]

/-- **The shape of a decimal number that is not negative**: digits, or digits on
both sides of a point, which stand for the number and are the fewest that do. -/
theorem render_eq {q : Number} {k : Nat} (hq : 0 ≤ q) (h : q.den ∣ 10 ^ k) :
    (AreDigits q.render.toList ∧ mkRat (digitsValue q.render.toList) 1 = q) ∨
    ∃ whole fraction, q.render.toList = whole ++ '.' :: fraction ∧ AreDigits whole ∧
      AreDigits fraction ∧
      mkRat (digitsValue (whole ++ fraction)) (10 ^ fraction.length) = q ∧
      ∀ k, q.den ∣ 10 ^ k → fraction.length ≤ k := by
  have hnum : (q.num.natAbs : Int) = q.num := Int.natAbs_of_nonneg (Rat.num_nonneg.mpr hq)
  by_cases hint : q.isInteger = true
  · have hden : q.den = 1 := of_decide_eq_true hint
    have htext : q.render.toList = Nat.toDigits 10 q.num.natAbs := by
      have htoString : toString q.num = toString q.num.natAbs := by
        conv_lhs => rw [← hnum]
        rfl
      rw [render, if_pos hint, htoString, Nat.toString_eq_ofList_toDigits,
        String.toList_ofList]
    refine .inl ?_
    rw [htext, digitsValue_toDigits, hnum, ← hden]
    exact ⟨areDigits_toDigits _, Rat.mkRat_self q⟩
  · obtain ⟨places, hplaces⟩ := decimalPlaces_of_dvd q.den_nz h
    obtain ⟨hdvd, hleast⟩ := decimalPlaces_spec hplaces
    have hnz : places ≠ 0 := by
      rintro rfl
      exact hint (decide_eq_true (Nat.dvd_one.mp hdvd))
    obtain ⟨whole, fraction, htext, hwhole, hfraction, hlength, hvalue⟩ :=
      withPoint_eq (q.num.natAbs * tenPow places / q.den) hnz
    refine .inr ⟨whole, fraction, ?_, hwhole, hfraction, ?_, hlength ▸ hleast⟩
    · have hsign : ¬q.num < 0 := Int.not_lt.mpr (Rat.num_nonneg.mpr hq)
      rw [render, if_neg hint, hplaces]
      simp only [hsign, if_false]
      rw [String.empty_append]
      exact htext
    · obtain ⟨c, hc⟩ := hdvd
      have hc' : tenPow places = q.den * c := hc
      have hpos : (10 : Nat) ^ places ≠ 0 := Nat.ne_of_gt (Nat.pow_pos (by decide))
      have hcpos : c ≠ 0 := by
        rintro rfl
        rw [Nat.mul_zero] at hc
        exact hpos hc
      have hdiv : q.num.natAbs * tenPow places / q.den = q.num.natAbs * c := by
        rw [hc', Nat.mul_left_comm, Nat.mul_div_cancel_left _ (Nat.pos_of_ne_zero q.den_nz)]
      rw [hvalue, hlength, hc, hdiv, Int.natCast_mul, hnum, Rat.mkRat_mul_right hcpos]
      exact Rat.mkRat_self q

/-- Digits are no point. -/
theorem AreDigits.ne_point {ds : List Char} (h : AreDigits ds) : ∀ c ∈ ds, c ≠ '.' := by
  rintro c hc rfl
  exact absurd (h.2 '.' hc) (by decide)

/-- Digits are read as the number they stand for. -/
theorem ofDecimal_digits {text : String} (h : AreDigits text.toList) :
    ofDecimal? text = some (mkRat (digitsValue text.toList) 1) := by
  have hpoint : ∀ c ∈ text.toList, decide (c ≠ '.') = true :=
    fun c hc => decide_eq_true (h.ne_point c hc)
  have hwhole : text.toList.takeWhile (· ≠ '.') = text.toList :=
    List.takeWhile_eq_self_iff.mpr hpoint
  have hfraction : (text.toList.dropWhile (· ≠ '.')).drop 1 = [] := by
    rw [List.dropWhile_eq_nil_iff.mpr hpoint]
    rfl
  have hempty : text.toList.isEmpty = false := by
    rw [List.isEmpty_eq_false_iff]
    exact h.1
  have hall : text.toList.all Char.isDigit = true := List.all_eq_true.mpr h.2
  unfold ofDecimal?
  simp only [hwhole, hfraction, hempty, List.append_nil, hall, Bool.false_and, if_true]
  rfl

/-- Digits on both sides of a point are read as the number they stand for. -/
theorem ofDecimal_point {text : String} {whole fraction : List Char}
    (htext : text.toList = whole ++ '.' :: fraction) (hwhole : AreDigits whole)
    (hfraction : AreDigits fraction) :
    ofDecimal? text =
      some (mkRat (digitsValue (whole ++ fraction)) (10 ^ fraction.length)) := by
  have hpoint : ∀ c ∈ whole, decide (c ≠ '.') = true :=
    fun c hc => decide_eq_true (hwhole.ne_point c hc)
  have htake : text.toList.takeWhile (· ≠ '.') = whole := by
    rw [htext, List.takeWhile_append_of_pos hpoint]
    exact List.append_nil whole
  have hdrop : (text.toList.dropWhile (· ≠ '.')).drop 1 = fraction := by
    rw [htext, List.dropWhile_append_of_pos hpoint]
    rfl
  have hempty : whole.isEmpty = false := List.isEmpty_eq_false_iff.mpr hwhole.1
  have hall : (whole ++ fraction).all Char.isDigit = true := by
    rw [List.all_append, List.all_eq_true.mpr hwhole.2, List.all_eq_true.mpr hfraction.2]
    rfl
  unfold ofDecimal?
  simp only [htake, hdrop, hempty, hall, Bool.false_and, if_true]
  rfl

/-- **What is written is read as the same number.** -/
theorem ofDecimal_render {q : Number} {k : Nat} (hq : 0 ≤ q) (h : q.den ∣ 10 ^ k) :
    ofDecimal? q.render = some q := by
  rcases render_eq hq h with ⟨hdigits, hvalue⟩ | ⟨whole, fraction, htext, hwhole, hfraction,
    hvalue, -⟩
  · rw [ofDecimal_digits hdigits, hvalue]
  · rw [ofDecimal_point htext hwhole hfraction, hvalue]

end Number

end ScriptEngine

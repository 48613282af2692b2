import Mathlib.Data.Rat.Lemmas
import Mathlib.Data.Nat.Factorization.Induction
import ScriptEngine.Arithmetic
import ScriptEngine.Proofs.Scanning

/-!
# Shown numbers

A number is shown in full when two and five are the only primes in its
denominator.  What is shown then stands for the number wherever the language reads
numbers: as a text that an operator counts as a number, with its sign, and in a
source, where there are no signs.  Any other number is shown as a quotient, which
nothing reads.

* `Number.Terminates` — finitely many decimal places hold the number;
* `Number.render_neg` — the sign is written in front and changes nothing else;
* `Arithmetic.numberOfText_render`, `Token.ofSource_render` — the two readers;
* `Number.render_fraction` — what stands on both sides of the point;
* `Number.render_reads_back` — the whole of it.
-/

namespace ScriptEngine

namespace Number

/-! ## Finitely many places -/

/-- Two and five are the only primes in the denominator. -/
def Terminates (q : Number) : Prop := ∀ p : Nat, p.Prime → p ∣ q.den → p = 2 ∨ p = 5

/-- A product of twos and fives divides a power of ten. -/
theorem dvd_ten_pow_of_primes {n : Nat} (hn : n ≠ 0)
    (h : ∀ p : Nat, p.Prime → p ∣ n → p = 2 ∨ p = 5) : ∃ k, n ∣ 10 ^ k := by
  induction n using Nat.recOnMul with
  | zero => exact absurd rfl hn
  | one => exact ⟨0, one_dvd _⟩
  | prime p hp =>
      rcases h p hp dvd_rfl with rfl | rfl
      · exact ⟨1, by decide⟩
      · exact ⟨1, by decide⟩
  | mul a b iha ihb =>
      obtain ⟨ha, hb⟩ := Nat.mul_ne_zero_iff.mp hn
      obtain ⟨i, hi⟩ := iha ha fun p hp hdvd => h p hp (hdvd.mul_right b)
      obtain ⟨j, hj⟩ := ihb hb fun p hp hdvd => h p hp (hdvd.mul_left a)
      exact ⟨i + j, by rw [Nat.pow_add]; exact Nat.mul_dvd_mul hi hj⟩

/-- A number terminates just when some power of ten clears its denominator. -/
theorem terminates_iff {q : Number} : q.Terminates ↔ ∃ k, q.den ∣ 10 ^ k := by
  constructor
  · exact dvd_ten_pow_of_primes q.den_nz
  · rintro ⟨k, hk⟩ p hp hdvd
    have hten : p ∣ 2 * 5 := hp.dvd_of_dvd_pow (hdvd.trans hk)
    rcases (Nat.Prime.dvd_mul hp).mp hten with htwo | hfive
    · exact .inl ((Nat.prime_dvd_prime_iff_eq hp Nat.prime_two).mp htwo)
    · exact .inr ((Nat.prime_dvd_prime_iff_eq hp Nat.prime_five).mp hfive)

/-- The opposite number terminates as well. -/
theorem Terminates.neg {q : Number} (h : q.Terminates) : (-q).Terminates := h

/-- A number that does not terminate is shown as a quotient. -/
theorem render_of_not_terminates {q : Number} (h : ¬q.Terminates) :
    q.render = toString q.num ++ "/" ++ toString q.den := by
  have hint : ¬q.isInteger = true := by
    intro hint
    have hden : q.den = 1 := of_decide_eq_true hint
    exact h (terminates_iff.mpr ⟨0, hden ▸ dvd_rfl⟩)
  have hplaces : decimalPlaces? q.den = none := by
    cases hplaces : decimalPlaces? q.den with
    | none => rfl
    | some places =>
        exact absurd (terminates_iff.mpr ⟨places, (decimalPlaces_spec hplaces).1⟩) h
  rw [render, if_neg hint, hplaces]
  rfl

/-! ## Signs -/

/-- **The sign is written in front** and changes nothing else. -/
theorem render_neg {q : Number} (hq : 0 < q) : (-q).render = "-" ++ q.render := by
  have hnum : 0 < q.num := Rat.num_pos.mpr hq
  obtain ⟨n, hn⟩ : ∃ n : Nat, q.num = (n + 1 : Nat) := ⟨q.num.toNat - 1, by omega⟩
  have hint : (-q).isInteger = q.isInteger := rfl
  have hnegative : -q.num < 0 := by omega
  have hpositive : ¬q.num < 0 := by omega
  by_cases hq' : q.isInteger = true
  · rw [render, render, hint, if_pos hq', if_pos hq', Rat.neg_num, hn]
    rfl
  · rw [render, render, hint, if_neg hq', if_neg hq', Rat.neg_den]
    cases decimalPlaces? q.den with
    | none =>
        rw [Rat.neg_num, hn]
        rfl
    | some places =>
        simp only [hnegative, hpositive, if_true, if_false, Rat.neg_num, Int.natAbs_neg]
        rw [String.empty_append]

/-- A negative number is its opposite with a sign in front. -/
theorem render_of_neg {q : Number} (hq : q < 0) : q.render.toList = '-' :: (-q).render.toList := by
  have hsign := render_neg (neg_pos.mpr hq)
  rw [neg_neg] at hsign
  rw [hsign, String.toList_append]
  rfl

/-- Digits and points are all there is in a number that is not negative. -/
theorem mem_render {q : Number} (hq : 0 ≤ q) (h : q.Terminates) :
    ∀ c ∈ q.render.toList, c.isDigit = true ∨ c = '.' := by
  obtain ⟨k, hk⟩ := terminates_iff.mp h
  intro c hc
  rcases render_eq hq hk with ⟨hdigits, -⟩ | ⟨whole, fraction, htext, hwhole, hfraction, -⟩
  · exact .inl (hdigits.2 c hc)
  · rw [htext] at hc
    rcases List.mem_append.mp hc with hc | hc
    · exact .inl (hwhole.2 c hc)
    · rcases List.mem_cons.mp hc with rfl | hc
      · exact .inr rfl
      · exact .inl (hfraction.2 c hc)

/-! ## What follows the point -/

/-- A zero at the end of some digits makes them ten times what they were. -/
theorem digitsValue_concat_zero (ds : List Char) :
    digitsValue (ds ++ ['0']) = 10 * digitsValue ds := by
  unfold digitsValue
  rw [List.foldl_append]
  rfl

/-- The fewest places do not end with a zero. -/
theorem getLast_ne_zero {q : Number} {whole fraction : List Char} (hne : fraction ≠ [])
    (hvalue : mkRat (digitsValue (whole ++ fraction)) (10 ^ fraction.length) = q)
    (hleast : ∀ k, q.den ∣ 10 ^ k → fraction.length ≤ k) : fraction.getLast? ≠ some '0' := by
  intro hlast
  obtain ⟨front, rfl⟩ := List.getLast?_eq_some_iff.mp hlast
  have hvalue' : mkRat (digitsValue (whole ++ front)) (10 ^ front.length) = q := by
    rw [← hvalue, ← List.append_assoc, digitsValue_concat_zero, List.length_append,
      List.length_singleton, Nat.pow_succ, Nat.mul_comm (10 ^ front.length) 10, Int.natCast_mul]
    exact (Rat.mkRat_mul_left (by decide)).symm
  have hdvd : q.den ∣ 10 ^ front.length := by
    rw [← hvalue', Rat.mkRat_eq_divInt]
    exact Int.natCast_dvd_natCast.mp (Rat.den_dvd _ _)
  have hshort := hleast front.length hdvd
  rw [List.length_append, List.length_singleton] at hshort
  omega

end Number

/-! ## Reading -/

/-- No blank is a digit, a point or a sign. -/
theorem isBlank_eq_false {c : Char} (h : c.isDigit = true ∨ c = '.' ∨ c = '-') :
    isBlank c = false := by
  rcases h with h | rfl | rfl
  · have hrange : 48 ≤ c.toNat ∧ c.toNat ≤ 57 := by
      simpa [Char.isDigit, UInt32.le_iff_toNat_le] using h
    simp only [isBlank, Bool.or_eq_false_iff, Bool.and_eq_false_iff, decide_eq_false_iff_not]
    omega
  · rfl
  · rfl

/-- A text without blanks is not trimmed. -/
theorem Search.trim_eq_self {cs : List Char} (h : ∀ c ∈ cs, isBlank c = false) :
    Search.trim cs = cs := by
  have hstays : ∀ ds : List Char, (∀ c ∈ ds, isBlank c = false) → ds.dropWhile isBlank = ds := by
    intro ds hds
    cases ds with
    | nil => rfl
    | cons c ds => exact List.dropWhile_cons_of_neg (by simp [hds c List.mem_cons_self])
  unfold Search.trim
  rw [hstays cs h, hstays cs.reverse fun c hc => h c (List.mem_reverse.mp hc), List.reverse_reverse]

/-- A character that is no blank is not trimmed. -/
theorem Search.mem_trim {c : Char} {cs : List Char} (h : c ∈ cs) (hc : isBlank c = false) :
    c ∈ Search.trim cs := by
  have hstays : ∀ ds : List Char, c ∈ ds → c ∈ ds.dropWhile isBlank := by
    intro ds hmem
    rw [← List.takeWhile_append_dropWhile (p := isBlank) (l := ds)] at hmem
    rcases List.mem_append.mp hmem with hmem | hmem
    · rw [List.mem_takeWhile_imp hmem] at hc
      exact absurd hc (by decide)
    · exact hmem
  exact List.mem_reverse.mpr (hstays _ (List.mem_reverse.mpr (hstays _ h)))

/-- Every character but a point is on one side of the first point. -/
theorem Number.mem_sides {c : Char} (hc : c ≠ '.') {cs : List Char} (h : c ∈ cs) :
    c ∈ cs.takeWhile (· ≠ '.') ++ (cs.dropWhile (· ≠ '.')).drop 1 := by
  induction cs with
  | nil => cases h
  | cons d ds ih =>
      by_cases hd : d = '.'
      · subst hd
        have hmem : c ∈ ds := (List.mem_cons.mp h).resolve_left hc
        simpa using hmem
      · rcases List.mem_cons.mp h with rfl | h
        · simp [hd]
        · have hmem := ih h
          simp only [List.takeWhile_cons, List.dropWhile_cons, if_true, ne_eq,
            not_false_eq_true, hd, decide_true]
          exact List.mem_cons_of_mem d hmem

/-- Nothing but digits and a point is read as a number. -/
theorem Number.ofDecimal_eq_none {c : Char} {text : String} (h : c ∈ text.toList)
    (hdigit : c.isDigit = false) (hpoint : c ≠ '.') : Number.ofDecimal? text = none := by
  have hmem := Number.mem_sides hpoint h
  have hall : (text.toList.takeWhile (· ≠ '.') ++
      (text.toList.dropWhile (· ≠ '.')).drop 1).all Char.isDigit = false :=
    List.all_eq_false.mpr ⟨c, hmem, by simp [hdigit]⟩
  unfold Number.ofDecimal?
  simp only [hall, Bool.false_eq_true, if_false, ite_self]

namespace Arithmetic

/-- A text with a slash is not numeric. -/
theorem numberOfText_of_slash {text : String} (h : '/' ∈ text.toList) :
    numberOfText? text = none := by
  have htrim : '/' ∈ Search.trim text.toList := Search.mem_trim h (by decide)
  have hnone : ∀ digits, '/' ∈ digits → Number.ofDecimal? (String.ofList digits) = none := by
    intro digits hmem
    have hmem' : '/' ∈ (String.ofList digits).toList := by rwa [String.toList_ofList]
    exact Number.ofDecimal_eq_none hmem' (by decide) (by decide)
  unfold numberOfText?
  split
  next digits heq =>
    rw [heq] at htrim
    rw [hnone digits (by simpa using htrim)]
    rfl
  next digits heq =>
    rw [heq] at htrim
    exact hnone digits (by simpa using htrim)
  next => exact hnone _ htrim

/-- **A shown number is numeric and counts as itself**, whatever its sign. -/
theorem numberOfText_render {q : Number} (h : q.Terminates) : numberOfText? q.render = some q := by
  by_cases hq : 0 ≤ q
  · obtain ⟨k, hk⟩ := Number.terminates_iff.mp h
    have htrim : Search.trim q.render.toList = q.render.toList :=
      Search.trim_eq_self fun c hc => isBlank_eq_false
        ((Number.mem_render hq h c hc).imp_right .inl)
    have hcloses : Closes [] := trivial
    obtain ⟨c, cs, htext, hdigit, -⟩ := number_render hq hk hcloses
    have hread : Number.ofDecimal? (String.ofList (c :: cs)) = some q := by
      rw [← htext, String.ofList_toList]
      exact Number.ofDecimal_render hq hk
    unfold numberOfText?
    rw [htrim, htext]
    split
    next heq => cases heq; exact absurd hdigit (by decide)
    next heq => cases heq; exact absurd hdigit (by decide)
    next => exact hread
  · have hneg : q < 0 := Rat.not_le.mp hq
    have hpos : 0 < -q := neg_pos.mpr hneg
    obtain ⟨k, hk⟩ := Number.terminates_iff.mp h.neg
    have hread : Number.ofDecimal? (-q).render = some (-q) := Number.ofDecimal_render hpos.le hk
    have htrim : Search.trim ('-' :: (-q).render.toList) = '-' :: (-q).render.toList := by
      refine Search.trim_eq_self fun c hc => isBlank_eq_false ?_
      rcases List.mem_cons.mp hc with rfl | hc
      · exact .inr (.inr rfl)
      · exact (Number.mem_render hpos.le h.neg c hc).imp_right .inl
    unfold numberOfText?
    rw [Number.render_of_neg hneg, htrim]
    simp only [String.ofList_toList, hread, Option.map_some, neg_neg]

/-- A text counts as the number that it looks like. -/
theorem toNumber_text (a : Arithmetic) (s : Store) (text : String) :
    a.toNumber s (.text text) =
      match numberOfText? text with
      | some number => .ok number
      | none => .error (.ofCause (.unsupportedOperation "cannot convert string to a number")) := by
  cases htext : numberOfText? text with
  | none =>
      simp only [toNumber, numeric?, htext]
      rfl
  | some number => simp only [toNumber, numeric?, htext]

end Arithmetic

/-- **A shown number is one token**, which spans the whole source. -/
theorem Token.ofSource_render {q : Number} (hq : 0 ≤ q) (h : q.Terminates) :
    Token.ofSource q.render =
      [⟨.number q, ⟨0, byteLength q.render.toList⟩, q.render⟩,
        ⟨.eof, ⟨byteLength q.render.toList, byteLength q.render.toList⟩, ""⟩] := by
  obtain ⟨k, hk⟩ := Number.terminates_iff.mp h
  have hcloses : Closes [] := trivial
  obtain ⟨c, cs, htext, hdigit, hnumber⟩ := number_render hq hk hcloses
  obtain ⟨hspace, hslash⟩ := isDigit_plain hdigit
  have hnext : Lexeme.next c cs = ⟨.number q, c :: cs, []⟩ := by
    rw [Lexeme.next, if_pos hdigit, ← htext, ← hnumber, List.append_nil]
  have hend : ∀ fuel pos, Token.ofChars fuel pos [] = [⟨.eof, ⟨pos, pos⟩, ""⟩] := by
    intro fuel pos
    cases fuel <;> rfl
  have hliteral : String.ofList (c :: cs) = q.render := by rw [← htext, String.ofList_toList]
  unfold Token.ofSource
  rw [htext, ofChars_word _ _ hspace (startsComment_of_ne hslash _) hnext, hend]
  simp only [Token.placed, Nat.zero_add, hliteral]

/-- **The shape of a shown fraction**: a sign if it is negative, digits, a point and
digits again, of which the last is not zero. -/
theorem Number.render_fraction {q : Number} (h : q.Terminates) (hint : ¬q.isInteger = true) :
    ∃ whole fraction,
      q.render.toList = (if q < 0 then ['-'] else []) ++ whole ++ '.' :: fraction ∧
      AreDigits whole ∧ AreDigits fraction ∧ fraction.getLast? ≠ some '0' := by
  have hshape : ∀ p : Number, 0 ≤ p → p.Terminates → ¬p.isInteger = true →
      ∃ whole fraction, p.render.toList = whole ++ '.' :: fraction ∧
        AreDigits whole ∧ AreDigits fraction ∧ fraction.getLast? ≠ some '0' := by
    intro p hp hterminates hfraction
    obtain ⟨k, hk⟩ := terminates_iff.mp hterminates
    rcases render_eq hp hk with ⟨-, hvalue⟩ | ⟨whole, fraction, htext, hwhole, hplaces, hvalue,
      hleast⟩
    · have hden : p.den ∣ 1 := by
        rw [← hvalue, Rat.mkRat_eq_divInt]
        exact Int.natCast_dvd_natCast.mp (Rat.den_dvd _ _)
      exact absurd (decide_eq_true (Nat.dvd_one.mp hden)) hfraction
    · exact ⟨whole, fraction, htext, hwhole, hplaces,
        getLast_ne_zero hplaces.1 hvalue hleast⟩
  by_cases hq : 0 ≤ q
  · rw [if_neg (Rat.not_lt.mpr hq)]
    exact hshape q hq h hint
  · have hneg : q < 0 := Rat.not_le.mp hq
    have hpos : 0 < -q := neg_pos.mpr hneg
    obtain ⟨whole, fraction, htext, hrest⟩ := hshape (-q) hpos.le h.neg hint
    refine ⟨whole, fraction, ?_, hrest⟩
    rw [if_pos hneg, render_of_neg hneg, htext]
    rfl

/-- **A shown number reads back exactly.**  If two and five are the only primes in
its denominator, every arithmetic converts the text to the number; if there are
others, it refuses the text.  A number of the first sort that is not negative is
what the reader of literals makes of the text, and its single token in a source.
One that is no integer has a point, with digits before it and, after it, digits of
which the last is not zero. -/
theorem Number.render_reads_back (q : Number) :
    (q.Terminates → ∀ (a : Arithmetic) (s : Store),
      a.toNumber s (.text q.render) = .ok q) ∧
    (¬q.Terminates → ∀ (a : Arithmetic) (s : Store),
      a.toNumber s (.text q.render) =
        .error (.ofCause (.unsupportedOperation "cannot convert string to a number"))) ∧
    (q.Terminates → 0 ≤ q → Number.ofDecimal? q.render = some q ∧
      Token.ofSource q.render =
        [⟨.number q, ⟨0, byteLength q.render.toList⟩, q.render⟩,
          ⟨.eof, ⟨byteLength q.render.toList, byteLength q.render.toList⟩, ""⟩]) ∧
    (q.Terminates → ¬q.isInteger → ∃ whole fraction,
      q.render.toList = (if q < 0 then ['-'] else []) ++ whole ++ '.' :: fraction ∧
      AreDigits whole ∧ AreDigits fraction ∧ fraction.getLast? ≠ some '0') := by
  refine ⟨?_, ?_, ?_, render_fraction⟩
  · intro h a s
    rw [Arithmetic.toNumber_text, Arithmetic.numberOfText_render h]
  · intro h a s
    have hslash : '/' ∈ q.render.toList := by
      rw [render_of_not_terminates h]
      simp
    rw [Arithmetic.toNumber_text, Arithmetic.numberOfText_of_slash hslash]
  · intro h hq
    obtain ⟨k, hk⟩ := terminates_iff.mp h
    exact ⟨ofDecimal_render hq hk, Token.ofSource_render hq h⟩

/-- One twentieth is the token `0.05`, its opposite the numeric text `-0.05`, and one
third the text `1/3`, which is not numeric. -/
theorem Number.twentieth_reads_back :
    Token.ofSource "0.05" = [⟨.number (1 / 20), ⟨0, 4⟩, "0.05"⟩, ⟨.eof, ⟨4, 4⟩, ""⟩] ∧
    Arithmetic.toNumber ⟨true⟩ .empty (.text "-0.05") = .ok (-1 / 20) ∧
    Arithmetic.toNumber ⟨true⟩ .empty (.text "1/3") =
      .error (.ofCause (.unsupportedOperation "cannot convert string to a number")) := by
  have hterminates : Terminates (1 / 20) := terminates_iff.mpr ⟨2, by decide +kernel⟩
  have hopposite : Terminates (-1 / 20) := terminates_iff.mpr ⟨2, by decide +kernel⟩
  have hthird : ¬Terminates (1 / 3) := by
    intro h
    rcases h 3 Nat.prime_three (by decide +kernel) with h | h <;> exact absurd h (by decide)
  have hshown : render (1 / 20) = "0.05" := by decide +kernel
  have hshown' : render (-1 / 20) = "-0.05" := by decide +kernel
  have hquotient : render (1 / 3) = "1/3" := by decide +kernel
  have htoken := ((render_reads_back (1 / 20)).2.2.1 hterminates (by decide +kernel)).2
  have hvalue := (render_reads_back (-1 / 20)).1 hopposite ⟨true⟩ .empty
  have hrefused := (render_reads_back (1 / 3)).2.1 hthird ⟨true⟩ .empty
  rw [hshown] at htoken
  rw [hshown'] at hvalue
  rw [hquotient] at hrefused
  exact ⟨htoken, hvalue, hrefused⟩

end ScriptEngine

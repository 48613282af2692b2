import ScriptEngine.Proofs.WordOperators

/-!
# Ranges

A range runs over the integers from one bound to the other, in either direction, if both
bounds are signed words and there are not too many integers between them.  It is computed on
words: its length is an unsigned distance and one more, and its items come one after the
other until the last one is reached.  Near the ends of the words every one of these steps
could overflow.

* `Arithmetic.range_eq` — when a range is refused, and its items;
* `Word.gap`, `Word.count?`, `Word.walk?` — the steps on words;
* `Word.range?_eq` — no step overflows, and together they give the items;
* `Eval.range_exact` — what `..` does between any two numbers.
-/

namespace ScriptEngine

/-! ## Items -/

instance (n : Int) : Decidable (IsWord n) := inferInstanceAs (Decidable (_ ∧ _))

/-- The integer bound that a number is, if there is one. -/
theorem Number.toInt64?_eq (q : Number) :
    q.toInt64? = if IsWord q.towardZero then some q.towardZero else none := by
  rw [Number.toInt64?, Number.trunc_eq_towardZero]
  rfl

/-- The `i`-th integer on the way from one to another. -/
def towards (a b : Int) (i : Nat) : Int := if a ≤ b then a + i else a - i

section Way

variable {a b : Int} {i : Nat}

theorem towards_last (a b : Int) : towards a b (a - b).natAbs = b := by
  unfold towards
  split <;> omega

/-- The way from the next integer is the rest of the way. -/
theorem towards_succ (hi : i < (a - b).natAbs) :
    towards a b (i + 1) = towards (towards a b 1) b i := by
  unfold towards
  grind

/-- The way back goes over the same integers. -/
theorem towards_swap (hi : i ≤ (a - b).natAbs) :
    towards b a i = towards a b ((a - b).natAbs - i) := by
  unfold towards
  split <;> split <;> omega

end Way

namespace Arithmetic

theorem longestRange_eq : longestRange = 2 ^ 24 := by decide

/-- **When a range is refused**: a bound is no signed word, or it is too long. -/
theorem range_eq (x y : Number) : range x y =
    if IsWord x.towardZero ∧ IsWord y.towardZero then
      if (x.towardZero - y.towardZero).natAbs + 1 ≤ longestRange then
        .ok (rangeItems x.towardZero y.towardZero)
      else .error (.ofCause (.unsupportedOperation
        s!"range {x.towardZero} .. {y.towardZero} longer than {longestRange} elements"))
    else .error (.ofCause (.unsupportedOperation "range bounds outside 64-bit integers")) := by
  unfold range
  rw [Number.toInt64?_eq, Number.toInt64?_eq]
  by_cases hx : IsWord x.towardZero
  · by_cases hy : IsWord y.towardZero
    · simp only [hx, hy, if_true, and_self]
    · simp only [hx, hy, if_true, if_false, and_false]
  · simp only [hx, if_false, false_and]

section Items

variable (a b : Int)

theorem rangeItems_eq : rangeItems a b =
    ((List.range ((a - b).natAbs + 1)).map fun i => Value.int (towards a b i)).toArray := by
  rw [rangeItems, ← List.map_toArray, List.toArray_range]
  rfl

theorem rangeItems_size : (rangeItems a b).size = (a - b).natAbs + 1 := by
  rw [rangeItems, Array.size_map, Array.size_range]

theorem rangeItems_getElem? {i : Nat} (hi : i ≤ (a - b).natAbs) :
    (rangeItems a b)[i]? = some (.int (towards a b i)) := by
  rw [rangeItems, Array.getElem?_map, Array.getElem?_range,
    if_pos (Nat.lt_succ_of_le hi)]
  rfl

theorem rangeItems_back? : (rangeItems a b).back? = some (.int b) := by
  rw [Array.back?_eq_getElem?, rangeItems_size, Nat.add_sub_cancel,
    rangeItems_getElem? a b (Nat.le_refl _), towards_last]

/-- Between the same bounds the other way around are the same items. -/
theorem rangeItems_swap : rangeItems b a = (rangeItems a b).reverse := by
  have habs : (b - a).natAbs = (a - b).natAbs := by omega
  apply Array.ext_getElem?
  intro i
  by_cases hi : i ≤ (a - b).natAbs
  · have hback : (rangeItems a b).size - 1 - i = (a - b).natAbs - i := by
      rw [rangeItems_size]
      omega
    rw [rangeItems_getElem? b a (by omega), Array.getElem?_reverse (by rw [rangeItems_size]; omega),
      hback, rangeItems_getElem? a b (by omega), towards_swap hi]
  · rw [Array.getElem?_eq_none (by rw [rangeItems_size]; omega),
      Array.getElem?_eq_none (by rw [Array.size_reverse, rangeItems_size]; omega)]

end Items

end Arithmetic

/-! ## Steps on words -/

namespace Word

/-- The distance of two signed words as an unsigned one: the lesser is taken from the greater,
modulo the number of words. -/
def gap (x y : BitVec 64) : BitVec 64 := if x.sle y then y - x else x - y

/-- The number of words from one to another, unless that is no word. -/
def count? (x y : BitVec 64) : Option (BitVec 64) :=
  if (gap x y).uaddOverflow 1 then none else some (gap x y + 1)

/-- The next word on the way to another, unless it is no signed word. -/
def step? (x last : BitVec 64) : Option (BitVec 64) :=
  if x.sle last then
    if x.saddOverflow 1 then none else some (x + 1)
  else if x.ssubOverflow 1 then none else some (x - 1)

/-- The words on the way to another, which is the last one. -/
def walk? (last : BitVec 64) : Nat → BitVec 64 → Option (List (BitVec 64))
  | 0, _ => none
  | n + 1, x =>
    if x = last then some [x]
    else do
      let next ← step? x last
      let rest ← walk? last n next
      return x :: rest

/-- A range between two words, if it is not too long. -/
def range? (first last : BitVec 64) : Option (List (BitVec 64)) := do
  let count ← count? first last
  if count.toNat ≤ Arithmetic.longestRange then walk? last count.toNat first else none

/-- The items that words are. -/
def values (words : List (BitVec 64)) : Array Value :=
  (words.map fun word => Value.int word.toInt).toArray

variable {x last : BitVec 64}

/-- The subtraction modulo the number of words is exact. -/
theorem toNat_gap (x y : BitVec 64) : (gap x y).toNat = (x.toInt - y.toInt).natAbs := by
  have hx := x.toInt_eq_toNat_cond
  have hy := y.toInt_eq_toNat_cond
  have hltx := x.isLt
  have hlty := y.isLt
  unfold gap
  by_cases hle : x.toInt ≤ y.toInt
  · rw [if_pos (BitVec.sle_iff_toInt_le.mpr hle), BitVec.toNat_sub]
    split at hx <;> split at hy <;> omega
  · rw [if_neg (BitVec.sle_iff_toInt_le.not.mpr hle), BitVec.toNat_sub]
    split at hx <;> split at hy <;> omega

/-- The number of words is one more than the distance, which is too much only between the
least and the greatest word. -/
theorem count?_eq (x y : BitVec 64) : (count? x y).map BitVec.toNat =
    if (x.toInt - y.toInt).natAbs + 1 < 2 ^ 64 then some ((x.toInt - y.toInt).natAbs + 1)
    else none := by
  unfold count?
  rw [← toNat_gap]
  have hlt := (gap x y).isLt
  by_cases hover : (gap x y).uaddOverflow 1
  · have hbig : 2 ^ 64 ≤ (gap x y).toNat + 1 := of_decide_eq_true hover
    rw [if_pos hover, if_neg (by omega)]
    rfl
  · have hsmall : ¬2 ^ 64 ≤ (gap x y).toNat + 1 := fun h => hover (decide_eq_true h)
    rw [if_neg hover, if_pos (by omega), Option.map_some,
      BitVec.toNat_add_of_not_uaddOverflow hover]
    rfl

/-- A step that is needed is possible. -/
theorem exists_step (h : x ≠ last) :
    ∃ next, step? x last = some next ∧ next.toInt = towards x.toInt last.toInt 1 := by
  have hne : x.toInt ≠ last.toInt := fun heq => h (BitVec.eq_of_toInt_eq heq)
  have hx := isWord_toInt x
  have hlast := isWord_toInt last
  unfold IsWord minInt64 maxInt64 at hx hlast
  have hone : (1 : BitVec 64).toInt = 1 := by decide
  unfold step? towards
  by_cases hle : x.toInt ≤ last.toInt
  · have hfits : ¬x.saddOverflow 1 := by
      rw [BitVec.saddOverflow, hone, Bool.or_eq_true, decide_eq_true_iff, decide_eq_true_iff]
      omega
    rw [if_pos (BitVec.sle_iff_toInt_le.mpr hle), if_neg hfits, if_pos hle]
    refine ⟨_, rfl, ?_⟩
    rw [BitVec.toInt_add_of_not_saddOverflow hfits, hone]
    rfl
  · have hfits : ¬x.ssubOverflow 1 := by
      rw [BitVec.ssubOverflow, hone, Bool.or_eq_true, decide_eq_true_iff, decide_eq_true_iff]
      omega
    rw [if_neg (BitVec.sle_iff_toInt_le.not.mpr hle), if_neg hfits, if_neg hle]
    refine ⟨_, rfl, ?_⟩
    rw [BitVec.toInt_sub_of_not_ssubOverflow hfits, hone]
    rfl

/-- The way to another word takes as many words as lie between them. -/
theorem walk?_eq (n : Nat) (hn : (x.toInt - last.toInt).natAbs = n) :
    (walk? last (n + 1) x).map (List.map BitVec.toInt) =
      some ((List.range (n + 1)).map (towards x.toInt last.toInt)) := by
  induction n generalizing x with
  | zero =>
      have heq : x.toInt = last.toInt := by omega
      obtain rfl : x = last := BitVec.eq_of_toInt_eq heq
      simp [walk?, towards]
  | succ n ih =>
      have hne : x ≠ last := by
        rintro rfl
        omega
      obtain ⟨next, hstep, hnext⟩ := exists_step hne
      have hcloser : (next.toInt - last.toInt).natAbs = n := by
        rw [hnext]
        unfold towards
        split <;> omega
      obtain ⟨rest, hrest, hitems⟩ := Option.map_eq_some_iff.mp (ih hcloser)
      have hway : (List.range (n + 1)).map (towards next.toInt last.toInt) =
          (List.range (n + 1)).map (towards x.toInt last.toInt ∘ Nat.succ) := by
        apply List.map_congr_left
        intro i hi
        rw [hnext]
        have hlt := List.mem_range.mp hi
        exact (towards_succ (by omega)).symm
      have hfirst : towards x.toInt last.toInt 0 = x.toInt := by simp [towards]
      rw [List.range_succ_eq_map, List.map_cons, List.map_map, ← hway, ← hitems, hfirst]
      rw [walk?, if_neg hne, hstep]
      simp only [Option.bind_eq_bind, Option.bind_some, hrest, Option.pure_def, Option.map_some,
        List.map_cons]

/-- **A range on words.**  No step of it overflows if it is not too long, and there is nothing
but its length that it is refused for. -/
theorem range?_eq (x y : BitVec 64) : (range? x y).map (List.map BitVec.toInt) =
    if (x.toInt - y.toInt).natAbs + 1 ≤ Arithmetic.longestRange then
      some ((List.range ((x.toInt - y.toInt).natAbs + 1)).map (towards x.toInt y.toInt))
    else none := by
  have hlongest := Arithmetic.longestRange_eq
  have hcount := count?_eq x y
  unfold range?
  by_cases hfits : (x.toInt - y.toInt).natAbs + 1 < 2 ^ 64
  · rw [if_pos hfits] at hcount
    obtain ⟨count, hsome, hnat⟩ := Option.map_eq_some_iff.mp hcount
    rw [hsome]
    simp only [Option.bind_eq_bind, Option.bind_some, hnat]
    split
    · exact walk?_eq _ rfl
    · rfl
  · rw [if_neg hfits] at hcount
    rw [Option.map_eq_none_iff.mp hcount, if_neg (by omega)]
    rfl

/-- At the greatest word, and from the least one to it. -/
example :
    (range? (ofInt maxInt64) (ofInt (maxInt64 - 1))).map (List.map BitVec.toInt) =
        some [9223372036854775807, 9223372036854775806] ∧
      count? (ofInt minInt64) (ofInt maxInt64) = none := by
  decide

/-- A range is computed on words: they give its items, or nothing if it is too long. -/
theorem range?_ofInt {a b : Int} (ha : IsWord a) (hb : IsWord b) :
    (range? (ofInt a) (ofInt b)).map values =
      if (a - b).natAbs + 1 ≤ Arithmetic.longestRange then some (Arithmetic.rangeItems a b)
      else none := by
  have hrange := range?_eq (ofInt a) (ofInt b)
  rw [toInt_ofInt ha, toInt_ofInt hb] at hrange
  have hvalues : values =
      (fun items : List Int => (items.map Value.int).toArray) ∘ List.map BitVec.toInt := by
    funext words
    simp [values]
  rw [hvalues, ← Option.map_map, hrange, Arithmetic.rangeItems_eq]
  split
  · simp
  · rfl

end Word

namespace Eval

/-! ## The operator -/

/-- A step makes a new array of the items given, and changes nothing else. -/
def GivesArray (step : Eval Value) (r : Run) (items : Array Value) : Prop :=
  step r = .ok (.array ⟨r.store.arrays.size⟩)
    { r with store := { r.store with arrays := r.store.arrays.push items } }

theorem binary_range (rules : Semantics) (r : Run) (x y : Number) :
    binary rules .range (.number x) (.number y) r =
      match Arithmetic.range x y with
      | .ok items => newArray items r
      | .error e => .error (.error e) r := by
  show (compute (fun _ => Arithmetic.range x y) >>= newArray) r = _
  unfold compute
  cases Arithmetic.range x y <;> rfl

section Bounds

variable (rules : Semantics) (r : Run) {x y : Number}

/-- A range between signed words that is not too long. -/
theorem givesArray_range (hx : IsWord x.towardZero) (hy : IsWord y.towardZero)
    (hfits : (x.towardZero - y.towardZero).natAbs + 1 ≤ Arithmetic.longestRange) :
    GivesArray (binary rules .range (.number x) (.number y)) r
      (Arithmetic.rangeItems x.towardZero y.towardZero) := by
  unfold GivesArray
  rw [binary_range, Arithmetic.range_eq, if_pos ⟨hx, hy⟩, if_pos hfits]
  rfl

/-- Any other range is refused. -/
theorem range_refused_iff :
    (∃ message, binary rules .range (.number x) (.number y) r =
        .error (.error (.ofCause (.unsupportedOperation message))) r) ↔
      ¬IsWord x.towardZero ∨ ¬IsWord y.towardZero ∨
        ¬(x.towardZero - y.towardZero).natAbs + 1 ≤ Arithmetic.longestRange := by
  constructor
  · rintro ⟨message, herror⟩
    by_cases hx : IsWord x.towardZero
    · by_cases hy : IsWord y.towardZero
      · right
        right
        intro hfits
        cases herror.symm.trans (givesArray_range rules r hx hy hfits)
      · exact Or.inr (Or.inl hy)
    · exact Or.inl hx
  · intro h
    rw [binary_range, Arithmetic.range_eq]
    by_cases hwords : IsWord x.towardZero ∧ IsWord y.towardZero
    · obtain ⟨hx, hy⟩ := hwords
      have hlong := (h.resolve_left (not_not.mpr hx)).resolve_left (not_not.mpr hy)
      rw [if_pos ⟨hx, hy⟩, if_neg hlong]
      exact ⟨_, rfl⟩
    · rw [if_neg hwords]
      exact ⟨_, rfl⟩

end Bounds

/-- **Ranges are exact at every bound.**  A range is refused if a bound is no signed word or
if it has more than `2 ^ 24` items, and for no other reason.  Otherwise it is a new array of
the integers from one bound to the other; the range the other way around is its reverse.
Computed on words its length does not overflow unless it is refused, and no step from item
to item does. -/
theorem range_exact (rules : Semantics) (r : Run) (x y : Number) :
    let a := x.towardZero
    let b := y.towardZero
    ((∃ message, binary rules .range (.number x) (.number y) r =
        .error (.error (.ofCause (.unsupportedOperation message))) r) ↔
      ¬IsWord a ∨ ¬IsWord b ∨ 2 ^ 24 < |a - b| + 1) ∧
      (IsWord a → IsWord b → |a - b| + 1 ≤ 2 ^ 24 → ∃ items : Array Value,
        GivesArray (binary rules .range (.number x) (.number y)) r items ∧
          (items.size : Int) = |a - b| + 1 ∧
          (∀ i < items.size, items[i]? = some (.int (if a ≤ b then a + i else a - i))) ∧
          items.back? = some (.int b) ∧
          GivesArray (binary rules .range (.number y) (.number x)) r items.reverse ∧
          (Word.range? (Word.ofInt a) (Word.ofInt b)).map Word.values = some items) ∧
      (IsWord a → IsWord b →
        ((Word.gap (Word.ofInt a) (Word.ofInt b)).toNat : Int) = |a - b| ∧
          (Word.range? (Word.ofInt a) (Word.ofInt b) = none ↔ 2 ^ 24 < |a - b| + 1)) := by
  intro a b
  have hlongest : (a - b).natAbs + 1 ≤ Arithmetic.longestRange ↔ |a - b| + 1 ≤ 2 ^ 24 := by
    rw [Arithmetic.longestRange_eq, Int.abs_eq_natAbs]
    norm_cast
  have hswap : (b - a).natAbs = (a - b).natAbs := by omega
  refine ⟨?_, ?_, ?_⟩
  · rw [range_refused_iff rules r, hlongest, not_le]
  · intro ha hb hle
    have hfits := hlongest.mpr hle
    refine ⟨Arithmetic.rangeItems a b, givesArray_range rules r ha hb hfits, ?_, ?_,
      Arithmetic.rangeItems_back? a b, ?_, ?_⟩
    · rw [Arithmetic.rangeItems_size, Int.abs_eq_natAbs]
      rfl
    · intro i hi
      rw [Arithmetic.rangeItems_size] at hi
      exact Arithmetic.rangeItems_getElem? a b (Nat.le_of_lt_succ hi)
    · rw [← Arithmetic.rangeItems_swap]
      exact givesArray_range rules r hb ha (by rw [hswap]; exact hfits)
    · rw [Word.range?_ofInt ha hb, if_pos hfits]
  · intro ha hb
    constructor
    · rw [Word.toNat_gap, Word.toInt_ofInt ha, Word.toInt_ofInt hb, Int.abs_eq_natAbs]
    · rw [← @Option.map_eq_none_iff _ _ _ Word.values, Word.range?_ofInt ha hb, ← not_le,
        ← hlongest, ite_eq_right_iff]
      simp

end Eval

end ScriptEngine

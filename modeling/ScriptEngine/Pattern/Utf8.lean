import ScriptEngine.Text.CharSet

/-!
# Characters as bytes

A character is encoded in one to four bytes.  A range of characters falls into
parts whose encodings are all the combinations of one range of bytes for each
place, and a set of characters into the parts of its ranges.

* `Utf8.sequences` — those parts, each as its ranges of bytes.
-/

namespace ScriptEngine.Pattern.Utf8

/-- A range of bytes, ends included. -/
structure ByteRange where
  first : Nat
  last : Nat
  deriving DecidableEq, Repr

/-- The last characters with one, two and three bytes, and the last one before the
surrogates. -/
def lengthEnds : List Nat := [0xD7FF, 0x7F, 0x7FF, 0xFFFF]

/-- Where a range from `80` on is cut so that its first part fills blocks of a
size or stays in one of them. -/
def blockCut? (lo hi size : Nat) : Option Nat :=
  if lo / size = hi / size then none
  else if lo % size ≠ 0 then some (lo / size * size + (size - 1))
  else if hi % size ≠ size - 1 then some (hi / size * size - 1)
  else none

/-- Where a range is cut, as the last character of its first part.  The second and
later bytes hold six bits each. -/
def cut? (lo hi : Nat) : Option { n : Nat // lo ≤ n ∧ n < hi } :=
  let blocks := if hi ≤ 0x7F then [] else [64, 4096, 262144].filterMap (blockCut? lo hi)
  (lengthEnds ++ blocks).findSome? fun n => if h : lo ≤ n ∧ n < hi then some ⟨n, h⟩ else none

/-- The bytes of a character. -/
def bytes (c : Char) : List Nat := (String.utf8EncodeChar c).map (·.toNat)

theorem lt_codePointAfter (n : Nat) : n < codePointAfter n := by
  unfold codePointAfter
  split <;> omega

/-- The parts of a range of characters in increasing order. -/
def rangeSequences (lo hi : Nat) : List (List ByteRange) :=
  match cut? lo hi with
  | some ⟨n, _⟩ => rangeSequences lo n ++ rangeSequences (codePointAfter n) hi
  | none =>
    [((bytes (Char.ofNat lo)).zip (bytes (Char.ofNat hi))).map fun (a, b) => ⟨a, b⟩]
  termination_by hi - lo
  decreasing_by
    all_goals
      have := lt_codePointAfter n
      omega

/-- The parts of a set of characters in increasing order. -/
def sequences (s : CharSet) : List (List ByteRange) :=
  s.ranges.toList.flatMap fun (lo, hi) => rangeSequences lo hi

end ScriptEngine.Pattern.Utf8

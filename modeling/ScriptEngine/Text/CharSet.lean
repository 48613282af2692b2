/-!
# Sets and maps of characters

A set of characters is a list of ranges of code points, and a mapping of
characters is a list of entries.  Tables of both are written as text, one item
after the other in increasing order: `41-5a aa` is the range from `41` to `5a`
and the single code point `aa` (hexadecimal), and `df:53,53` maps `df` to two
characters.  A look-up is a binary search.

* `CharSet.contains` — whether a character lies in one of the ranges;
* `CharSet.union`, `inter`, `diff`, `symmDiff`, `complement` — sets from sets;
* `CharMap.find?` — the characters that an entry maps to.

The ranges of a set increase and neither overlap nor touch.  All operations
keep that form, and two sets count as the same if their ranges are.
-/

namespace ScriptEngine

/-- The value of a run of hexadecimal digits; other characters count as zero. -/
def hexValue (digits : String) : Nat :=
  digits.foldl (fun n c =>
    16 * n +
      if '0' ≤ c ∧ c ≤ '9' then c.toNat - '0'.toNat
      else if 'a' ≤ c ∧ c ≤ 'f' then c.toNat - 'a'.toNat + 10
      else 0) 0

/-- The items of a table: what stands between blanks and line breaks. -/
def tableItems (text : String) : List String :=
  (text.splitToList fun c => c = ' ' || c = '\n').filter (· ≠ "")

/-- The largest index below `hi` whose key is at most `n`, found by halving
the interval `[lo, hi)`; `fuel` bounds the number of halvings. -/
def lastAtMost (key : Nat → Nat) (n : Nat) : (fuel lo hi : Nat) → Option Nat
  | 0, _, _ => none
  | fuel + 1, lo, hi =>
    if hi ≤ lo then none
    else
      let mid := (lo + hi) / 2
      if key mid ≤ n then
        match lastAtMost key n fuel (mid + 1) hi with
        | some i => some i
        | none => some mid
      else lastAtMost key n fuel lo mid

/-! ## Ranges -/

/-- The greatest code point. -/
def lastCodePoint : Nat := 0x10FFFF

/-- The next code point of a character; those of surrogates are none. -/
def codePointAfter (n : Nat) : Nat := if n = 0xD7FF then 0xE000 else n + 1

/-- The code point of a character before another one. -/
def codePointBefore (n : Nat) : Nat := if n = 0xE000 then 0xD7FF else n - 1

namespace Ranges

/-- The ranges from an open one `lo`–`hi` on, given those that follow by their
starts: ranges that overlap or touch become one. -/
def joinFrom : (lo hi : Nat) → List (Nat × Nat) → List (Nat × Nat)
  | lo, hi, [] => [(lo, hi)]
  | lo, hi, (lo', hi') :: rest =>
    if lo' ≤ hi + 1 then joinFrom lo (max hi hi') rest
    else (lo, hi) :: joinFrom lo' hi' rest

/-- Ranges in the order of their starts, joined where they overlap or touch. -/
def join : List (Nat × Nat) → List (Nat × Nat)
  | [] => []
  | (lo, hi) :: rest => joinFrom lo hi rest

/-- What two lists of ranges have in common. -/
def inter : List (Nat × Nat) → List (Nat × Nat) → List (Nat × Nat)
  | [], _ => []
  | _, [] => []
  | (lo, hi) :: as, (lo', hi') :: bs =>
    let rest :=
      if hi < hi' then inter as ((lo', hi') :: bs) else inter ((lo, hi) :: as) bs
    if max lo lo' ≤ min hi hi' then (max lo lo', min hi hi') :: rest else rest
  termination_by as bs => as.length + bs.length

/-- What the first list of ranges has and the second one has not. -/
def diff : List (Nat × Nat) → List (Nat × Nat) → List (Nat × Nat)
  | [], _ => []
  | as, [] => as
  | (lo, hi) :: as, (lo', hi') :: bs =>
    if hi' < lo then diff ((lo, hi) :: as) bs
    else if hi < lo' then (lo, hi) :: diff as ((lo', hi') :: bs)
    else
      let rest :=
        if hi' < hi then diff ((codePointAfter hi', hi) :: as) bs
        else diff as ((lo', hi') :: bs)
      if lo < lo' then (lo, codePointBefore lo') :: rest else rest
  termination_by as bs => as.length + bs.length

/-- The gaps from the end `hi` of a range on.  A gap reaches from the character
after one range to the character before the next, the lower one first. -/
def gapsFrom : (hi : Nat) → List (Nat × Nat) → List (Nat × Nat)
  | hi, [] => if hi < lastCodePoint then [(codePointAfter hi, lastCodePoint)] else []
  | hi, (lo', hi') :: rest =>
    let first := codePointAfter hi
    let last := codePointBefore lo'
    (min first last, max first last) :: gapsFrom hi' rest

/-- The gaps before, between and after ranges. -/
def gaps : List (Nat × Nat) → List (Nat × Nat)
  | [] => [(0, lastCodePoint)]
  | (lo, hi) :: rest =>
    if 0 < lo then (0, codePointBefore lo) :: gapsFrom hi rest else gapsFrom hi rest

end Ranges

/-! ## Sets -/

/-- A set of characters: increasing ranges of code points, ends included. -/
structure CharSet where
  ranges : Array (Nat × Nat)
  deriving DecidableEq, Repr, Inhabited

namespace CharSet

def empty : CharSet := ⟨#[]⟩

/-- The set of any ranges in any order. -/
def ofRanges (ranges : List (Nat × Nat)) : CharSet :=
  ⟨(Ranges.join (ranges.mergeSort fun a b => a.1 ≤ b.1)).toArray⟩

/-- The characters from `lo` to `hi`. -/
def range (lo hi : Nat) : CharSet := ⟨#[(lo, hi)]⟩

def ofChar (c : Char) : CharSet := range c.toNat c.toNat

/-- The characters of a text. -/
def ofString (text : String) : CharSet :=
  ofRanges (text.toList.map fun c => (c.toNat, c.toNat))

/-- Read ranges such as `41-5a aa`. -/
def ofText (text : String) : CharSet :=
  ⟨(tableItems text).toArray.map fun item =>
    match item.splitOn "-" with
    | [lo, hi] => (hexValue lo, hexValue hi)
    | _ => (hexValue item, hexValue item)⟩

/-- Whether the code point of `c` lies in one of the ranges. -/
def contains (s : CharSet) (c : Char) : Bool :=
  match lastAtMost (fun i => (s.ranges.getD i (0, 0)).1) c.toNat 64 0 s.ranges.size with
  | some i => c.toNat ≤ (s.ranges.getD i (0, 0)).2
  | none => false

def isEmpty (s : CharSet) : Bool := s.ranges.isEmpty

def union (a b : CharSet) : CharSet :=
  ⟨(Ranges.join (a.ranges.toList.merge b.ranges.toList fun x y => x.1 ≤ y.1)).toArray⟩

/-- The union of several sets. -/
def unions (sets : List CharSet) : CharSet := sets.foldl union empty

def inter (a b : CharSet) : CharSet :=
  ⟨(Ranges.inter a.ranges.toList b.ranges.toList).toArray⟩

def diff (a b : CharSet) : CharSet :=
  ⟨(Ranges.diff a.ranges.toList b.ranges.toList).toArray⟩

/-- The characters in one of two sets but not in both. -/
def symmDiff (a b : CharSet) : CharSet := (a.union b).diff (a.inter b)

/-- The characters between the ranges of a set.  Where nothing but surrogates
lies between two ranges, the two characters next to them count as between. -/
def complement (s : CharSet) : CharSet := ⟨(Ranges.gaps s.ranges.toList).toArray⟩

/-- The only character of a set that has one. -/
def single? (s : CharSet) : Option Char :=
  match s.ranges.toList with
  | [(lo, hi)] => if lo = hi then some (Char.ofNat lo) else none
  | _ => none

/-- Whether all members are below `80`. -/
def isAscii (s : CharSet) : Bool := s.ranges.all fun r => r.2 < 0x80

end CharSet

/-! ## Maps -/

/-- A mapping of single characters to several, in increasing order of the
characters mapped. -/
structure CharMap where
  entries : Array (Nat × List Char)

namespace CharMap

/-- Read entries such as `df:53,53`. -/
def ofText (text : String) : CharMap :=
  ⟨(tableItems text).toArray.map fun item =>
    match item.splitOn ":" with
    | [c, images] => (hexValue c, (images.splitOn ",").map fun d => Char.ofNat (hexValue d))
    | _ => (0, [])⟩

/-- What `c` is mapped to, when it has an entry. -/
def find? (m : CharMap) (c : Char) : Option (List Char) :=
  match lastAtMost (fun i => (m.entries.getD i (0, [])).1) c.toNat 64 0 m.entries.size with
  | some i =>
    let entry := m.entries.getD i (0, [])
    if entry.1 = c.toNat then some entry.2 else none
  | none => none

/-- The characters that have an entry. -/
def domain (m : CharMap) : CharSet :=
  ⟨(Ranges.join (m.entries.toList.map fun entry => (entry.1, entry.1))).toArray⟩

end CharMap

end ScriptEngine

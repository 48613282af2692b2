import ScriptEngine.Store

/-!
# Equality and order of values

Numbers, booleans and host objects with a numeric view are ordered by number,
texts by their characters, and nil equals itself; other pairs are not
comparable (`Store.compare`).

Two equalities follow the contents of collections.  Both go down two
collections side by side and take a pair that they have met before for equal,
so that they end on cyclic collections as well:

* `Store.equal` is the equality of the language: comparable values are equal
  when neither is less;
* `Store.sameContents` does not look at numeric views.
-/

namespace ScriptEngine.Store

variable (s : Store)

/-- A truth value as a number. -/
def boolNumber (b : Bool) : Number := if b then 1 else 0

/-- The number that orders a value.  A text has none, not even `"10"`. -/
def ordinal : Value → Option Number
  | .number value => some value
  | .bool value => some (boolNumber value)
  | .object ref => (s.host ref).number
  | _ => none

/-- How two values are ordered, if they are comparable. -/
def compare (left right : Value) : Option Ordering :=
  match left, right with
  | .text a, .text b => some (compareOfLessAndEq a b)
  | .nil, .nil => some .eq
  | _, _ => do
    let a ← s.ordinal left
    let b ← s.ordinal right
    return compareOfLessAndEq a b

/-- A pair of collections that have been put side by side. -/
abbrev Pairing := Collection × Collection

/-- What decides whether two values that are not both arrays or both maps are
equal; `none` leaves it to the contents. -/
abbrev LeafTest := Value → Value → Option Bool

/-- Whether a test that threads the pairs met so far holds all along two
lists, which have to be equally long. -/
def allPairs {α : Type} (test : α → α → List Pairing → Bool × List Pairing) :
    List α → List α → List Pairing → Bool × List Pairing
  | [], [], met => (true, met)
  | a :: as, b :: bs, met =>
    match test a b met with
    | (true, met) => allPairs test as bs met
    | (false, met) => (false, met)
  | _, _, met => (false, met)

/-- Whether a test that threads the pairs met so far holds between every value
of a list of entries and the value of the same key in a map. -/
def allKeys (test : Value → Value → List Pairing → Bool × List Pairing)
    (other : OrderedMap Value) : List (String × Value) → List Pairing → Bool × List Pairing
  | [], met => (true, met)
  | (key, a) :: rest, met =>
    match other.find? key with
    | none => (false, met)
    | some b =>
      match test a b met with
      | (true, met) => allKeys test other rest met
      | (false, met) => (false, met)

/-- Compare two values, given the pairs of collections met so far.  `fuel`
bounds the number of pairs still to be entered. -/
def equalWithin (leaf : LeafTest) :
    (fuel : Nat) → Value → Value → List Pairing → Bool × List Pairing
  | 0, _, _, met => (true, met)
  | fuel + 1, left, right, met =>
    match leaf left right with
    | some decided => (decided, met)
    | none =>
      match left, right with
      | .array a, .array b =>
        let pair := (Collection.array a, Collection.array b)
        if met.contains pair then (true, met)
        else allPairs (equalWithin leaf fuel) (s.items a).toList (s.items b).toList (pair :: met)
      | .map a, .map b =>
        let pair := (Collection.map a, Collection.map b)
        if met.contains pair then (true, met)
        else if (s.entries a).size = (s.entries b).size then
          allKeys (equalWithin leaf fuel) (s.entries b) (s.entries a).entries (pair :: met)
        else (false, pair :: met)
      | _, _ => (false, met)

/-- The number of pairs of collections, and one more. -/
def pairBound : Nat := s.arrays.size * s.arrays.size + s.maps.size * s.maps.size + 1

/-- Leaves for the equality of the language: comparable values by their order,
all others by reference. -/
def equalLeaf : LeafTest := fun left right =>
  match s.compare left right with
  | some order => some (order == .eq)
  | none =>
    if left.sameReference right then some true
    else match left, right with
      | .array _, .array _ | .map _, .map _ => none
      | _, _ => some false

/-- The equality of the language. -/
def equal (left right : Value) : Bool :=
  (s.equalWithin s.equalLeaf (s.pairBound + 1) left right []).1

/-- Leaves for equality of contents: scalars by value, all others by
reference. -/
def contentsLeaf : LeafTest := fun left right =>
  if left.identical right then some true
  else match left, right with
    | .array _, .array _ | .map _, .map _ => none
    | _, _ => some false

/-- Equality of contents, without regard to numeric views. -/
def sameContents (left right : Value) : Bool :=
  (s.equalWithin contentsLeaf (s.pairBound + 1) left right []).1

end ScriptEngine.Store

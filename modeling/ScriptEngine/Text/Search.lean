import ScriptEngine.Text.Letter

/-!
# Searching in text

Occurrences of one text in another, by characters.  Occurrences are taken from
left to right and do not overlap.

* `Search.indexOf?` — where the first occurrence starts;
* `Search.splitOn` — the pieces between the occurrences of a separator;
* `Search.replaceAll` — the text with every occurrence replaced;
* `Search.trim` — the text without white space at its ends.
-/

namespace ScriptEngine.Search

/-- The number of characters before the first occurrence of `needle`. -/
def indexOf? (needle : List Char) : List Char → Option Nat
  | [] => if needle.isEmpty then some 0 else none
  | c :: cs =>
    if needle.isPrefixOf (c :: cs) then some 0
    else (indexOf? needle cs).map (· + 1)

/-- Whether `needle` occurs anywhere. -/
def contains (needle : List Char) : List Char → Bool
  | [] => needle.isEmpty
  | c :: cs => needle.isPrefixOf (c :: cs) || contains needle cs

/-- The pieces of a text, given how many characters of a separator are still to
be passed and the piece so far in reverse. -/
def splitFrom (sep : List Char) : (skip : Nat) → (piece : List Char) → List Char →
    List (List Char)
  | _, piece, [] => [piece.reverse]
  | skip + 1, piece, _ :: cs => splitFrom sep skip piece cs
  | 0, piece, c :: cs =>
    if sep.isPrefixOf (c :: cs) then piece.reverse :: splitFrom sep (sep.length - 1) [] cs
    else splitFrom sep 0 (c :: piece) cs

/-- The pieces between the occurrences of a separator; an empty separator
divides a text into its characters. -/
def splitOn (sep cs : List Char) : List (List Char) :=
  if sep.isEmpty then cs.map fun c => [c] else splitFrom sep 0 [] cs

/-- Every occurrence of `old` replaced, given how many characters of one are
still to be passed. -/
def replaceFrom (old new : List Char) : (skip : Nat) → List Char → List Char
  | _, [] => []
  | skip + 1, _ :: cs => replaceFrom old new skip cs
  | 0, c :: cs =>
    if old.isPrefixOf (c :: cs) then new ++ replaceFrom old new (old.length - 1) cs
    else c :: replaceFrom old new 0 cs

/-- Every occurrence of `old` replaced by `new`.  The empty text occurs before
every character and at the end. -/
def replaceAll (old new cs : List Char) : List Char :=
  if old.isEmpty then new ++ cs.flatMap fun c => c :: new else replaceFrom old new 0 cs

/-- The text without white space at its ends. -/
def trim (cs : List Char) : List Char :=
  ((cs.dropWhile isBlank).reverse.dropWhile isBlank).reverse

end ScriptEngine.Search

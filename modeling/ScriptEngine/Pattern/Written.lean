import ScriptEngine.Pattern.Property

/-!
# Patterns as they are written

The written form of a pattern, before flags and names have been given their
meaning: what stands in a text, part by part.

* `Written` — a part of a pattern, `ClassItem` — a part of a class in brackets;
* `Written.depth` — how deeply parts are nested in it.
-/

namespace ScriptEngine.Pattern

/-- What a flag changes. -/
inductive Flag where
  | ignoreCase
  /-- `^` and `$` stand for the ends of lines. -/
  | multiLine
  | dotMatchesNewline
  /-- Repetitions with `?` are greedy, and those without are not. -/
  | swapGreed
  | unicode
  /-- A carriage return ends a line as well. -/
  | crlf
  /-- White space and comments in the pattern are skipped. -/
  | verbose
  deriving DecidableEq, Repr

/-- The flag with a letter. -/
def Flag.ofLetter? : Char → Option Flag
  | 'i' => some .ignoreCase
  | 'm' => some .multiLine
  | 's' => some .dotMatchesNewline
  | 'U' => some .swapGreed
  | 'u' => some .unicode
  | 'R' => some .crlf
  | 'x' => some .verbose
  | _ => none

/-- A flag is set or taken away. -/
structure Setting where
  flag : Flag
  value : Bool
  deriving DecidableEq, Repr

/-- A character.  Written with two hexadecimal digits, it is meant as a byte
where characters are bytes. -/
structure Letter where
  char : Char
  isByte : Bool
  deriving DecidableEq, Repr

/-- The places that a pattern can name. -/
inductive PlaceName where
  /-- `^` and `$`, which depend on flags. -/
  | caret | dollar
  | textStart | textEnd
  | wordEdge | noWordEdge | wordStart | wordEnd
  | wordStartHalf | wordEndHalf
  deriving DecidableEq, Repr

/-- A short class: `\d`, `\s` and `\w`. -/
inductive ShortClass where
  | digit | blank | word
  deriving DecidableEq, Repr

/-- How two sides of a class combine. -/
inductive SetOp where
  | intersection | difference | symmetricDifference
  deriving DecidableEq, Repr

/-- A part of a class in brackets.  Where a class can be `negated`, its complement
is meant. -/
inductive ClassItem where
  | letter (letter : Letter)
  | range (first last : Letter)
  | short (which : ShortClass) (negated : Bool)
  /-- A class such as `[:alpha:]`, with its characters. -/
  | ascii (members : CharSet) (negated : Bool)
  | property (query : PropertyQuery) (negated : Bool)
  | bracketed (inner : ClassItem) (negated : Bool)
  /-- Several items, or none. -/
  | union (items : List ClassItem)
  | combined (op : SetOp) (left right : ClassItem)
  deriving Repr, Inhabited

/-- A part of a pattern. -/
inductive Written where
  | nothing
  | settings (changes : List Setting)
  | letter (letter : Letter)
  /-- The point, which stands for any character. -/
  | anyChar
  | place (name : PlaceName)
  | short (which : ShortClass) (negated : Bool)
  | property (query : PropertyQuery) (negated : Bool)
  | bracketed (inner : ClassItem) (negated : Bool)
  | repeated (inner : Written) (least : Nat) (most : Option Nat) (greedy : Bool)
  /-- A group that keeps its place in the text under a number. -/
  | group (number : Nat) (inner : Written)
  /-- A group that only sets flags. -/
  | bare (changes : List Setting) (inner : Written)
  | sequence (parts : List Written)
  | choice (alternatives : List Written)
  deriving Repr, Inhabited

/-! ## Lists of items -/

/-- The union of a list of items; of one item, that item. -/
def ClassItem.ofList : List ClassItem → ClassItem
  | [item] => item
  | items => .union items

/-- Parts one after the other. -/
def Written.ofParts : List Written → Written
  | [] => .nothing
  | [part] => part
  | parts => .sequence parts

/-- A choice between alternatives. -/
def Written.ofAlternatives : List Written → Written
  | [part] => part
  | alternatives => .choice alternatives

/-! ## Depth -/

mutual

/-- How deeply classes, unions and operations are nested. -/
def ClassItem.depth : ClassItem → Nat
  | .letter _ | .range _ _ | .short _ _ | .ascii _ _ | .property _ _ => 0
  | .bracketed inner _ => inner.depth + 1
  | .union items => if items.isEmpty then 0 else ClassItem.depthOfAll items + 1
  | .combined _ left right => max left.depth right.depth + 1

def ClassItem.depthOfAll : List ClassItem → Nat
  | [] => 0
  | item :: rest => max item.depth (ClassItem.depthOfAll rest)

end

mutual

/-- How deeply classes, repetitions, groups, sequences and choices are nested. -/
def Written.depth : Written → Nat
  | .nothing | .settings _ | .letter _ | .anyChar | .place _ | .short _ _ | .property _ _ => 0
  | .bracketed inner _ => inner.depth + 1
  | .repeated inner _ _ _ | .group _ inner | .bare _ inner => inner.depth + 1
  | .sequence parts | .choice parts => Written.depthOfAll parts + 1

def Written.depthOfAll : List Written → Nat
  | [] => 0
  | part :: rest => max part.depth (Written.depthOfAll rest)

end

/-- The depth that a pattern must not exceed. -/
def depthLimit : Nat := 250

end ScriptEngine.Pattern

import ScriptEngine.Pattern
import ScriptEngine.Pattern.Written
import ScriptEngine.Text.CaseMapping

/-!
# What a written pattern means

Flags decide what the parts of a pattern stand for.  A setting holds from where it
stands to the end of its group, across the alternatives of a choice.  Where
characters are taken as bytes, a part that would match one byte of a character
from `80` on alone has no meaning, nor has a class by property.

* `ClassItem.set?` — the set of a class in brackets;
* `Written.meaning` — the pattern of a written one.
-/

namespace ScriptEngine.Pattern

/-- The flags in force at a place in a pattern. -/
structure Flags where
  ignoreCase : Bool
  multiLine : Bool
  dotMatchesNewline : Bool
  swapGreed : Bool
  unicode : Bool
  crlf : Bool
  deriving DecidableEq, Repr

namespace Flags

/-- The flags at the start of a pattern. -/
def standard : Flags := ⟨false, false, false, false, true, false⟩

/-- The flags after one setting. -/
def apply (flags : Flags) (setting : Setting) : Flags :=
  match setting.flag with
  | .ignoreCase => { flags with ignoreCase := setting.value }
  | .multiLine => { flags with multiLine := setting.value }
  | .dotMatchesNewline => { flags with dotMatchesNewline := setting.value }
  | .swapGreed => { flags with swapGreed := setting.value }
  | .unicode => { flags with unicode := setting.value }
  | .crlf => { flags with crlf := setting.value }
  | .verbose => flags

def applyAll (flags : Flags) (settings : List Setting) : Flags := settings.foldl apply flags

end Flags

/-! ## Sets -/

/-- A set with the other cases of its letters below `80`. -/
def foldAsciiCase (s : CharSet) : CharSet :=
  let upper := s.inter (.range 0x41 0x5A)
  let lower := s.inter (.range 0x61 0x7A)
  let shifted (shift : Nat → Nat) (t : CharSet) : CharSet :=
    .ofRanges (t.ranges.toList.map fun (lo, hi) => (shift lo, shift hi))
  .unions [s, shifted (· + 32) upper, shifted (· - 32) lower]

/-- A set with the other cases of its members, where case is ignored. -/
def Flags.fold (flags : Flags) (s : CharSet) : CharSet :=
  if !flags.ignoreCase then s
  else if flags.unicode then s.foldCase
  else foldAsciiCase s

/-- A set or its complement.  Of bytes, a complement would have some from `80`
on. -/
def Flags.complemented? (flags : Flags) (negated : Bool) (s : CharSet) : Option CharSet :=
  if !negated then some s
  else if flags.unicode then some s.complement
  else none

/-- The characters of a short class. -/
def ShortClass.set (unicode : Bool) : ShortClass → CharSet
  | .digit => if unicode then .digit else .ofText "30-39"
  | .blank => if unicode then .blank else .ofText "9-d 20"
  | .word => if unicode then .word else .ofText "30-39 41-5a 5f 61-7a"

/-- The set of a class by property, to which the other cases belong as well. -/
def propertySet? (flags : Flags) (query : PropertyQuery) (negated : Bool) : Option CharSet := do
  guard flags.unicode
  flags.complemented? negated (flags.fold (← query.set?))

/-- The set of two sides of a class. -/
def SetOp.apply : SetOp → CharSet → CharSet → CharSet
  | .intersection => CharSet.inter
  | .difference => CharSet.diff
  | .symmetricDifference => CharSet.symmDiff

/-- The code point of a character inside brackets.  Among bytes there are none
from `80` on. -/
def Letter.codePoint? (flags : Flags) (letter : Letter) : Option Nat :=
  if flags.unicode || letter.char.toNat < 0x80 then some letter.char.toNat else none

mutual

/-- The set of a part of a class. -/
def ClassItem.set? (flags : Flags) : ClassItem → Option CharSet
  | .letter c => do
    let n ← c.codePoint? flags
    return .range n n
  | .range first last => do return .range (← first.codePoint? flags) (← last.codePoint? flags)
  | .short which negated => flags.complemented? negated (which.set flags.unicode)
  | .ascii members negated => flags.complemented? negated (flags.fold members)
  | .property query negated => propertySet? flags query negated
  | .bracketed inner negated => do flags.complemented? negated (flags.fold (← inner.set? flags))
  | .union items => ClassItem.unionSet? flags items
  | .combined op left right => do
    return op.apply (flags.fold (← left.set? flags)) (flags.fold (← right.set? flags))

/-- The union of the sets of some items. -/
def ClassItem.unionSet? (flags : Flags) : List ClassItem → Option CharSet
  | [] => some .empty
  | item :: rest => do return (← item.set? flags).union (← ClassItem.unionSet? flags rest)

end

/-! ## Patterns -/

/-- A character with its other cases, where case is ignored. -/
def Flags.cases (flags : Flags) (c : Char) : CharSet :=
  if flags.ignoreCase && flags.unicode then .ofString (String.ofList (c :: simpleFold c))
  else flags.fold (.ofChar c)

/-- The pattern of one character. -/
def Letter.pattern? (flags : Flags) (letter : Letter) : Option Pattern :=
  if !flags.unicode && letter.isByte && 0x80 ≤ letter.char.toNat then none
  else some (ofSet (flags.cases letter.char))

/-- The pattern of a point. -/
def anyChar? (flags : Flags) : Option Pattern :=
  if !flags.unicode then none
  else if flags.dotMatchesNewline then some (oneOf (.range 0 lastCodePoint))
  else
    let ends := if flags.crlf then "\n\r" else "\n"
    some (oneOf (CharSet.ofString ends).complement)

/-- The place that a name stands for. -/
def PlaceName.place (flags : Flags) : PlaceName → Place
  | .caret => if flags.multiLine then .lineStart flags.crlf else .textStart
  | .dollar => if flags.multiLine then .lineEnd flags.crlf else .textEnd
  | .textStart => .textStart
  | .textEnd => .textEnd
  | .wordEdge => .wordEdge !flags.unicode
  | .noWordEdge => .noWordEdge !flags.unicode
  | .wordStart => .wordStart !flags.unicode
  | .wordEnd => .wordEnd !flags.unicode
  | .wordStartHalf => .noWordBefore !flags.unicode
  | .wordEndHalf => .noWordAfter !flags.unicode

mutual

/-- The pattern of a written one, with the flags after it. -/
def Written.meaning : Written → Flags → Option (Pattern × Flags)
  | .nothing, flags => some (.empty, flags)
  | .settings changes, flags => some (.empty, flags.applyAll changes)
  | .letter c, flags => do return (← c.pattern? flags, flags)
  | .anyChar, flags => do return (← anyChar? flags, flags)
  | .place name, flags => some (.place (name.place flags), flags)
  | .short which negated, flags => do
    return (ofSet (← flags.complemented? negated (which.set flags.unicode)), flags)
  | .property query negated, flags => do
    return (ofSet (← propertySet? flags query negated), flags)
  | .bracketed inner negated, flags => do
    return (ofSet (← (ClassItem.bracketed inner negated).set? flags), flags)
  | .repeated inner least most greedy, flags => do
    let (pattern, flags) ← inner.meaning flags
    return (pattern.times least most (greedy != flags.swapGreed), flags)
  | .group number inner, flags => do
    let (pattern, _) ← inner.meaning flags
    return (.group number pattern, flags)
  | .bare changes inner, flags => do
    let (pattern, _) ← inner.meaning (flags.applyAll changes)
    return (pattern, flags)
  | .sequence parts, flags => do
    let (patterns, flags) ← Written.meanings parts flags
    return (join patterns, flags)
  | .choice alternatives, flags => do
    let (patterns, flags) ← Written.meanings alternatives flags
    return (anyOf patterns, flags)

/-- The patterns of several written ones, each with the flags after those before
it. -/
def Written.meanings : List Written → Flags → Option (List Pattern × Flags)
  | [], flags => some ([], flags)
  | part :: rest, flags => do
    let (pattern, flags) ← part.meaning flags
    let (patterns, flags) ← Written.meanings rest flags
    return (pattern :: patterns, flags)

end

end ScriptEngine.Pattern

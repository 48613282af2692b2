import ScriptEngine.Text.CharSet

/-!
# Patterns of text

A pattern is a regular expression over characters, with conditions on the place
between two characters.  The functions that build patterns keep them in a simple
form: a sequence holds no sequences, no empty parts and no two literals side by
side, a choice between single characters is a class, a choice begins with no
part that all alternatives begin with, and a repetition that says nothing is
left out.

* `Pattern.ofSet`, `Pattern.join`, `Pattern.anyOf`, `Pattern.times` — patterns
  in simple form from a set of characters and from other patterns;
* `Pattern.shortest` — how long the shortest text is that can match.
-/

namespace ScriptEngine

namespace Pattern

/-- A condition on a place in a text. -/
inductive Place where
  | textStart
  | textEnd
  /-- The start of a line; with `crlf`, a carriage return ends a line as well. -/
  | lineStart (crlf : Bool)
  | lineEnd (crlf : Bool)
  /-- A place where a word starts or ends. -/
  | wordEdge (ascii : Bool)
  | noWordEdge (ascii : Bool)
  | wordStart (ascii : Bool)
  | wordEnd (ascii : Bool)
  /-- Not after a word character. -/
  | noWordBefore (ascii : Bool)
  /-- Not before a word character. -/
  | noWordAfter (ascii : Bool)
  deriving DecidableEq, Repr

end Pattern

/-- A regular expression. -/
inductive Pattern where
  | empty
  /-- These characters, one after the other; there is at least one. -/
  | literal (chars : List Char)
  /-- One character of a set. -/
  | oneOf (members : CharSet)
  | place (condition : Pattern.Place)
  /-- At least `least` repetitions, and at most `most` if that is given.  A
  greedy repetition tries more of them before fewer. -/
  | repeated (inner : Pattern) (least : Nat) (most : Option Nat) (greedy : Bool)
  /-- A part whose place in the text is kept under a number. -/
  | group (number : Nat) (inner : Pattern)
  | sequence (parts : List Pattern)
  | choice (alternatives : List Pattern)
  deriving BEq, Repr, Inhabited

namespace Pattern

/-! ## Length -/

mutual

/-- The number of characters in the shortest text that can match, as far as its
parts can match at all. -/
def shortest : Pattern → Option Nat
  | empty | place _ => some 0
  | literal chars => some chars.length
  | oneOf members => if members.isEmpty then none else some 1
  | repeated inner least _ _ => inner.shortest.map (least * ·)
  | group _ inner => inner.shortest
  | sequence parts => shortestInAll parts
  | choice alternatives => shortestInAny alternatives

/-- The sum for a list of parts. -/
def shortestInAll : List Pattern → Option Nat
  | [] => some 0
  | p :: rest => do return (← p.shortest) + (← shortestInAll rest)

/-- The least for a list of alternatives, each of which can match. -/
def shortestInAny : List Pattern → Option Nat
  | [] => none
  | [p] => p.shortest
  | p :: rest => do return min (← p.shortest) (← shortestInAny rest)

end

mutual

/-- Whether nothing but the empty text can match, as far as that can be told
from the parts. -/
def isEmptyOnly : Pattern → Bool
  | empty | place _ => true
  | literal chars => chars.isEmpty
  | oneOf _ => false
  | repeated inner _ most _ => most.isSome && inner.isEmptyOnly
  | group _ inner => inner.isEmptyOnly
  | sequence parts | choice parts => areEmptyOnly parts

def areEmptyOnly : List Pattern → Bool
  | [] => true
  | p :: rest => p.isEmptyOnly && areEmptyOnly rest

end

/-! ## Simple form -/

/-- One character of a set. -/
def ofSet (members : CharSet) : Pattern :=
  match members.single? with
  | some c => literal [c]
  | none => oneOf members

/-- A pattern repeated.  Repeating what matches only the empty text more than
once changes nothing. -/
def times (inner : Pattern) (least : Nat) (most : Option Nat) (greedy : Bool) : Pattern :=
  let (least, most) :=
    if inner.isEmptyOnly then (min least 1, some ((most.map (min 1)).getD 1)) else (least, most)
  if most = some 0 then empty
  else if least = 1 ∧ most = some 1 then inner
  else repeated inner least most greedy

/-- The parts of a sequence; another pattern is a single part. -/
def parts : Pattern → List Pattern
  | empty => []
  | sequence parts => parts
  | p => [p]

/-- Literals that stand side by side become one. -/
def mergeLiterals : List Pattern → List Pattern
  | [] => []
  | p :: rest =>
    match p, mergeLiterals rest with
    | literal a, literal b :: rest => literal (a ++ b) :: rest
    | p, rest => p :: rest

/-- Patterns one after the other. -/
def join (patterns : List Pattern) : Pattern :=
  match mergeLiterals (patterns.flatMap parts) with
  | [] => empty
  | [p] => p
  | parts => sequence parts

/-- The alternatives of a choice; another pattern is a single one. -/
def alternatives : Pattern → List Pattern
  | choice alternatives => alternatives
  | p => [p]

/-- The only character of a literal that has one. -/
def singleChar? : Pattern → Option Char
  | literal [c] => some c
  | _ => none

/-- The set of a class. -/
def members? : Pattern → Option CharSet
  | oneOf members => some members
  | _ => none

/-- The parts of a sequence of several. -/
def sequence? : Pattern → Option (List Pattern)
  | sequence parts => some parts
  | _ => none

/-- What two lists begin with. -/
def commonPrefix : List Pattern → List Pattern → List Pattern
  | p :: ps, q :: qs => if p == q then p :: commonPrefix ps qs else []
  | _, _ => []

/-- A choice between alternatives none of which is a choice: a class if all are
single characters or all are classes. -/
def chosen (alternatives : List Pattern) : Pattern :=
  match alternatives with
  | [] => oneOf .empty
  | [p] => p
  | alternatives =>
    match alternatives.mapM singleChar?, alternatives.mapM members? with
    | some chars, _ => ofSet (.ofRanges (chars.map fun c => (c.toNat, c.toNat)))
    | _, some sets => ofSet (.unions sets)
    | none, none => choice alternatives

/-- A choice between patterns.  If all are sequences of several parts and begin
alike, that beginning comes first and what follows it is chosen. -/
def anyOf (patterns : List Pattern) : Pattern :=
  let flat := patterns.flatMap alternatives
  match flat.mapM sequence? with
  | some (first :: second :: rest) =>
    let start := (second :: rest).foldl commonPrefix first
    if start.isEmpty then chosen flat
    else
      let ends := (first :: second :: rest).map fun parts => join (parts.drop start.length)
      join (start ++ [chosen (ends.flatMap alternatives)])
  | _ => chosen flat

end Pattern

end ScriptEngine

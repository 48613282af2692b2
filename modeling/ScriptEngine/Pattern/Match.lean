import ScriptEngine.Pattern
import ScriptEngine.Text.Letter

/-!
# Matching

Instead of searching for one match, a pattern is run on a set of positions:
`Pattern.reach` gives all positions at which a match that starts in the set may
end.  A choice is the union of its alternatives, a sequence runs one part after
the other, and a repetition goes on until no new position appears.

* `Pattern.reach` — where the matches from a set of positions end;
* `Pattern.matchesSomewhere` — whether any part of a text matches.
-/

namespace ScriptEngine.Pattern

/-! ## Places -/

/-- Whether `c` is a character of words. -/
def isWord (ascii : Bool) (c : Char) : Bool :=
  if c.toNat < 0x80 then c.isAlphanum || c = '_'
  else !ascii && CharSet.word.contains c

/-- Whether a condition holds between two neighbours, either of which is
missing at an end of the text. -/
def Place.holds (condition : Place) (before after : Option Char) : Bool :=
  let word (ascii : Bool) (c : Option Char) := c.any (isWord ascii)
  match condition with
  | textStart => before.isNone
  | textEnd => after.isNone
  | lineStart false => before.all (· = '\n')
  | lineEnd false => after.all (· = '\n')
  | lineStart true => before.all fun c => c = '\n' || (c = '\r' && after ≠ some '\n')
  | lineEnd true => after.all fun c => c = '\r' || (c = '\n' && before ≠ some '\r')
  | wordEdge ascii => word ascii before != word ascii after
  | noWordEdge ascii => word ascii before == word ascii after
  | wordStart ascii => !word ascii before && word ascii after
  | wordEnd ascii => word ascii before && !word ascii after
  | noWordBefore ascii => !word ascii before
  | noWordAfter ascii => !word ascii after

/-! ## Sets of positions -/

/-- The union of two increasing lists of positions. -/
def union (a b : List Nat) : List Nat :=
  (a.merge b (· ≤ ·)).eraseReps

/-- Apply a step `n` times; where it changes nothing, once is enough. -/
def applyTimes (step : List Nat → List Nat) : (n : Nat) → List Nat → List Nat
  | 0, starts => starts
  | n + 1, starts =>
    let next := step starts
    if next = starts then starts else applyTimes step n next

/-- The positions that at most `n` steps lead to, given those that have been
`seen`. -/
def closure (step : List Nat → List Nat) : (n : Nat) → (seen starts : List Nat) → List Nat
  | 0, seen, _ => seen
  | n + 1, seen, starts =>
    let found := (step starts).filter fun i => !seen.contains i
    if found.isEmpty then seen else closure step n (union seen found) found

/-- The positions after one character that is accepted. -/
def afterOne (text : Array Char) (accepts : Char → Bool) (starts : List Nat) : List Nat :=
  starts.filterMap fun i => if text[i]?.any accepts then some (i + 1) else none

/-! ## Matching -/

mutual

/-- The positions at which matches end that start at the positions given.  As a
repetition without a limit finds a new position in each round but the last, as
many rounds as there are positions are enough for it. -/
def reach (text : Array Char) : Pattern → List Nat → List Nat
  | empty, starts => starts
  | literal chars, starts => chars.foldl (fun starts c => afterOne text (· = c) starts) starts
  | oneOf members, starts => afterOne text members.contains starts
  | place condition, starts =>
    starts.filter fun i => condition.holds (if i = 0 then none else text[i - 1]?) text[i]?
  | repeated inner least most _, starts =>
    let reached := applyTimes (reach text inner) least starts
    let rounds := (most.map (· - least)).getD (text.size + 1)
    closure (reach text inner) rounds reached reached
  | group _ inner, starts => reach text inner starts
  | sequence parts, starts => reachAll text parts starts
  | choice alternatives, starts => reachAny text alternatives starts

/-- The positions that the parts of a sequence lead to. -/
def reachAll (text : Array Char) : List Pattern → List Nat → List Nat
  | [], starts => starts
  | p :: rest, starts => reachAll text rest (reach text p starts)

/-- The positions that any of several alternatives leads to. -/
def reachAny (text : Array Char) : List Pattern → List Nat → List Nat
  | [], _ => []
  | p :: rest, starts => union (reach text p starts) (reachAny text rest starts)

end

/-- Whether some part of a text matches. -/
def matchesSomewhere (p : Pattern) (text : String) : Bool :=
  let chars := text.toList.toArray
  !(p.reach chars (List.range (chars.size + 1))).isEmpty

end ScriptEngine.Pattern

import ScriptEngine.Pattern
import ScriptEngine.Pattern.Utf8
import Std.Data.HashMap

/-!
# Size of patterns

A pattern is accepted only if the automata that match it stay small.  There are
two, both over bytes: one that reads a text forwards and keeps the places of
groups, and one that reads it backwards.  This module builds neither; it counts
the states and the bytes that they take.

A state takes 32 bytes.  One that branches keeps each of its successors in 4
bytes more, and one that reads several ranges of bytes keeps each of these, with
the state it leads to, in 8.

* `Construction` — a step of building, with what has been built so far;
* `Pattern.construct` — the automaton of a pattern;
* `Pattern.isSmall` — whether both automata stay within the limit.
-/

namespace ScriptEngine.Pattern

open Utf8 (ByteRange)

/-- What an automaton has come to: its states, which are numbered from 0 on, and
the bytes they take. -/
structure Usage where
  states : Nat
  bytes : Nat

/-- The bytes that an automaton must not exceed. -/
def byteLimit : Nat := 10485760

/-- A step of building an automaton; it fails beyond the limit. -/
abbrev Construction (α : Type) := StateT Usage Option α

namespace Construction

/-- More bytes for the states there are. -/
def widen (bytes : Nat) : Construction Unit := fun u =>
  if byteLimit < u.bytes + bytes then none else some ((), { u with bytes := u.bytes + bytes })

/-- A new state with some bytes beside its own; the answer is its number. -/
def state (bytes : Nat) : Construction Nat := fun u =>
  if byteLimit < u.bytes + 32 + bytes then none
  else some (u.states, ⟨u.states + 1, u.bytes + 32 + bytes⟩)

/-- A state that leads on to another one or reads one range of bytes. -/
def plain : Construction Unit := do let _ ← state 0

/-- A state that branches to `n` others. -/
def branching (n : Nat) : Construction Unit := do let _ ← state (4 * n)

/-- A state that reads one of `n` ranges of bytes. -/
def reading (n : Nat) : Construction Nat := state (8 * n)

/-- The last state of a part. -/
inductive Exit where
  /-- Leading it on fills a place that it has. -/
  | plain
  /-- It branches, so that leading it on adds a successor. -/
  | branching
  deriving DecidableEq, Repr

/-- Lead on from the last state of a part. -/
def lead : Exit → Construction Unit
  | .plain => return ()
  | .branching => widen 4

/-! ## Repetitions -/

/-- More copies of a part, each after the one before. -/
def moreCopies (part : Construction Exit) : (n : Nat) → Exit → Construction Exit
  | 0, exit => return exit
  | n + 1, exit => do
    let next ← part
    lead exit
    moreCopies part n next

/-- Copies of a part, one after the other; none of them is one empty state. -/
def copies (part : Construction Exit) : (n : Nat) → Construction Exit
  | 0 => do
    plain
    return .plain
  | n + 1 => do moreCopies part n (← part)

/-- Copies of a part each of which can be left out with all after it. -/
def optionalCopies (part : Construction Exit) : (n : Nat) → Exit → Construction Exit
  | 0, exit => return exit
  | n + 1, exit => do
    branching 2
    let next ← part
    lead exit
    optionalCopies part n next

/-- A part at most once. -/
def optional (part : Construction Exit) : Construction Exit := do
  branching 2
  let exit ← part
  plain
  lead exit
  return .plain

/-- A part any number of times, which `isNeverEmpty` if each of them reads
something.  If not, the part has to come once before it can come again. -/
def anyTimes (isNeverEmpty : Bool) (part : Construction Exit) : Construction Exit := do
  if isNeverEmpty then
    branching 1
    lead (← part)
    return .branching
  else
    let exit ← part
    branching 2
    lead exit
    branching 2
    plain
    return .plain

/-- A part at least `n + 1` times: the last copy can come again. -/
def atLeast (part : Construction Exit) (n : Nat) : Construction Exit := do
  let exit ← copies part (n + 1)
  branching 1
  lead exit
  return .branching

/-- A part at least `least` times and at most `most` times. -/
def between (part : Construction Exit) (least most : Nat) : Construction Exit := do
  let exit ← copies part least
  if most ≤ least then return exit
  plain
  lead (← optionalCopies part (most - least) exit)
  return .plain

/-! ## Sets of characters -/

/-- A range of bytes and the state that it leads to. -/
structure Step where
  range : ByteRange
  target : Nat
  deriving DecidableEq

/-- The number of a slot for some numbers, out of `slots`: each number in turn is
added to the bits so far without carrying, and what results is multiplied by a
prime, within 64 bits. -/
def slot (slots : Nat) (numbers : List Nat) : Nat :=
  (numbers.foldl (fun (h : UInt64) n => (h ^^^ n.toUInt64) * 1099511628211)
    14695981039346656037).toNat % slots

/-- The states that may be used again: one for each slot, with what it does. -/
abbrev Reuse (α : Type) := Std.HashMap Nat (α × Nat)

/-- The state that does what `key` says: the one in its slot if that does the same,
and else a new one, which takes the slot. -/
def reuse {α : Type} [DecidableEq α] (seen : Reuse α) (slot : Nat) (key : α)
    (new : Construction Nat) : Construction (Nat × Reuse α) := do
  match seen[slot]? with
  | some (known, number) => if known = key then return (number, seen)
  | none => pure ()
  let number ← new
  return (number, seen.insert slot (key, number))

/-- A state that is not finished: the ranges it reads so far, and a last one whose
target is still open. -/
structure OpenState where
  steps : List Step
  last : Option ByteRange

/-- The steps of an open state, given the target of the last one. -/
def OpenState.finish (s : OpenState) (target : Nat) : List Step :=
  match s.last with
  | some range => s.steps ++ [⟨range, target⟩]
  | none => s.steps

/-- The finished state with some steps. -/
def finished (seen : Reuse (List Step)) (steps : List Step) :
    Construction (Nat × Reuse (List Step)) :=
  let numbers := steps.flatMap fun s => [s.range.first, s.range.last, s.target]
  reuse seen (slot 10000 numbers) steps (reading steps.length)

/-- Finish all open states but the first `keep + 1`; the innermost comes first.
`target` is where the innermost one leads to. -/
def finishFrom (keep : Nat) : List OpenState → (target : Nat) → Reuse (List Step) →
    Construction (List OpenState × Reuse (List Step))
  | [], _, seen => return ([], seen)
  | s :: outer, target, seen => do
    if outer.length ≤ keep then
      return (⟨s.finish target, none⟩ :: outer, seen)
    let (number, seen) ← finished seen (s.finish target)
    finishFrom keep outer number seen

/-- How many ranges a sequence begins with that the open states, outermost first,
have as their last ones. -/
def sharedLength : List ByteRange → List OpenState → Nat
  | range :: ranges, s :: inner => if s.last = some range then sharedLength ranges inner + 1 else 0
  | _, _ => 0

/-- Add a sequence of ranges to the open states; `target` is where it leads to. -/
def addSequence (target : Nat) (opened : List OpenState) (seen : Reuse (List Step))
    (ranges : List ByteRange) : Construction (List OpenState × Reuse (List Step)) := do
  let shared := sharedLength ranges opened.reverse
  let (opened, seen) ← finishFrom shared opened target seen
  match opened, ranges.drop shared with
  | s :: outer, range :: inner =>
    let s := { s with last := some range }
    return ((inner.map fun range => ⟨[], some range⟩).reverse ++ s :: outer, seen)
  | _, _ => return (opened, seen)

/-- All sequences of a set of characters read forwards.  Sequences share states
for what they begin with, and states that do the same are used again. -/
def forwards (sequences : List (List ByteRange)) : Construction Exit := do
  let target ← state 0
  let (opened, seen) ← sequences.foldlM (fun (opened, seen) ranges =>
    addSequence target opened seen ranges) ([⟨[], none⟩], (∅ : Reuse (List Step)))
  let (opened, seen) ← finishFrom 0 opened target seen
  for s in opened do
    let _ ← finished seen s.steps
  return .plain

/-- All sequences of a set of characters read backwards.  Each has states of its
own, other than those for what it shares with a sequence before. -/
def backwards (sequences : List (List ByteRange)) : Construction Exit := do
  plain
  let last ← state 0
  let _ ← sequences.foldlM (fun (seen : Reuse Step) ranges => do
    let (_, seen) ← ranges.foldlM (fun ((target, seen) : Nat × Reuse Step) range => do
      let key : Step := ⟨range, target⟩
      reuse seen (slot 1000 [target, range.first, range.last]) key (state 0)) (last, seen)
    widen 4
    return seen) (∅ : Reuse Step)
  return .plain

/-- A set of characters: those below `80` take one state, all others are read byte
by byte. -/
def charSet (reverse : Bool) (members : CharSet) : Construction Exit := do
  if members.isAscii then
    plain
    let _ ← reading members.ranges.size
    return .plain
  else if reverse then backwards (Utf8.sequences members)
  else forwards (Utf8.sequences members)

/-! ## Sequences and choices -/

/-- Parts one after the other, in the order they are built. -/
def chain : List (Construction Exit) → Construction Exit
  | [] => do
    plain
    return .plain
  | first :: rest => do
    rest.foldlM (fun exit part => do
      let next ← part
      lead exit
      return next) (← first)

/-- A state that branches to several parts, all of which lead to one other. -/
def choose : List (Construction Exit) → Construction Exit
  | [] => do
    plain
    return .plain
  | [part] => part
  | first :: second :: rest => do
    let exits := [← first, ← second]
    branching 2
    plain
    exits.forM lead
    rest.forM fun part => do
      let exit ← part
      widen 4
      lead exit
    return .plain

/-- Where a state has been reached through some literals, one that ends there
divides those before it from those after it.  `closed` are the parts so far and
`last` is the one that goes on.  As long as no literal goes on from the state, more
of them that end change nothing. -/
def divide : (closed : List (List (List Nat))) → (last left : List (List Nat)) →
    List (List (List Nat)) × List (List Nat)
  | closed, last, [] => (closed, last)
  | closed, last, [] :: left =>
    if closed ≠ [] ∧ closed.all (·.isEmpty) ∧ last.isEmpty then divide closed last left
    else divide (closed ++ [last]) [] left
  | closed, last, bytes :: left => divide closed (last ++ [bytes]) left

/-- The states that choose between literals, given what is left of each.  Literals
that begin with the same byte share the state after it, but not across one that
ends. -/
def literals : (fuel : Nat) → (left : List (List Nat)) → Construction Unit
  | 0, _ => return ()
  | fuel + 1, left => do
    let (closed, last) := divide [] [] left
    let parts := (closed ++ [last]).filter (!·.isEmpty)
    parts.forM fun part => do
      let firsts := (part.filterMap (·.head?)).eraseDups
      firsts.forM fun first => do
        let following := (part.filter (·.head? = some first)).map (·.drop 1)
        if following.any (!·.isEmpty) then literals fuel following
      if firsts.length = 1 then plain
      else
        let _ ← reading firsts.length
    branching (parts.length + closed.length)

end Construction

open Construction

/-! ## Patterns -/

/-- The bytes of a literal in the order they are read. -/
def literalBytes (reverse : Bool) (chars : List Char) : List Nat :=
  let bytes := chars.flatMap Utf8.bytes
  if reverse then bytes.reverse else bytes

/-- The bytes of a pattern that is a literal. -/
def literalBytes? (reverse : Bool) : Pattern → Option (List Nat)
  | literal chars => some (literalBytes reverse chars)
  | _ => none

mutual

/-- The automaton of a pattern; `reverse` is for the one that reads backwards. -/
def construct (reverse : Bool) : Pattern → Construction Exit
  | empty | place _ => chain []
  | literal chars => do
    (literalBytes reverse chars).forM fun _ => plain
    return .plain
  | oneOf members => charSet reverse members
  | repeated inner least most _ =>
    let part := construct reverse inner
    match least, most with
    | 0, some 1 => Construction.optional part
    | 0, none => anyTimes (inner.shortest.any (0 < ·)) part
    | n + 1, none => atLeast part n
    | least, some most => between part least most
  | group _ inner => do
    if reverse then construct reverse inner
    else
      plain
      let exit ← construct reverse inner
      plain
      lead exit
      return .plain
  | sequence parts =>
    let steps := constructAll reverse parts
    chain (if reverse then steps.reverse else steps)
  | choice alternatives =>
    match alternatives.mapM (literalBytes? reverse) with
    | some all => do
      plain
      literals ((all.map (·.length)).foldl max 0 + 1) all
      return .plain
    | none => choose (constructAll reverse alternatives)

/-- The automata of several patterns. -/
def constructAll (reverse : Bool) : List Pattern → List (Construction Exit)
  | [] => []
  | p :: rest => construct reverse p :: constructAll reverse rest

end

mutual

/-- Whether a pattern can match only from the start of the text on, or with
`reverse` only up to its end, as far as that can be told from the parts. -/
def isAnchored (reverse : Bool) : Pattern → Bool
  | place condition => condition = if reverse then .textEnd else .textStart
  | repeated inner least _ _ => 0 < least && inner.isAnchored reverse
  | group _ inner => inner.isAnchored reverse
  | sequence parts => areAnchored reverse parts
  | choice alternatives => allAnchored reverse alternatives
  | empty | literal _ | oneOf _ => false

/-- The same for a sequence: parts that match only the empty text are looked
through. -/
def areAnchored (reverse : Bool) : List Pattern → Bool
  | [] => false
  | p :: rest =>
    if reverse then areAnchored reverse rest || (areEmptyOnly rest && p.isAnchored reverse)
    else p.isAnchored reverse || (p.isEmptyOnly && areAnchored reverse rest)

/-- The same for a choice. -/
def allAnchored (reverse : Bool) : List Pattern → Bool
  | [] => true
  | p :: rest => p.isAnchored reverse && allAnchored reverse rest

end

/-- The whole automaton of a pattern.  Unless a match has to start where the text
does, any bytes can come before it; and the place of the whole match is kept as
that of a group is. -/
def automaton (reverse : Bool) (p : Pattern) : Construction Unit := do
  if p.isAnchored reverse then plain
  else
    branching 2
    plain
    let _ ← reading 1
  let exit ← construct reverse (group 0 p)
  plain
  lead exit

/-- Whether both automata stay within the limit. -/
def isSmall (p : Pattern) : Bool :=
  [false, true].all fun reverse => ((automaton reverse p).run ⟨0, 0⟩).isSome

end ScriptEngine.Pattern

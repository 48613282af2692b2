/-!
# Spans: places in a source text

A span `[start, stop)` counts bytes of the UTF-8 form of a source.  Sources
are walked as lists of characters, and `splitBytes` is the bridge between the
two: it cuts a text after a number of bytes, and refuses to cut inside a
character.

* `Span.merge` — the smallest span that covers two others;
* `Span.slice?` — the text that a span covers;
* `Span.lineColumn` — where a reader finds its start.
-/

namespace ScriptEngine

/-- The number of bytes that a list of characters occupies. -/
def byteLength : List Char → Nat
  | [] => 0
  | c :: cs => c.utf8Size + byteLength cs

/-- Cut a text after exactly `n` bytes; `none` when that is past its end or
inside a character. -/
def splitBytes : Nat → List Char → Option (List Char × List Char)
  | 0, cs => some ([], cs)
  | _ + 1, [] => none
  | n + 1, c :: cs =>
    if c.utf8Size ≤ n + 1 then
      (splitBytes (n + 1 - c.utf8Size) cs).map fun (front, rest) => (c :: front, rest)
    else none

/-- The leading characters that fit into `n` bytes. -/
def takeBytes : Nat → List Char → List Char
  | _, [] => []
  | n, c :: cs => if c.utf8Size ≤ n then c :: takeBytes (n - c.utf8Size) cs else []

/-- Bytes `start` up to but not including `stop` of a source. -/
structure Span where
  start : Nat
  stop : Nat
  deriving DecidableEq, Repr, Inhabited

namespace Span

/-- The span of what has no place in a source. -/
def none : Span := ⟨0, 0⟩

/-- The number of bytes covered. -/
def length (s : Span) : Nat := s.stop - s.start

def isEmpty (s : Span) : Bool := s.start = s.stop

/-- The smallest span that covers both. -/
def merge (a b : Span) : Span := ⟨min a.start b.start, max a.stop b.stop⟩

/-- The text covered, when both ends lie in the source and between
characters. -/
def slice? (s : Span) (source : String) : Option String := do
  guard (s.start ≤ s.stop)
  let (_, rest) ← splitBytes s.start source.toList
  let (covered, _) ← splitBytes s.length rest
  return String.ofList covered

/-- Line and column of the start, both from 1; columns count bytes. -/
def lineColumn (s : Span) (source : String) : Nat × Nat :=
  let before := takeBytes (min s.start source.utf8ByteSize) source.toList
  (before.count '\n' + 1, byteLength (before.reverse.takeWhile (· ≠ '\n')) + 1)

/-- A span as it is shown: `3..7`. -/
def render (s : Span) : String := s!"{s.start}..{s.stop}"

end Span

end ScriptEngine

import ScriptEngine.Engine.Source

/-!
# The cache of compilations

The cache holds the sources asked for last, with their code.  Its entries are
in the order of their last use, most recent first; a new entry pushes out the
one that has not been used for longest when there is no more room.  A source
that is too long is never kept, and a cache without room keeps nothing.

An entry is found by the whole source, so it is never out of date.
-/

namespace ScriptEngine

/-- Compilations, the one used last first. -/
structure Cache where
  capacity : Nat
  /-- The greatest length in bytes of a source that is kept. -/
  threshold : Nat
  entries : List (Source × Lambda)
  deriving Inhabited

namespace Cache

/-- A cache that holds nothing yet. -/
def empty (capacity threshold : Nat) : Cache := ⟨capacity, threshold, []⟩

/-- The number of compilations held. -/
def count (c : Cache) : Nat := c.entries.length

/-- The sources held, the one used last first. -/
def keys (c : Cache) : List Source := c.entries.map Prod.fst

/-- Whether a source may be kept. -/
def accepts (c : Cache) (source : Source) : Bool :=
  c.capacity ≠ 0 && source.text.utf8ByteSize ≤ c.threshold

/-- The code held for a source. -/
def find? (c : Cache) (source : Source) : Option Lambda :=
  (c.entries.find? fun entry => entry.1 = source).map Prod.snd

/-- Put a compilation in front, and keep only as many as there is room for. -/
def use (c : Cache) (source : Source) (code : Lambda) : Cache :=
  let others := c.entries.filter fun entry => entry.1 ≠ source
  { c with entries := ((source, code) :: others).take c.capacity }

/-- Forget everything. -/
def clear (c : Cache) : Cache := { c with entries := [] }

end Cache

end ScriptEngine

/-!
# Depth of evaluation

A counter of evaluations inside one another, with a limit.  `enter` goes one
level down, unless that would exceed the limit; `exit` comes back up and stays
at the top when it is there.
-/

namespace ScriptEngine

/-- How many evaluations are open, and how many may be. -/
structure Depth where
  depth : Nat
  limit : Nat
  deriving DecidableEq, Repr, Inhabited

namespace Depth

/-- No evaluation is open. -/
def top (limit : Nat) : Depth := ⟨0, limit⟩

/-- One level down; at the limit, the limit itself is the error. -/
def enter (d : Depth) : Except Nat Depth :=
  if d.limit ≤ d.depth then .error d.limit else .ok { d with depth := d.depth + 1 }

/-- One level up. -/
def exit (d : Depth) : Depth := { d with depth := d.depth - 1 }

end Depth

end ScriptEngine

/-!
# Powers of two and ten

Powers of natural numbers in the words of core, so that their meaning does not
hang on what else is imported.
-/

namespace ScriptEngine

/-- A power of two. -/
def twoPow (k : Nat) : Nat := Nat.pow 2 k

/-- A power of ten. -/
def tenPow (k : Nat) : Nat := Nat.pow 10 k

end ScriptEngine

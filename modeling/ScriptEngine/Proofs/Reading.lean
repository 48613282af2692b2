import ScriptEngine.Grammar.Program
import ScriptEngine.Proofs.Word

/-!
# Reading words

What a step of reading does to the words in front of it.  `Reads` says that a
step passes the words up to some rest, whatever the places of the tokens are,
and ends with a result of a certain kind.  The features are the standard ones;
the loops that are open and the directives so far stay as they are.

* `Reads` — a step passes some words;
* `reads_bind` — one step after another;
* `reads_expect`, `reads_eat`, … — the primitive steps.
-/

namespace ScriptEngine

/-- What stays the same while words are read. -/
structure Frame where
  dialect : Dialect
  loops : Nat
  pragmas : List Pragma
  features_eq : dialect.features = .standard

/-- A state of reading in a frame with certain words ahead. -/
structure Progress.At (p : Progress) (σ : Frame) (ws : List Word) : Prop where
  words : p.cursor.after.map Token.word = ws
  loops : p.loopDepth = σ.loops
  pragmas : p.pragmas = σ.pragmas

/-- **A step passes words.**  From any state with the words `ws` ahead it ends
with a result that satisfies `holds`, and with the words `rest` ahead. -/
def Reads {α : Type} (σ : Frame) (step : Parse α) (ws rest : List Word) (holds : α → Prop) :
    Prop :=
  ∀ p : Progress, p.At σ ws →
    ∃ a p', step σ.dialect p = .ok (a, p') ∧ p'.At σ rest ∧ holds a

section Steps

variable {α β : Type} {σ : Frame} {ws us rest : List Word} {w : Word}
variable {holds : α → Prop} {holds' : β → Prop}

theorem reads_pure {a : α} (h : holds a) : Reads σ (pure a) ws ws holds :=
  fun p hp => ⟨a, p, rfl, hp, h⟩

/-- One step after another passes the words of both. -/
theorem reads_bind {step : Parse α} {next : α → Parse β} (h : Reads σ step ws us holds)
    (hnext : ∀ a, holds a → Reads σ (next a) us rest holds') :
    Reads σ (step >>= next) ws rest holds' := by
  intro p hp
  obtain ⟨a, p', hstep, hp', ha⟩ := h p hp
  obtain ⟨b, p'', hstep', hp'', hb⟩ := hnext a ha p' hp'
  refine ⟨b, p'', ?_, hp'', hb⟩
  show (step σ.dialect p >>= fun (a, p) => next a σ.dialect p) = _
  rw [hstep]
  exact hstep'

/-- What is known of a result may be forgotten. -/
theorem Reads.imp {weaker : α → Prop} {step : Parse α} (h : Reads σ step ws rest holds)
    (himp : ∀ a, holds a → weaker a) : Reads σ step ws rest weaker := by
  intro p hp
  obtain ⟨a, p', hstep, hp', ha⟩ := h p hp
  exact ⟨a, p', hstep, hp', himp a ha⟩

/-- Looking at the cursor. -/
theorem reads_cursor :
    Reads σ Parse.cursor ws ws (fun c => c.after.map Token.word = ws) :=
  fun p hp => ⟨p.cursor, p, rfl, hp, hp.words⟩

/-- The word at the cursor. -/
theorem current_word {c : Cursor} (h : c.after.map Token.word = ws) :
    c.current.word = ws.headD Word.final := by
  subst h
  unfold Cursor.current
  cases c.after <;> rfl

/-- The kind of the word at the cursor. -/
theorem current_kind {c : Cursor} (h : c.after.map Token.word = ws) :
    c.currentKind = Word.headKind ws := by
  have hword := current_word h
  show c.current.word.kind = _
  rw [hword]
  cases ws <;> rfl

theorem reads_currentKind :
    Reads σ Parse.currentKind ws ws (fun kind => kind = Word.headKind ws) :=
  reads_bind reads_cursor fun _ hc => reads_pure (current_kind hc)

theorem reads_currentSpan : Reads σ Parse.currentSpan ws ws (fun _ => True) :=
  reads_bind reads_cursor fun _ _ => reads_pure trivial

theorem reads_spanFrom (start : Span) : Reads σ (Parse.spanFrom start) ws ws (fun _ => True) :=
  reads_bind reads_cursor fun _ _ => reads_pure trivial

/-- The kind of a word ahead. -/
theorem peek_kind {c : Cursor} (h : c.after.map Token.word = ws) (n : Nat) :
    c.peek n = Word.headKind (ws.drop n) := by
  subst h
  unfold Cursor.peek
  rw [← List.map_drop]
  cases hget : c.after[n]? with
  | none => simp [List.drop_eq_nil_of_le (List.getElem?_eq_none_iff.mp hget), Word.headKind]
  | some t =>
      obtain ⟨hn, rfl⟩ := List.getElem?_eq_some_iff.mp hget
      rw [List.drop_eq_getElem_cons hn]
      rfl

theorem reads_peek (n : Nat) :
    Reads σ (Parse.peek n) ws ws (fun kind => kind = Word.headKind (ws.drop n)) :=
  reads_bind reads_cursor fun _ hc => reads_pure (peek_kind hc n)

theorem reads_check (kind : TokenKind) :
    Reads σ (Parse.check kind) ws ws (fun yes => yes = decide (Word.headKind ws = kind)) :=
  reads_bind reads_cursor fun c hc => reads_pure (by rw [Cursor.check, current_kind hc])

/-- Passing a word gives back its token. -/
theorem reads_advance : Reads σ Parse.advance (w :: ws) ws (fun t => t.word = w) := by
  intro p hp
  obtain ⟨⟨before, after⟩, loopDepth, scopes, pragmas⟩ := p
  have hwords : after.map Token.word = w :: ws := hp.words
  cases after with
  | nil => cases hwords
  | cons t rest =>
      obtain ⟨ht, hrest⟩ := List.cons_eq_cons.mp hwords
      exact ⟨t, ⟨⟨t :: before, rest⟩, loopDepth, scopes, pragmas⟩, rfl,
        ⟨hrest, hp.loops, hp.pragmas⟩, ht⟩

/-- A word of the kind asked for is passed. -/
theorem reads_eat {kind : TokenKind} (h : w.kind = kind) :
    Reads σ (Parse.eat kind) (w :: ws) ws (fun yes => yes = true) := by
  refine reads_bind (reads_check kind) fun yes hyes => ?_
  have htrue : yes = true := by simp [hyes, Word.headKind, h]
  rw [if_pos htrue]
  exact reads_bind reads_advance fun _ _ => reads_pure rfl

/-- A word of another kind is left alone. -/
theorem reads_eat_not {kind : TokenKind} (h : Word.headKind ws ≠ kind) :
    Reads σ (Parse.eat kind) ws ws (fun yes => yes = false) := by
  refine reads_bind (reads_check kind) fun yes hyes => ?_
  have hfalse : ¬yes = true := by simp [hyes, h]
  rw [if_neg hfalse]
  exact reads_pure rfl

/-- A word of the kind needed is passed. -/
theorem reads_expect {kind : TokenKind} (h : w.kind = kind) :
    Reads σ (Parse.expect kind) (w :: ws) ws (fun _ => True) := by
  refine reads_bind (reads_check kind) fun yes hyes => ?_
  have htrue : yes = true := by simp [hyes, Word.headKind, h]
  rw [if_pos htrue]
  exact reads_advance.imp fun _ _ => trivial

/-- The standard features allow every construct. -/
theorem reads_require {feature : Feature} (h : Features.standard.has feature = true)
    (span : Span) : Reads σ (Parse.require feature span) ws ws (fun _ => True) := by
  have hread : Reads σ (read : Parse Dialect) ws ws (fun d => d.features = .standard) :=
    fun p hp => ⟨σ.dialect, p, rfl, hp, σ.features_eq⟩
  refine reads_bind hread fun d hd => ?_
  rw [hd, if_pos h]
  exact reads_pure trivial

theorem reads_afterOperand :
    Reads σ Grammar.afterOperand ws ws (fun row => row = (ws.headD Word.final).after?) := by
  refine reads_bind reads_cursor fun c hc => reads_pure ?_
  rw [← current_word hc]
  rfl

theorem reads_beforeOperand :
    Reads σ Grammar.beforeOperand ws ws (fun row => row = (ws.headD Word.final).before?) := by
  refine reads_bind reads_cursor fun c hc => reads_pure ?_
  rw [← current_word hc]
  rfl

/-- A word that stands for a member is passed after a point. -/
theorem reads_memberName {name : String} (h : w.member? = some name) :
    Reads σ Grammar.memberName (w :: ws) ws (fun found => found.1 = name) := by
  refine reads_bind reads_cursor fun c hc => ?_
  have hname : Grammar.memberName? c.current = some name := by
    have hword : c.current.word = w := current_word hc
    rw [← h, ← hword]
    rfl
  dsimp only
  rw [hname]
  exact reads_bind reads_advance fun _ _ => reads_pure rfl

end Steps

end ScriptEngine

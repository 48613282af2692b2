import ScriptEngine.Proofs.PairedReading

/-!
# The pace of reading

Productions ask other ones for parts of what they read.  Whether that comes to an end cannot be
seen from one of them alone: a production could ask for another one, and that for the first one
again, at the same token.  So it is followed how far the cursor has come since a production
began, and each request is looked at for whether a token has been passed before it.

What is asked for further on is all that the outcome may hang on.  Hence two grammars are put
beside each other that give the same answers there, and each production of one has to end as
that of the other does.

* `Production`, `Grammar.parse` — what a production may ask for;
* `Cursor.Onward`, `Cursor.Beyond`, `Stage.Reached` — how far a cursor has come;
* `Pace.Keeps` — two steps that end alike, from one stage on and up to another one;
* `Pace.Serves` — grammars that give the same answers further on;
* `Pace.keeps_bind`, `Pace.keeps_eat`, … — how steps are put together.
-/

namespace ScriptEngine

/-! ## What may be asked for -/

/-- **The productions that another one may ask for**, by the type of what they read. -/
inductive Production : Type → Type
  | expr : Production Node
  | assignment : Production Node
  | conditional : Production Node
  | binary (least : Nat) : Production Node
  | binaryTail (least : Nat) (start : Span) (left : Node) : Production Node
  | unary : Production Node
  | accesses (start : Span) (object : Node) : Production Node
  | arguments : Production (List Node)
  | items : Production (List Node)
  | moreItems : Production (List Node)
  | moreEntries : Production (List (Node × Node))
  | parameters (params : List String) : Production (List String)
  | dotted (name : String) : Production String
  | block : Production Node
  | body : Production Node
  | blockStatements : Production (List Node)
  | statements : Production (List Node)

/-- The parser that a grammar has for a production. -/
def Grammar.parse (g : Grammar) {α : Type} : Production α → Parse α
  | .expr => g.expr
  | .assignment => g.assignment
  | .conditional => g.conditional
  | .binary least => g.binary least
  | .binaryTail least start left => g.binaryTail least start left
  | .unary => g.unary
  | .accesses start object => g.accesses start object
  | .arguments => g.arguments
  | .items => g.items
  | .moreItems => g.moreItems
  | .moreEntries => g.moreEntries
  | .parameters params => g.parameters params
  | .dotted name => g.dotted name
  | .block => g.block
  | .body => g.body
  | .blockStatements => g.blockStatements
  | .statements => g.statements

/-- Whether a production takes a token at least.  Items, operators and accesses that may be
missing, and the statements of an empty source, take none. -/
def Production.takes {α : Type} : Production α → Bool
  | .binaryTail .. | .accesses .. | .items | .moreItems | .moreEntries | .dotted _
  | .statements => false
  | _ => true

/-! ## How far a cursor has come -/

namespace Cursor

/-- **A cursor further on** in the same tokens, or at the same place. -/
structure Onward (c c' : Cursor) : Prop where
  tokens : c'.tokens = c.tokens
  le : c.position ≤ c'.position

/-- A cursor further on, with a token passed. -/
def Beyond (c c' : Cursor) : Prop := c.Onward c' ∧ c.position < c'.position

variable {c c' c'' : Cursor}

theorem Onward.refl (c : Cursor) : c.Onward c := ⟨rfl, Nat.le_refl _⟩

theorem Onward.trans (h : c.Onward c') (h' : c'.Onward c'') : c.Onward c'' :=
  ⟨h'.tokens.trans h.tokens, Nat.le_trans h.le h'.le⟩

/-- The tokens before a cursor and those after it are all. -/
theorem position_add_length (c : Cursor) :
    c.position + c.after.length = c.tokens.length := by
  simp [position, tokens]

/-- As many tokens as have been passed are no longer ahead. -/
theorem Onward.length_add (h : c.Onward c') :
    c'.after.length + (c'.position - c.position) = c.after.length := by
  have hle := h.le
  have hbefore := c.position_add_length
  have hafter := c'.position_add_length
  rw [h.tokens] at hafter
  omega

/-- A token that has been passed is no longer ahead. -/
theorem Beyond.length_lt (h : c.Beyond c') : c'.after.length < c.after.length := by
  have hadd := h.1.length_add
  have hlt := h.2
  omega

theorem tokens_advance (c : Cursor) : c.advance.tokens = c.tokens := by
  unfold advance tokens
  split
  · rename_i hafter
    simp [hafter]
  · rfl

theorem onward_advance (c : Cursor) : c.Onward c.advance where
  tokens := c.tokens_advance
  le := by
    unfold advance position
    split
    · exact Nat.le_succ _
    · exact Nat.le_refl _

/-- A token that is there is passed. -/
theorem position_advance (h : c.after ≠ []) : c.advance.position = c.position + 1 := by
  rw [position, before_advance h]
  rfl

end Cursor

/-- How far reading has come since a production began. -/
inductive Stage where
  /-- Nothing is known. -/
  | begun
  /-- A token is ahead, or has been passed. -/
  | near
  /-- A token has been passed. -/
  | passed

/-- A cursor has come as far as a stage says, since `origin`. -/
def Stage.Reached (origin : Cursor) : Stage → Cursor → Prop
  | begun, c => origin.Onward c
  | near, c => origin.Onward c ∧ (c.after ≠ [] ∨ origin.position < c.position)
  | passed, c => origin.Beyond c

/-- The stage that has been reached when a production has been read. -/
def Production.stage {α : Type} (r : Production α) : Stage := if r.takes then .passed else .begun

namespace Stage

variable {origin c c' : Cursor} {st : Stage}

theorem Reached.onward (h : st.Reached origin c) : origin.Onward c := by
  cases st with
  | begun => exact h
  | near => exact h.1
  | passed => exact h.1

/-- A token that has been passed is as much as any stage asks for. -/
theorem Reached.of_passed (h : passed.Reached origin c) (st : Stage) : st.Reached origin c := by
  cases st with
  | begun => exact h.1
  | near => exact ⟨h.1, .inr h.2⟩
  | passed => exact h

theorem Reached.of_ahead (h : st.Reached origin c) (hhere : c.after ≠ []) : near.Reached origin c :=
  ⟨h.onward, .inl hhere⟩

/-- A stage is still reached further on, unless it is about the token ahead. -/
theorem Reached.later (h : st.Reached origin c) (h' : c.Onward c') (hst : st ≠ .near) :
    st.Reached origin c' := by
  cases st with
  | begun => exact Cursor.Onward.trans h h'
  | near => exact absurd rfl hst
  | passed => exact ⟨h.1.trans h', Nat.lt_of_lt_of_le h.2 h'.le⟩

/-- After a token has been passed. -/
theorem Reached.advance (h : Stage.near.Reached origin c) :
    passed.Reached origin c.advance := by
  refine ⟨h.1.trans c.onward_advance, ?_⟩
  have hle := h.1.le
  rcases h.2 with hhere | hpassed
  · rw [Cursor.position_advance hhere]
    omega
  · exact Nat.lt_of_lt_of_le hpassed c.onward_advance.le

end Stage

/-! ## Steps -/

/-- A production that is followed: where it begins, and whether requests may be used up. -/
structure Pace where
  dialect : Dialect
  origin : Cursor
  spent : Prop

namespace Pace

open Parse

variable (p : Pace)

/-- How a step ends: the cursor has come as far as a stage says, or there is a violation, which
is that requests are used up only if they may be. -/
def Ends {α : Type} (st : Stage) : Except ParseError (α × Progress) → Prop
  | .ok r => st.Reached p.origin r.2.cursor
  | .error e => e.cause = .exhausted → p.spent

/-- Two steps that end alike from a state. -/
def KeepsAt {α : Type} (s : Progress) (st : Stage) (step step' : Parse α) : Prop :=
  step' p.dialect s = step p.dialect s ∧ p.Ends st (step p.dialect s)

/-- **Two steps that end alike**, from any state that has come as far as the first stage says,
and then as far as the second one. -/
def Keeps {α : Type} (st st' : Stage) (step step' : Parse α) : Prop :=
  ∀ s, st.Reached p.origin s.cursor → p.KeepsAt s st' step step'

/-- **Grammars that give the same answers further on**, once a token has been passed. -/
def Serves (g g' : Grammar) : Prop :=
  ∀ {α : Type} (r : Production α), p.Keeps .passed .passed (g.parse r) (g'.parse r)

variable {p} {α β : Type} {st st' mid : Stage} {step step' : Parse α} {s : Progress}

/-- Once a token has been passed, any stage has been reached. -/
theorem Keeps.further (h : p.Keeps st st' step step') : p.Keeps .passed st' step step' :=
  fun s hs => h s (Stage.Reached.of_passed hs st)

/-- A token that has been passed is as much as any stage asks for. -/
theorem Keeps.anyEnd (h : p.Keeps st .passed step step') : p.Keeps st st' step step' := by
  intro s hs
  obtain ⟨hsame, hends⟩ := h s hs
  refine ⟨hsame, ?_⟩
  cases hrun : step p.dialect s with
  | ok r =>
      rw [hrun] at hends
      exact Stage.Reached.of_passed hends st'
  | error e =>
      rw [hrun] at hends
      exact hends

theorem keeps_pure (a : α) : p.Keeps st st (pure a) (pure a) := fun _ hs => ⟨rfl, hs⟩

/-- A violation that does not come from requests being used up. -/
theorem keeps_fail {cause : ParseError.Cause} {span : Span} (h : cause ≠ .exhausted) :
    p.Keeps st st' (fail cause span : Parse α) (fail cause span) :=
  fun _ _ => ⟨rfl, fun heq => absurd heq h⟩

/-- Nothing comes after a violation. -/
theorem keeps_stop {γ : Type} {cause : ParseError.Cause} {span : Span} {more more' : γ → Parse α}
    (h : cause ≠ .exhausted) :
    p.Keeps st st' (fail cause span >>= more) (fail cause span >>= more') :=
  fun _ _ => ⟨rfl, fun heq => absurd heq h⟩

/-- One step after another, from a state. -/
theorem keepsAt_bind {next next' : α → Parse β} (h : p.KeepsAt s mid step step')
    (hnext : ∀ a, p.Keeps mid st' (next a) (next' a)) :
    p.KeepsAt s st' (step >>= next) (step' >>= next') := by
  obtain ⟨hsame, hends⟩ := h
  cases hrun : step p.dialect s with
  | ok r =>
      rw [hrun] at hsame hends
      unfold KeepsAt
      rw [bind_of_ok hrun, bind_of_ok hsame]
      exact hnext r.1 r.2 hends
  | error e =>
      rw [hrun] at hsame hends
      unfold KeepsAt
      rw [bind_of_error hrun, bind_of_error hsame]
      exact ⟨rfl, hends⟩

/-- **One step after another.** -/
theorem keeps_bind {next next' : α → Parse β} (h : p.Keeps st mid step step')
    (hnext : ∀ a, p.Keeps mid st' (next a) (next' a)) :
    p.Keeps st st' (step >>= next) (step' >>= next') :=
  fun s hs => keepsAt_bind (h s hs) hnext

/-- The result of a step, changed by a function. -/
theorem keeps_map (f : α → β) (h : p.Keeps st st' step step') :
    p.Keeps st st' (f <$> step) (f <$> step') := by
  rw [map_eq_pure_bind, map_eq_pure_bind]
  exact keeps_bind h fun a => keeps_pure (f a)

/-! ## Looking at the state -/

theorem keeps_get {next next' : Progress → Parse β} (h : ∀ s, p.Keeps st st' (next s) (next' s)) :
    p.Keeps st st' (get >>= next) (get >>= next') :=
  fun s hs => h s s hs

theorem keeps_read {next next' : Dialect → Parse β} (h : ∀ d, p.Keeps st st' (next d) (next' d)) :
    p.Keeps st st' (read >>= next) (read >>= next') :=
  fun s hs => h p.dialect s hs

/-- What is made of the cursor may show that a token is ahead. -/
theorem keeps_cursor {next next' : Cursor → Parse β}
    (h : ∀ c, p.Keeps st st' (next c) (next' c) ∨
      c.after ≠ [] ∧ p.Keeps .near st' (next c) (next' c)) :
    p.Keeps st st' (cursor >>= next) (cursor >>= next') := by
  intro s hs
  rcases h s.cursor with hnext | ⟨hhere, hnext⟩
  · exact hnext s hs
  · exact hnext s (hs.of_ahead hhere)

theorem keeps_currentSpan {next next' : Span → Parse β}
    (h : ∀ span, p.Keeps st st' (next span) (next' span)) :
    p.Keeps st st' (currentSpan >>= next) (currentSpan >>= next') :=
  fun s hs => h s.cursor.currentSpan s hs

theorem keeps_spanFrom {start : Span} {next next' : Span → Parse β}
    (h : ∀ span, p.Keeps st st' (next span) (next' span)) :
    p.Keeps st st' (spanFrom start >>= next) (spanFrom start >>= next') :=
  fun s hs => h (start.merge s.cursor.previousSpan) s hs

/-- A node is made of what has been read. -/
theorem keeps_make (start : Span) (make : Span → Node) :
    p.Keeps st st (do return make (← spanFrom start)) (do return make (← spanFrom start)) :=
  keeps_spanFrom fun span => keeps_pure (make span)

theorem keeps_peek {n : Nat} {next next' : TokenKind → Parse β}
    (h : ∀ kind, p.Keeps st st' (next kind) (next' kind)) :
    p.Keeps st st' (peek n >>= next) (peek n >>= next') :=
  fun s hs => h (s.cursor.peek n) s hs

/-- A token whose kind is looked at is ahead, unless that is the end. -/
theorem keeps_currentKind {next next' : TokenKind → Parse β}
    (h : ∀ kind, p.Keeps st st' (next kind) (next' kind) ∨
      kind ≠ .eof ∧ p.Keeps .near st' (next kind) (next' kind)) :
    p.Keeps st st' (currentKind >>= next) (currentKind >>= next') :=
  keeps_cursor fun c => (h c.currentKind).imp_right fun ⟨hend, hkind⟩ =>
    ⟨Cursor.after_ne_nil hend, hkind⟩

/-- A token of the kind that is looked for is ahead. -/
theorem keeps_check {kind : TokenKind} {next next' : Bool → Parse β}
    (hyes : p.Keeps st st' (next true) (next' true) ∨
      kind ≠ .eof ∧ p.Keeps .near st' (next true) (next' true))
    (hno : p.Keeps st st' (next false) (next' false)) :
    p.Keeps st st' (check kind >>= next) (check kind >>= next') := by
  intro s hs
  show p.KeepsAt s st' (next (s.cursor.check kind)) (next' (s.cursor.check kind))
  cases hcheck : s.cursor.check kind with
  | false => exact hno s hs
  | true =>
      have hkind : s.cursor.currentKind = kind := of_decide_eq_true hcheck
      rcases hyes with hyes | ⟨hend, hyes⟩
      · exact hyes s hs
      · exact hyes s (hs.of_ahead (Cursor.after_ne_nil (hkind ▸ hend)))

theorem keeps_require {f : Feature} {span : Span} {next next' : Unit → Parse β}
    (h : p.Keeps st st' (next ()) (next' ())) :
    p.Keeps st st' (require f span >>= next) (require f span >>= next') := by
  intro s hs
  unfold KeepsAt
  rw [require_bind, require_bind]
  split
  · exact h s hs
  · exact ⟨rfl, nofun⟩

/-! ## Passing tokens -/

/-- A token that is ahead is passed. -/
theorem keeps_advance {next next' : Token → Parse β}
    (h : ∀ token, p.Keeps .passed st' (next token) (next' token)) :
    p.Keeps .near st' (advance >>= next) (advance >>= next') :=
  fun s hs => h s.cursor.current s.advance (Stage.Reached.advance hs)

theorem keeps_eat {kind : TokenKind} {next next' : Bool → Parse β} (hkind : kind ≠ .eof)
    (hyes : p.Keeps .passed st' (next true) (next' true))
    (hno : p.Keeps st st' (next false) (next' false)) :
    p.Keeps st st' (eat kind >>= next) (eat kind >>= next') := by
  unfold eat
  rw [bind_assoc, bind_assoc]
  refine keeps_check (.inr ⟨hkind, ?_⟩) hno
  exact keeps_advance fun _ => hyes

theorem keeps_expect {kind : TokenKind} {next next' : Token → Parse β} (hkind : kind ≠ .eof)
    (h : ∀ token, p.Keeps .passed st' (next token) (next' token)) :
    p.Keeps st st' (expect kind >>= next) (expect kind >>= next') := by
  unfold expect
  rw [bind_assoc, bind_assoc]
  refine keeps_check (.inr ⟨hkind, ?_⟩) ?_
  · exact keeps_advance h
  · exact fun _ _ => ⟨rfl, nofun⟩

theorem keeps_expectIdent {next next' : String × Span → Parse β}
    (h : ∀ found, p.Keeps .passed st' (next found) (next' found)) :
    p.Keeps st st' (expectIdent >>= next) (expectIdent >>= next') := by
  unfold expectIdent
  rw [bind_assoc, bind_assoc]
  refine keeps_currentKind fun kind => ?_
  split
  · refine .inr ⟨nofun, ?_⟩
    rw [bind_assoc, bind_assoc]
    exact keeps_advance fun token => h _
  · exact .inl fun _ _ => ⟨rfl, nofun⟩

/-! ## Scopes and loops -/

/-- A change of the state that does not move the cursor. -/
theorem keeps_modify {f : Progress → Progress} (h : ∀ s, (f s).cursor = s.cursor) :
    p.Keeps st st (modify f : Parse Unit) (modify f) :=
  fun s hs => ⟨rfl, show st.Reached p.origin (f s).cursor from (h s).symm ▸ hs⟩

/-- A declaration that is refused does not use requests up. -/
theorem declarationFault_ne {features : Features} {name : String} {scopes : List Scope}
    {fault : ParseError.Cause} (h : declarationFault? features name scopes = some fault) :
    fault ≠ .exhausted := by
  rintro rfl
  cases scopes with
  | nil => cases h
  | cons scope outer =>
      rw [declarationFault?] at h
      split at h
      · cases h
      · split at h <;> cases h

theorem keeps_declare (name : String) (span : Span) :
    p.Keeps st st (declare name span) (declare name span) := by
  intro s hs
  refine ⟨rfl, ?_⟩
  rw [declare, get_bind, read_bind]
  cases hfault : declarationFault? p.dialect.features name s.scopes with
  | some fault => exact fun heq => absurd heq (declarationFault_ne hfault)
  | none => exact hs

theorem keeps_declareAll (span : Span) (names : List String) :
    p.Keeps st st (declareAll span names) (declareAll span names) := by
  induction names with
  | nil => exact keeps_pure ()
  | cons name rest ih => exact keeps_bind (keeps_declare name span) fun _ => ih

theorem keeps_inScope (isFunction : Bool) (h : p.Keeps st st' step step') :
    p.Keeps st st' (inScope isFunction step) (inScope isFunction step') := by
  refine keeps_bind (keeps_modify fun _ => rfl) fun _ => ?_
  refine keeps_bind h fun a => ?_
  exact keeps_bind (keeps_modify fun _ => rfl) fun _ => keeps_pure a

theorem keeps_inLoop (h : p.Keeps st st' step step') :
    p.Keeps st st' (inLoop step) (inLoop step') := by
  refine keeps_bind (keeps_modify fun _ => rfl) fun _ => ?_
  refine keeps_bind h fun a => ?_
  exact keeps_bind (keeps_modify fun _ => rfl) fun _ => keeps_pure a

theorem keeps_inFunction (h : p.Keeps st st' step step') :
    p.Keeps st st' (inFunction step) (inFunction step') := by
  refine keeps_get fun s => ?_
  refine keeps_bind (keeps_modify fun _ => rfl) fun _ => ?_
  refine keeps_bind (keeps_inScope true h) fun a => ?_
  exact keeps_bind (keeps_modify fun _ => rfl) fun _ => keeps_pure a

end Pace

end ScriptEngine

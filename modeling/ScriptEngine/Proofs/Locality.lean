import ScriptEngine.Proofs.SequelPrograms

/-!
# Reading is local

What a production reads does not depend on where the source starts, nor on what comes after
the tokens that it passes, except that it looks one token further.  So a source is compared
with one that goes on after it: what is read before the end of the first one, the places of
its tokens apart, is read in the second one too.  At the very end the two go different ways,
since there the second one goes on.

* `Detached` — what may follow a source so that looking ahead ends there;
* `Longer` — a state in a source and one in a longer source;
* `Parse.Local` — two steps of which the second reads in the longer source what the first one
  reads;
* `Parse.local_bind`, `Parse.local_eat`, … — how steps are put together;
* `Grammar.Local` — grammars of such steps.
-/

namespace ScriptEngine

/-! ## What follows -/

/-- Whether a source ends before a token of this kind or a target does: no head of a function
literal or of a loop goes on with it, and no branch begins with it. -/
def TokenKind.isDetached : TokenKind → Bool
  | .eof | .symbol .plusEq | .symbol .minusEq | .symbol .plusPlus | .symbol .minusMinus => true
  | _ => false

/-- What may follow a source so that looking ahead ends there. -/
def Detached (rest : List Token) : Prop := ∀ token ∈ rest.head?, token.kind.isDetached = true

theorem detached_nil : Detached [] := nofun

/-- Results that are the same up to places. -/
abbrev Seen.Like {α : Type} [Seen α] (a a' : α) : Prop := look true a = look true a'

open Seen

@[simp]
theorem Seen.look_true_span (span : Span) : look true span = .none := rfl

@[simp]
theorem Seen.look_true_lambdaId (id : LambdaId) : look true id = ⟨0, 0⟩ := rfl

/-- A state in a source, or at its end, and one in a longer source.  The same tokens are ahead,
with those of `rest` after them. -/
structure Ahead (rest : List Token) (s s' : Progress) : Prop where
  after : s'.cursor.after = s.cursor.after ++ rest
  loops : s'.loopDepth = s.loopDepth
  scopes : s'.scopes = s.scopes

/-- **A state in a source and one in a longer source**, where the first one is not at the end
unless nothing comes after it. -/
structure Longer (rest : List Token) (s s' : Progress) : Prop extends Ahead rest s s' where
  inside : s.cursor.after = [] → rest = []

variable {rest : List Token} {s s' : Progress}

theorem Ahead.longer (h : Ahead rest s s') (hhere : s.cursor.after ≠ []) : Longer rest s s' :=
  ⟨h, fun hend => absurd hend hhere⟩

namespace Longer

theorem refl (s : Progress) : Longer [] s s :=
  ⟨⟨(List.append_nil _).symm, rfl, rfl⟩, fun _ => rfl⟩

/-- Both states are at the same token. -/
theorem current_eq (h : Longer rest s s') : s'.cursor.current = s.cursor.current := by
  unfold Cursor.current
  rw [h.after]
  cases hafter : s.cursor.after with
  | nil =>
      rw [h.inside hafter]
      rfl
  | cons token tokens => rfl

theorem currentKind_eq (h : Longer rest s s') :
    s'.cursor.currentKind = s.cursor.currentKind :=
  congrArg Token.kind h.current_eq

theorem operatorAt_eq (h : Longer rest s s') (lookup : String → Option Operator.Row) :
    Grammar.operatorAt lookup s'.cursor = Grammar.operatorAt lookup s.cursor := by
  unfold Grammar.operatorAt
  rw [h.currentKind_eq, h.current_eq]

/-- A kind of token further ahead is the same in both, or the source ends before it. -/
theorem peek_cases (h : Longer rest s s') (hrest : Detached rest) {n : Nat} (hn : n ≤ s.left) :
    s'.cursor.peek n = s.cursor.peek n ∨
      s.cursor.peek n = .eof ∧ (s'.cursor.peek n).isDetached = true := by
  unfold Cursor.peek
  rw [h.after]
  by_cases hlt : n < s.cursor.after.length
  · rw [List.getElem?_append_left hlt]
    exact .inl rfl
  · obtain rfl : n = s.cursor.after.length := Nat.le_antisymm hn (Nat.not_lt.mp hlt)
    rw [List.getElem?_append_right (Nat.le_refl _), Nat.sub_self,
      List.getElem?_eq_none (Nat.le_refl _)]
    cases rest with
    | nil => exact .inl rfl
    | cons token rest => exact .inr ⟨rfl, hrest token rfl⟩

/-- Whether a token of some kind comes after the current one. -/
theorem peek_iff (h : Longer rest s s') (hrest : Detached rest) {kind : TokenKind}
    (hkind : kind.isDetached = false) :
    s'.cursor.peek 1 = kind ↔ s.cursor.peek 1 = kind := by
  by_cases hend : s.cursor.after = []
  · have hafter : s'.cursor.after = s.cursor.after := by
      rw [h.after, h.inside hend, List.append_nil]
    unfold Cursor.peek
    rw [hafter]
  · rcases h.peek_cases hrest (List.length_pos_iff.mpr hend) with hsame | ⟨hfirst, hsecond⟩
    · rw [hsame]
    · have hne : kind ≠ .eof := by
        rintro rfl
        cases hkind
      rw [hfirst]
      constructor
      · rintro rfl
        exact absurd (hsecond.symm.trans hkind) nofun
      · rintro rfl
        exact absurd rfl hne

/-- Passing a token, in both readings. -/
theorem advance (h : Longer rest s s') : Ahead rest s.advance s'.advance where
  after := by
    have hadvance (s : Progress) : s.advance.cursor.after = s.cursor.after.tail := by
      unfold Progress.advance Cursor.advance
      cases hafter : s.cursor.after <;> simp [hafter]
    rw [hadvance, hadvance, h.after]
    cases hafter : s.cursor.after with
    | nil =>
        rw [h.inside hafter]
        rfl
    | cons token tokens => rfl
  loops := h.loops
  scopes := h.scopes

end Longer

/-! ## Steps -/

namespace Parse

variable {α β : Type} [Seen α] [Seen β] {d : Dialect} {rest : List Token} {s s' : Progress}
  {step step' : Parse α}

/-- Two steps from two states: the first one passes tokens, and if it ends inside the source the
second one reads the same. -/
def LocalAt (d : Dialect) (rest : List Token) (s s' : Progress) (step step' : Parse α) : Prop :=
  ∀ a t, step d s = .ok (a, t) → t.cursor.after <:+ s.cursor.after ∧
    ((t.cursor.after = [] → rest = []) →
      ∃ a' t', step' d s' = .ok (a', t') ∧ Like a a' ∧ Longer rest t t')

/-- **Two steps of which the second reads in a longer source what the first one reads.** -/
def Local (d : Dialect) (step step' : Parse α) : Prop :=
  ∀ rest s s', Detached rest → Longer rest s s' → LocalAt d rest s s' step step'

theorem local_pure {a a' : α} (h : Like a a') : Local d (pure a) (pure a') := by
  intro rest s s' _ hs b t hrun
  cases hrun
  exact ⟨List.suffix_refl _, fun _ => ⟨a', s', rfl, h, hs⟩⟩

/-- A step that does not succeed. -/
theorem local_fail (cause : ParseError.Cause) (span : Span) :
    Local d (fail cause span : Parse α) step' :=
  fun _ _ _ _ _ _ _ hrun => nomatch hrun

/-- Nothing comes after a violation. -/
theorem local_stop {γ : Type} (cause : ParseError.Cause) (span : Span) (more : γ → Parse α) :
    Local d (fail cause span >>= more) step' :=
  fun _ _ _ _ _ _ _ hrun => nomatch hrun

/-- One step after another. -/
theorem local_bind {next next' : α → Parse β} (h : Local d step step')
    (hnext : ∀ a a', Like a a' → Local d (next a) (next' a')) :
    Local d (step >>= next) (step' >>= next') := by
  intro rest s s' hrest hs b t hrun
  obtain ⟨⟨a, u⟩, hfirst, hsecond⟩ := bind_eq_ok.mp hrun
  obtain ⟨hpassed, hgoesOn⟩ := h rest s s' hrest hs a u hfirst
  obtain ⟨hpassed', -⟩ := hnext a a rfl [] u u detached_nil (.refl u) b t hsecond
  refine ⟨hpassed'.trans hpassed, fun hinside => ?_⟩
  -- where the second step ends inside the source the first one does
  have hinside' : u.cursor.after = [] → rest = [] := fun hend =>
    hinside (List.suffix_nil.mp (hend ▸ hpassed'))
  obtain ⟨a', u', hfirst', hsame, hu⟩ := hgoesOn hinside'
  obtain ⟨b', t', hsecond', hsame', ht⟩ :=
    (hnext a a' hsame rest u u' hrest hu b t hsecond).2 hinside
  exact ⟨b', t', bind_eq_ok.mpr ⟨(a', u'), hfirst', hsecond'⟩, hsame', ht⟩

/-- The result of a step, changed by a function. -/
theorem local_map {f f' : α → β} (h : Local d step step')
    (hf : ∀ a a', Like a a' → Like (f a) (f' a')) : Local d (f <$> step) (f' <$> step') := by
  rw [map_eq_pure_bind, map_eq_pure_bind]
  exact local_bind h fun a a' hsame => local_pure (hf a a' hsame)

/-- A part that may be left out. -/
theorem local_some {first first' : Parse Node} (h : Local d first first') :
    Local d (some <$> first) (some <$> first') :=
  local_map h fun node node' hsame => by simp [Like, hsame]

/-! ## Looking at the state -/

theorem local_get {next next' : Progress → Parse β}
    (h : ∀ rest s s', Detached rest → Longer rest s s' → Local d (next s) (next' s')) :
    Local d (get >>= next) (get >>= next') :=
  fun rest s s' hrest hs => h rest s s' hrest hs rest s s' hrest hs

theorem local_read {next next' : Dialect → Parse β} (h : Local d (next d) (next' d)) :
    Local d (read >>= next) (read >>= next') := h

theorem local_cursor {next next' : Cursor → Parse β}
    (h : ∀ rest s s', Detached rest → Longer rest s s' →
      Local d (next s.cursor) (next' s'.cursor)) :
    Local d (cursor >>= next) (cursor >>= next') :=
  fun rest s s' hrest hs => h rest s s' hrest hs rest s s' hrest hs

theorem local_currentKind {next next' : TokenKind → Parse β}
    (h : ∀ kind, Local d (next kind) (next' kind)) :
    Local d (currentKind >>= next) (currentKind >>= next') := by
  intro rest s s' hrest hs
  show LocalAt d rest s s' (next s.cursor.currentKind) (next' s'.cursor.currentKind)
  rw [hs.currentKind_eq]
  exact h _ rest s s' hrest hs

theorem local_currentSpan {next next' : Span → Parse β}
    (h : ∀ span span', Local d (next span) (next' span')) :
    Local d (currentSpan >>= next) (currentSpan >>= next') :=
  fun rest s s' hrest hs => h _ _ rest s s' hrest hs

theorem local_spanFrom {start start' : Span} {next next' : Span → Parse β}
    (h : ∀ span span', Local d (next span) (next' span')) :
    Local d (spanFrom start >>= next) (spanFrom start' >>= next') :=
  fun rest s s' hrest hs => h _ _ rest s s' hrest hs

/-- A node is made of what has been read. -/
theorem local_make {start start' : Span} {make make' : Span → Node}
    (h : ∀ span span', Like (make span) (make' span')) :
    Local d (do return make (← spanFrom start)) (do return make' (← spanFrom start')) :=
  local_spanFrom fun span span' => local_pure (h span span')

theorem local_check {kind : TokenKind} {next next' : Bool → Parse β}
    (h : ∀ found, Local d (next found) (next' found)) :
    Local d (check kind >>= next) (check kind >>= next') := by
  intro rest s s' hrest hs
  show LocalAt d rest s s' (next (s.cursor.check kind)) (next' (s'.cursor.check kind))
  unfold Cursor.check
  rw [hs.currentKind_eq]
  exact h _ rest s s' hrest hs

/-- The kind of the token after the current one, which is known as far as it is no detached
one. -/
theorem local_peek {next next' : TokenKind → Parse β}
    (h : ∀ kind kind', (∀ other : TokenKind, other.isDetached = false →
      (kind' = other ↔ kind = other)) → Local d (next kind) (next' kind')) :
    Local d (peek 1 >>= next) (peek 1 >>= next') :=
  fun rest s s' hrest hs =>
    h _ _ (fun _ hother => hs.peek_iff hrest hother) rest s s' hrest hs

theorem local_require {f : Feature} {span span' : Span} {next next' : Unit → Parse β}
    (h : Local d (next ()) (next' ())) :
    Local d (require f span >>= next) (require f span' >>= next') := by
  intro rest s s' hrest hs
  unfold LocalAt
  rw [require_bind, require_bind]
  split
  · exact h rest s s' hrest hs
  · exact nofun

/-! ## Passing tokens -/

theorem local_advance {next next' : Token → Parse β}
    (h : ∀ token, Local d (next token) (next' token)) :
    Local d (advance >>= next) (advance >>= next') := by
  have hpass : Local d advance advance := by
    intro rest s s' _ hs a t hrun
    cases hrun
    refine ⟨?_, fun hinside => ⟨_, s'.advance, rfl, hs.current_eq.symm, hs.advance, hinside⟩⟩
    show s.cursor.advance.after <:+ s.cursor.after
    unfold Cursor.advance
    cases hafter : s.cursor.after with
    | nil => simp [hafter]
    | cons token tokens => exact List.suffix_cons token tokens
  refine local_bind hpass fun token token' hsame => ?_
  obtain rfl : token = token' := hsame
  exact h token

theorem local_eat {kind : TokenKind} {next next' : Bool → Parse β}
    (hyes : Local d (next true) (next' true)) (hno : Local d (next false) (next' false)) :
    Local d (eat kind >>= next) (eat kind >>= next') := by
  have heat : Local d (eat kind) (eat kind) := by
    refine local_check fun found => ?_
    split
    · exact local_advance fun _ => local_pure rfl
    · exact local_pure rfl
  refine local_bind heat fun found found' hsame => ?_
  obtain rfl : found = found' := hsame
  cases found with
  | true => exact hyes
  | false => exact hno

theorem local_expect {kind : TokenKind} {next next' : Token → Parse β}
    (h : ∀ token, Local d (next token) (next' token)) :
    Local d (expect kind >>= next) (expect kind >>= next') := by
  intro rest s s' hrest hs
  unfold LocalAt
  rw [expect_bind, expect_bind]
  unfold Cursor.check
  rw [hs.currentKind_eq]
  split
  · rw [hs.current_eq]
    intro a t hrun
    exact local_advance (fun _ => h s.cursor.current) rest s s' hrest hs a t hrun
  · exact nofun

theorem local_expectIdent {next next' : String × Span → Parse β}
    (h : ∀ name span, Local d (next (name, span)) (next' (name, span))) :
    Local d (expectIdent >>= next) (expectIdent >>= next') := by
  unfold expectIdent
  rw [bind_assoc, bind_assoc]
  refine local_currentKind fun kind => ?_
  split
  · rw [bind_assoc, bind_assoc]
    exact local_advance fun token => h _ _
  · rw [bind_assoc]
    exact fun _ _ _ _ _ _ _ hrun => nomatch hrun

/-! ## Scopes and loops -/

/-- A change of the state that is made in both readings, and moves none. -/
theorem local_modify {f f' : Progress → Progress} (hcursor : ∀ s, (f s).cursor = s.cursor)
    (hlonger : ∀ rest s s', Longer rest s s' → Longer rest (f s) (f' s')) :
    Local d (modify f : Parse Unit) (modify f') := by
  intro rest s s' _ hs a t hrun
  cases hrun
  exact ⟨hcursor s ▸ List.suffix_refl _, fun _ => ⟨(), f' s', rfl, rfl, hlonger rest s s' hs⟩⟩

theorem local_declare (name : String) (span span' : Span) :
    Local d (declare name span) (declare name span') := by
  intro rest s s' _ hs a t hdeclared
  rw [declare, get_bind, read_bind] at hdeclared
  cases hfault : declarationFault? d.features name s.scopes with
  | some fault =>
    rw [hfault] at hdeclared
    cases hdeclared
  | none =>
    rw [hfault] at hdeclared
    cases hdeclared
    refine ⟨List.suffix_refl _, fun _ => ⟨(), { s' with scopes := declared name s'.scopes },
      ?_, rfl, ⟨hs.after, hs.loops, ?_⟩, hs.inside⟩⟩
    · rw [declare, get_bind, read_bind, hs.scopes, hfault]
      rfl
    · exact congrArg (declared name) hs.scopes

theorem local_declareAll (names : List String) (span span' : Span) :
    Local d (declareAll span names) (declareAll span' names) := by
  induction names with
  | nil => exact local_pure rfl
  | cons name rest ih => exact local_bind (local_declare name span span') fun _ _ _ => ih

theorem local_inScope (isFunction : Bool) (h : Local d step step') :
    Local d (inScope isFunction step) (inScope isFunction step') := by
  refine local_bind (local_modify (fun _ => rfl) fun rest s s' hs => ?_) fun _ _ _ => ?_
  · exact ⟨⟨hs.after, hs.loops, congrArg (⟨[], isFunction⟩ :: ·) hs.scopes⟩, hs.inside⟩
  refine local_bind h fun a a' hsame => ?_
  refine local_bind (local_modify (fun _ => rfl) fun rest s s' hs => ?_) fun _ _ _ => ?_
  · exact ⟨⟨hs.after, hs.loops, congrArg List.tail hs.scopes⟩, hs.inside⟩
  · exact local_pure hsame

theorem local_inLoop (h : Local d step step') : Local d (inLoop step) (inLoop step') := by
  refine local_bind (local_modify (fun _ => rfl) fun rest s s' hs => ?_) fun _ _ _ => ?_
  · exact ⟨⟨hs.after, congrArg (· + 1) hs.loops, hs.scopes⟩, hs.inside⟩
  refine local_bind h fun a a' hsame => ?_
  refine local_bind (local_modify (fun _ => rfl) fun rest s s' hs => ?_) fun _ _ _ => ?_
  · exact ⟨⟨hs.after, congrArg (· - 1) hs.loops, hs.scopes⟩, hs.inside⟩
  · exact local_pure hsame

theorem local_inFunction (h : Local d step step') :
    Local d (inFunction step) (inFunction step') := by
  refine local_get fun rest s s' _ hs => ?_
  rw [hs.loops]
  refine local_bind (local_modify (fun _ => rfl) fun rest s s' hs => ?_) fun _ _ _ => ?_
  · exact ⟨⟨hs.after, rfl, hs.scopes⟩, hs.inside⟩
  refine local_bind (local_inScope true h) fun a a' hsame => ?_
  refine local_bind (local_modify (fun _ => rfl) fun rest s s' hs => ?_) fun _ _ _ => ?_
  · exact ⟨⟨hs.after, rfl, hs.scopes⟩, hs.inside⟩
  · exact local_pure hsame

end Parse

/-! ## Productions -/

open Parse in
/-- **Grammars of which one reads in a longer source what the other one reads.** -/
structure Grammar.Local (d : Dialect) (g g' : Grammar) : Prop where
  expr : Parse.Local d g.expr g'.expr
  assignment : Parse.Local d g.assignment g'.assignment
  conditional : Parse.Local d g.conditional g'.conditional
  binary : ∀ least, Parse.Local d (g.binary least) (g'.binary least)
  binaryTail : ∀ least start start' {left left'}, Like left left' →
    Parse.Local d (g.binaryTail least start left) (g'.binaryTail least start' left')
  unary : Parse.Local d g.unary g'.unary
  accesses : ∀ start start' {object object'}, Like object object' →
    Parse.Local d (g.accesses start object) (g'.accesses start' object')
  arguments : Parse.Local d g.arguments g'.arguments
  items : Parse.Local d g.items g'.items
  moreItems : Parse.Local d g.moreItems g'.moreItems
  moreEntries : Parse.Local d g.moreEntries g'.moreEntries
  parameters : ∀ params, Parse.Local d (g.parameters params) (g'.parameters params)
  dotted : ∀ name, Parse.Local d (g.dotted name) (g'.dotted name)
  block : Parse.Local d g.block g'.block
  body : Parse.Local d g.body g'.body
  blockStatements : Parse.Local d g.blockStatements g'.blockStatements

end ScriptEngine

import ScriptEngine.Proofs.PairedReading
import ScriptEngine.Proofs.Sightings

/-!
# A source and a longer one

A source is read twice: on its own, and at the head of a longer one.  Every production
decides by what comes next, so the second reading has to be led along the first one, up
to the place where the first source ends and the second one goes on.  A `Sequel` says what
stands there: nothing, an end token, or a semicolon and whatever follows it.

The end token is nothing that a production could miss, and both readings are the same,
errors included; only the place of the end may be another one.  With a semicolon, or when
the longer source starts elsewhere, results are the same up to places, and only for a
source that is read without an error.

* `Sequel` — what follows a source in a longer one, and how closely results are compared;
* `Sequel.Beside` — the states that the two readings are in;
* `Sequel.Tracks` — two steps, the second of which is led along the first;
* `Sequel.tracks_bind`, `Sequel.tracks_eat`, … — how steps are put together;
* `Grammar.Leads` — grammars of which one is led along the other.
-/

namespace ScriptEngine

/-- Whether an `else` stands first, or after one semicolon. -/
def opensElse : List Token → Bool
  | ⟨.keyword .kwElse, _, _⟩ :: _ => true
  | ⟨.symbol .semicolon, _, _⟩ :: ⟨.keyword .kwElse, _, _⟩ :: _ => true
  | _ => false

/-- What may follow a source in a longer one: an end token, or else, as long as places do
not count, nothing or a semicolon.  An open `if` takes the semicolon for its own when an
`else` follows. -/
inductive Follows (loose : Bool) (closing : Span) : List Token → Prop
  | nothing : loose = true → Follows loose closing []
  | ending : Follows loose closing [⟨.eof, closing, ""⟩]
  | separator (span : Span) (following : List Token) : loose = true →
      opensElse following = false →
      Follows loose closing (⟨.symbol .semicolon, span, ";"⟩ :: following)

/-- **What follows a source in a longer one**, and what is compared of the readings. -/
structure Sequel where
  dialect : Dialect
  /-- Whether results are compared up to places, and errors not at all. -/
  loose : Bool
  /-- What follows. -/
  rest : List Token
  /-- The directives before the source in the longer one. -/
  pragmas : List Pragma
  /-- The place of the end, in the source alone. -/
  close : Span
  /-- The place of the end in the longer source. -/
  closing : Span
  follows : Follows loose closing rest
  /-- Scopes are not compared up to places, so nothing may depend on them. -/
  lax : loose = true → dialect.features.has .lexical = false ∧
    dialect.features.has .lexicalShade = false

/-- The tokens that have not been passed. -/
def Progress.left (s : Progress) : Nat := s.cursor.after.length

namespace Sequel

open Seen

variable (q : Sequel)

/-- Results that are the same as far as they are compared. -/
abbrev Same {α : Type} [Seen α] (a a' : α) : Prop := look q.loose a = look q.loose a'

/-- Places that are the same as far as they are compared: that of the end may differ. -/
def Placed (span span' : Span) : Prop :=
  q.loose = true ∨ span' = span ∨ span = q.close ∧ span' = q.closing

/-- **The states of the two readings.**  The longer source goes on where the other one
ends; there the reading may already be beyond the semicolon. -/
structure Beside (beyond : Bool) (s s' : Progress) : Prop where
  after : s'.cursor.after = s.cursor.after ++ q.rest ∨
    beyond = true ∧ q.loose = true ∧ s.cursor.after = [] ∧ s'.cursor.after = q.rest.tail
  goesOn : ∀ token ∈ s.cursor.after, token.kind ≠ .eof
  loops : s'.loopDepth = s.loopDepth
  pragmas : s'.pragmas = q.pragmas ++ s.pragmas
  exact : q.loose = false → s'.cursor.before = s.cursor.before ∧ s'.scopes = s.scopes ∧
    s.cursor.endSpan = q.close

/-- The ends of two steps.  If the first one succeeds so does the second, with the same
result, and fewer tokens than a limit are left. -/
def Ends {α : Type} [Seen α] (beyond : Bool) (limit : Nat) :
    (ending ending' : Except ParseError (α × Progress)) → Prop
  | .ok r, ending' => ∃ r', ending' = .ok r' ∧ q.Same r.1 r'.1 ∧ q.Beside beyond r.2 r'.2 ∧
      r.2.left < limit
  | .error e, ending' => q.loose = true ∨
      e.cause ≠ .exhausted ∧ ∃ e', ending' = .error e' ∧ e'.cause = e.cause ∧
        q.Placed e.span e'.span

/-- **Two steps of which the second is led along the first.** -/
def Tracks {α : Type} [Seen α] (beyond : Bool) (limit : Nat) (s s' : Progress)
    (step step' : Parse α) : Prop :=
  q.Ends beyond limit (step q.dialect s) (step' q.dialect s')

variable {q} {beyond past : Bool} {limit most : Nat} {s s' t t' : Progress}

/-! ## Comparison -/

theorem Same.refl {α : Type} [Seen α] (a : α) : q.Same a a := Eq.refl _

theorem Placed.refl (span : Span) : q.Placed span span := .inr (.inl (Eq.refl _))

/-- Places count unless nothing of them does. -/
theorem same_span_iff {span span' : Span} :
    q.Same span span' ↔ q.loose = true ∨ span' = span := by
  unfold Same
  cases q.loose with
  | true => exact ⟨fun _ => .inl (Eq.refl _), fun _ => Eq.refl _⟩
  | false => exact ⟨fun h => .inr h.symm, fun h => (h.resolve_left nofun).symm⟩

theorem Same.placed {span span' : Span} (h : q.Same span span') : q.Placed span span' :=
  (same_span_iff.mp h).imp id .inl

/-- Whether a tree can be assigned to shows without its places. -/
theorem Same.isAssignable_eq {node node' : Node} (h : q.Same node node') :
    node'.isAssignable = node.isAssignable := by
  unfold Same at h
  cases hloose : q.loose with
  | true =>
      rw [hloose] at h
      exact (Node.Alike.isAssignable_eq h).symm
  | false =>
      rw [hloose] at h
      exact congrArg Node.isAssignable h.symm

/-- The same trees are at the same place. -/
theorem Same.span {node node' : Node} (h : q.Same node node') : q.Same node.span node'.span := by
  refine same_span_iff.mpr ?_
  unfold Same at h
  cases hloose : q.loose with
  | true => exact .inl (Eq.refl _)
  | false =>
      rw [hloose] at h
      exact .inr (congrArg Node.span h.symm)

theorem Same.of_some {node : Node} {node? : Option Node} (h : q.Same (some node) node?) :
    ∃ node', node? = some node' ∧ q.Same node node' := by
  cases node? with
  | none => simp [Same] at h
  | some node' =>
      simp only [Same, Node.look_some, Option.some.injEq] at h
      exact ⟨node', rfl, h⟩

theorem Same.of_cons {node : Node} {rest nodes : List Node} (h : q.Same (node :: rest) nodes) :
    ∃ node' rest', nodes = node' :: rest' ∧ q.Same node node' ∧ q.Same rest rest' := by
  cases nodes with
  | nil => simp [Same] at h
  | cons node' rest' =>
      simp only [Same, Node.look_cons, List.cons.injEq] at h
      exact ⟨node', rest', rfl, h⟩

/-! ## States -/

/-- Passing a token does not change where the source ends. -/
theorem endSpan_advance (c : Cursor) : c.advance.endSpan = c.endSpan := by
  unfold Cursor.advance
  cases h : c.after with
  | nil => rfl
  | cons token rest => cases rest <;> simp [Cursor.endSpan, h, List.getLast?_cons]

/-- Either the readings are beside each other, or the first one is at its end and places do
not count. -/
theorem Beside.near_or_ended (h : q.Beside beyond s s') :
    q.Beside false s s' ∨ q.loose = true ∧ s.cursor.after = [] := by
  rcases h.after with hafter | ⟨-, hloose, hended, -⟩
  · exact .inl ⟨.inl hafter, h.goesOn, h.loops, h.pragmas, h.exact⟩
  · exact .inr ⟨hloose, hended⟩

theorem Beside.near (h : q.Beside beyond s s') (hexact : q.loose = false) :
    q.Beside false s s' :=
  h.near_or_ended.resolve_right fun hended => nomatch hexact.symm.trans hended.1

theorem Beside.after_eq (h : q.Beside false s s') :
    s'.cursor.after = s.cursor.after ++ q.rest :=
  h.after.resolve_right fun hbeyond => nomatch hbeyond.1

theorem Beside.weaken (h : q.Beside false s s') : q.Beside beyond s s' :=
  ⟨.inl h.after_eq, h.goesOn, h.loops, h.pragmas, h.exact⟩

theorem Beside.widen (h : q.Beside beyond s s') : q.Beside true s s' := by
  cases beyond with
  | false => exact h.weaken
  | true => exact h

/-- As long as the first reading is not at its end, both are at the same token. -/
theorem Beside.current_eq (h : q.Beside false s s') (hhere : s.cursor.after ≠ []) :
    s'.cursor.current = s.cursor.current := by
  obtain ⟨token, rest, hafter⟩ := List.exists_cons_of_ne_nil hhere
  have hafter' := h.after_eq
  rw [hafter] at hafter'
  simp [Cursor.current, hafter, hafter']

theorem currentKind_nil (hend : s.cursor.after = []) : s.cursor.currentKind = .eof := by
  simp [Cursor.currentKind, Cursor.current, hend, Token.missing]

theorem after_ne_nil_of_kind (h : s.cursor.currentKind ≠ .eof) : s.cursor.after ≠ [] :=
  fun hend => h (currentKind_nil hend)

/-- What comes next in the longer source when the other one is at its end. -/
theorem Beside.current_end (h : q.Beside false s s') (hend : s.cursor.after = []) :
    s'.cursor.currentKind = .eof ∧ s'.cursor.current.literal = "" ∨
      q.loose = true ∧ s'.cursor.currentKind = .symbol .semicolon ∧
        s'.cursor.current.literal = ";" := by
  have hafter : s'.cursor.after = q.rest := by simpa [hend] using h.after_eq
  have hfollows := q.follows
  unfold Cursor.currentKind Cursor.current
  rw [hafter]
  cases hrest : q.rest with
  | nil => exact .inl ⟨rfl, rfl⟩
  | cons token rest =>
      rw [hrest] at hfollows
      cases hfollows with
      | ending => exact .inl ⟨rfl, rfl⟩
      | separator span following hloose _ => exact .inr ⟨hloose, rfl, rfl⟩

theorem check_nil {kind : TokenKind} (hend : s.cursor.after = []) (hkind : kind ≠ .eof) :
    s.cursor.check kind = false := by
  unfold Cursor.check
  rw [currentKind_nil hend]
  exact decide_eq_false (Ne.symm hkind)

/-- The same as long as one does not look past the end. -/
theorem Beside.peek_cases (h : q.Beside false s s') {n : Nat} (hn : n ≤ s.left) :
    s'.cursor.peek n = s.cursor.peek n ∨
      s.cursor.peek n = .eof ∧ s'.cursor.peek n = .symbol .semicolon := by
  unfold Cursor.peek
  rw [h.after_eq]
  by_cases hlt : n < s.cursor.after.length
  · rw [List.getElem?_append_left hlt]
    exact .inl rfl
  · have heq : n = s.cursor.after.length := Nat.le_antisymm hn (Nat.not_lt.mp hlt)
    have hfollows := q.follows
    rw [List.getElem?_append_right (Nat.not_lt.mp hlt), heq, Nat.sub_self, List.getElem?_eq_none
      (Nat.le_refl _)]
    cases hrest : q.rest with
    | nil => exact .inl rfl
    | cons token rest =>
        rw [hrest] at hfollows
        cases hfollows with
        | ending => exact .inl rfl
        | separator => exact .inr ⟨rfl, rfl⟩

/-- Whether a token of some kind is ahead, as long as one does not look past the end. -/
theorem Beside.peek_iff (h : q.Beside false s s') {n : Nat} (hn : n ≤ s.left) {kind : TokenKind}
    (hkind : kind ≠ .symbol .semicolon) (hend : kind ≠ .eof) :
    s'.cursor.peek n = kind ↔ s.cursor.peek n = kind := by
  rcases h.peek_cases hn with hsame | ⟨hfirst, hsecond⟩
  · rw [hsame]
  · rw [hfirst, hsecond]
    exact ⟨fun heq => absurd heq.symm hkind, fun heq => absurd heq.symm hend⟩

/-- The end is not reached before the last token. -/
theorem Beside.currentKind_ne (h : q.Beside beyond s s') (hhere : s.cursor.after ≠ []) :
    s.cursor.currentKind ≠ .eof := by
  obtain ⟨token, rest, hafter⟩ := List.exists_cons_of_ne_nil hhere
  have hmem : token ∈ s.cursor.after := hafter ▸ List.mem_cons_self
  simpa [Cursor.currentKind, Cursor.current, hafter] using h.goesOn token hmem

theorem Beside.currentSpan_eq (h : q.Beside false s s') (hhere : s.cursor.after ≠ []) :
    s'.cursor.currentSpan = s.cursor.currentSpan := by
  have hkind : s.cursor.current.kind ≠ .eof := h.currentKind_ne hhere
  unfold Cursor.currentSpan
  rw [h.current_eq hhere, if_neg fun hend => hkind hend.1, if_neg fun hend => hkind hend.1]

/-- An end token is where it says, also when that looks like no place at all. -/
theorem currentSpan_ending (before : List Token) (closing : Span) :
    (⟨before, [⟨.eof, closing, ""⟩]⟩ : Cursor).currentSpan = closing := by
  show (if TokenKind.eof = .eof ∧ closing = .none then (⟨closing.stop, closing.stop⟩ : Span)
    else closing) = closing
  split
  · rename_i hnone
    rw [hnone.2]
    rfl
  · rfl

/-- The end of the source has the place of the end in both readings. -/
theorem Beside.placed (h : q.Beside beyond s s') :
    q.Placed s.cursor.currentSpan s'.cursor.currentSpan := by
  cases hloose : q.loose with
  | true => exact .inl hloose
  | false =>
      have hnear := h.near hloose
      by_cases hend : s.cursor.after = []
      · refine .inr (.inr ⟨?_, ?_⟩)
        · rw [← (h.exact hloose).2.2]
          simp [Cursor.currentSpan, Cursor.current, hend, Token.missing]
        · have hafter : s'.cursor.after = q.rest := by simpa [hend] using hnear.after_eq
          have hfollows := q.follows
          rw [hloose, ← hafter] at hfollows
          generalize s'.cursor = c at hfollows
          obtain ⟨before, after⟩ := c
          cases hfollows with
          | nothing h => cases h
          | separator span following h => cases h
          | ending => exact currentSpan_ending before _
      · exact .inr (.inl (hnear.currentSpan_eq hend))

/-- Both readings pass a token. -/
theorem Beside.advance (h : q.Beside false s s') (hhere : s.cursor.after ≠ []) :
    q.Beside false s.advance s'.advance := by
  obtain ⟨token, rest, hafter⟩ := List.exists_cons_of_ne_nil hhere
  have hafter' : s'.cursor.after = token :: (rest ++ q.rest) := by simpa [hafter] using h.after_eq
  have hadvance : s.cursor.advance = ⟨token :: s.cursor.before, rest⟩ := by
    simp [Cursor.advance, hafter]
  have hadvance' : s'.cursor.advance = ⟨token :: s'.cursor.before, rest ++ q.rest⟩ := by
    simp [Cursor.advance, hafter']
  constructor
  · exact .inl (by simp [Progress.advance, hadvance, hadvance'])
  · intro token' hmem
    refine h.goesOn token' ?_
    rw [hafter]
    simp only [Progress.advance, hadvance] at hmem
    exact List.mem_cons_of_mem _ hmem
  · exact h.loops
  · exact h.pragmas
  · intro hexact
    obtain ⟨hbefore, hscopes, hclose⟩ := h.exact hexact
    refine ⟨?_, hscopes, ?_⟩
    · simp [Progress.advance, hadvance, hadvance', hbefore]
    · exact (endSpan_advance s.cursor).trans hclose

/-- Loops and scopes may be opened and closed in both readings. -/
theorem Beside.update {loops loops' : Nat} {scopes scopes' : List Scope}
    (h : q.Beside beyond s s') (hloops : loops' = loops)
    (hscopes : s'.scopes = s.scopes → scopes' = scopes) :
    q.Beside beyond { s with loopDepth := loops, scopes := scopes }
      { s' with loopDepth := loops', scopes := scopes' } where
  after := h.after
  goesOn := h.goesOn
  loops := hloops
  pragmas := h.pragmas
  exact hexact := by
    obtain ⟨hbefore, hsame, hclose⟩ := h.exact hexact
    exact ⟨hbefore, hscopes hsame, hclose⟩

section Steps

variable {α β : Type} [Seen α] [Seen β] {step step' : Parse α} {next next' : α → Parse β}

/-! ## Steps -/

/-- A larger limit, and a reading that may be beyond the semicolon. -/
theorem Tracks.mono (h : q.Tracks past most s s' step step') (hbeyond : past = true → beyond = true)
    (hlimit : most ≤ limit) : q.Tracks beyond limit s s' step step' := by
  unfold Tracks at h ⊢
  cases hrun : step q.dialect s with
  | error e =>
      rw [hrun] at h
      exact h
  | ok r =>
      rw [hrun] at h
      obtain ⟨r', hsecond, hsame, hs, hleft⟩ := h
      refine ⟨r', hsecond, hsame, ?_, by omega⟩
      cases past with
      | false => exact hs.weaken
      | true =>
          rw [hbeyond rfl]
          exact hs

end Steps

end Sequel

/-! ## Productions -/

/-- **Grammars of which one is led along the other**, with requests for fewer tokens than a
number.  Most productions pass a token or fail. -/
structure Grammar.Leads (q : Sequel) (n : Nat) (g g' : Grammar) : Prop where
  expr : ∀ {s s'}, q.Beside false s s' → s.left < n → q.Tracks false s.left s s' g.expr g'.expr
  assignment : ∀ {s s'}, q.Beside false s s' → s.left < n →
    q.Tracks false s.left s s' g.assignment g'.assignment
  conditional : ∀ {s s'}, q.Beside false s s' → s.left < n →
    q.Tracks false s.left s s' g.conditional g'.conditional
  binary : ∀ (least : Nat) {s s'}, q.Beside false s s' → s.left < n →
    q.Tracks false s.left s s' (g.binary least) (g'.binary least)
  binaryTail : ∀ (least : Nat) {start start' left left' s s'}, q.Same start start' →
    q.Same left left' → q.Beside false s s' → s.left < n →
    q.Tracks false (s.left + 1) s s' (g.binaryTail least start left)
      (g'.binaryTail least start' left')
  unary : ∀ {s s'}, q.Beside false s s' → s.left < n →
    q.Tracks false s.left s s' g.unary g'.unary
  accesses : ∀ {start start' object object' s s'}, q.Same start start' →
    q.Same object object' → q.Beside false s s' → s.left < n →
    q.Tracks false (s.left + 1) s s' (g.accesses start object) (g'.accesses start' object')
  arguments : ∀ {s s'}, q.Beside false s s' → s.left < n →
    q.Tracks false s.left s s' g.arguments g'.arguments
  items : ∀ {s s'}, q.Beside false s s' → s.left < n →
    q.Tracks false (s.left + 1) s s' g.items g'.items
  moreItems : ∀ {s s'}, q.Beside false s s' → s.left < n →
    q.Tracks false (s.left + 1) s s' g.moreItems g'.moreItems
  moreEntries : ∀ {s s'}, q.Beside false s s' → s.left < n →
    q.Tracks false (s.left + 1) s s' g.moreEntries g'.moreEntries
  parameters : ∀ (params : List String) {s s'}, q.Beside false s s' → s.left < n →
    q.Tracks false s.left s s' (g.parameters params) (g'.parameters params)
  dotted : ∀ (name : String) {s s'}, q.Beside false s s' → s.left < n →
    q.Tracks false (s.left + 1) s s' (g.dotted name) (g'.dotted name)
  block : ∀ {s s'}, q.Beside false s s' → s.left < n →
    q.Tracks false s.left s s' g.block g'.block
  body : ∀ {s s'}, q.Beside false s s' → s.left < n →
    q.Tracks true s.left s s' g.body g'.body
  blockStatements : ∀ {beyond s s'}, q.Beside beyond s s' → s.left < n →
    q.Tracks false s.left s s' g.blockStatements g'.blockStatements

end ScriptEngine

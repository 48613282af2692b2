import ScriptEngine.Grammar.Program
import ScriptEngine.Proofs.Gates
import ScriptEngine.Proofs.Places
import ScriptEngine.Proofs.Renumbering

/-!
# Reading one source twice

Much of what is proved about reading has the same shape: one source is read in two
dialects, which may be the same, and something is shown of every tree that the first one
reads.  A `Reading` says which dialects these are and what is to be shown.  That the
productions keep it is shown for readings, once.

A production is followed from the state in which it begins.  What has been read before, and
is a part of what is being read, is kept in a `Stretch`: the cursor where that begins, whether
a token has been passed since then, and the trees read so far, each with whether it stands
inside a loop.

* `Reading` — two dialects, and what is shown of trees;
* `Reading.Reads` — two steps that do the same from a state on;
* `Reading.reads_bind`, `Reading.reads_build`, … — how steps are put together.
-/

namespace ScriptEngine

/-! ## Readings -/

/-- **Two dialects and what is shown of trees** that the first one reads between two
cursors, inside a loop of their function or outside of all.  The second dialect has the
features of the first, and checks declarations in the same way.  If the reading is not
lenient it has no others. -/
structure Reading where
  first : Dialect
  second : Dialect
  /-- Whether the second dialect may accept what the first rejects. -/
  lenient : Prop
  Good : (inLoop : Bool) → (c c' : Cursor) → Node → Prop
  more : ∀ f, first.features.has f = true → second.features.has f = true
  exact : ∀ f, second.features.has f = true → lenient ∨ first.features.has f = true
  script : second.features.has .script = first.features.has .script
  lexical : second.features.has .lexical = first.features.has .lexical
  lexicalShade : second.features.has .lexicalShade = first.features.has .lexicalShade
  /-- More tokens may be read before and after a tree. -/
  widen : ∀ {inLoop : Bool} {c₀ c c' c₁ : Cursor} {node : Node}, c₀.Path first.features c →
    c'.Path first.features c₁ → Good inLoop c c' node → Good inLoop c₀ c₁ node
  /-- A node is made from the first token that was passed to the last, of parts that were
  read there. -/
  build : ∀ {inLoop : Bool} {c c' : Cursor} {node : Node}, c.Passes first.features c' →
    node.span = c.currentSpan.merge c'.previousSpan → node.fits inLoop = true →
    (∀ f ∈ node.needs, first.features.has f = true) →
    (∀ place ∈ node.places inLoop, Good place.1 c c' place.2) → Good inLoop c c' node

/-- Results of reading: what another compilation makes of them, and the trees in them. -/
class Readable (α : Type) where
  inUnit : Nat → α → α
  trees : α → List Node

namespace Readable

/-- Results that are the same in every compilation, without trees. -/
@[reducible]
def plain {α : Type} : Readable α := ⟨fun _ a => a, fun _ => []⟩

instance : Readable Unit := plain
instance : Readable Bool := plain
instance : Readable String := plain
instance : Readable (List String) := plain
instance : Readable (String × Span) := plain
instance : Readable Token := plain
instance : Readable Literal := plain
instance : Readable Node := ⟨Node.inUnit, fun node => [node]⟩
instance : Readable (Option Node) := ⟨Node.inUnitOption, Option.toList⟩
instance : Readable (List Node) := ⟨Node.inUnitAll, id⟩
instance : Readable (List (Node × Node)) :=
  ⟨Node.inUnitEntries, fun entries => entries.flatMap fun (key, value) => [key, value]⟩

@[simp]
theorem trees_node (node : Node) : trees node = [node] := rfl

@[simp]
theorem trees_option (node? : Option Node) : trees node? = node?.toList := rfl

@[simp]
theorem trees_list (nodes : List Node) : trees nodes = nodes := rfl

@[simp]
theorem trees_entries (entries : List (Node × Node)) :
    trees entries = entries.flatMap fun (key, value) => [key, value] := rfl

end Readable

/-- What is kept of what was read before. -/
structure Stretch where
  /-- Where it begins. -/
  start : Cursor
  /-- Whether a token has been passed since. -/
  passed : Bool
  /-- The trees read so far, each with whether it stands inside a loop. -/
  kept : List (Bool × Node)

namespace Stretch

/-- Nothing has been read since a cursor. -/
def since (c : Cursor) : Stretch := ⟨c, false, []⟩

/-- A token has been passed. -/
def pass (k : Stretch) : Stretch := { k with passed := true }

/-- Trees have been read. -/
def keep (k : Stretch) (inLoop : Bool) (nodes : List Node) : Stretch :=
  { k with kept := nodes.map (inLoop, ·) ++ k.kept }

@[simp]
theorem kept_since (c : Cursor) : (since c).kept = [] := rfl

@[simp]
theorem kept_pass (k : Stretch) : k.pass.kept = k.kept := rfl

@[simp]
theorem kept_keep (k : Stretch) (inLoop : Bool) (nodes : List Node) :
    (k.keep inLoop nodes).kept = nodes.map (inLoop, ·) ++ k.kept := rfl

end Stretch

/-- The state with the current token passed. -/
def Progress.advance (s : Progress) : Progress := { s with cursor := s.cursor.advance }

namespace Parse

variable {α β : Type}

/-- Two steps succeed when both of them do. -/
theorem bind_eq_ok {step : Parse α} {next : α → Parse β} {d : Dialect} {s : Progress}
    {r : β × Progress} : (step >>= next) d s = .ok r ↔
      ∃ r', step d s = .ok r' ∧ next r'.1 d r'.2 = .ok r := by
  show (step d s >>= fun r' => next r'.1 d r'.2) = .ok r ↔ _
  cases step d s with
  | error e => exact ⟨nofun, nofun⟩
  | ok r' => exact ⟨fun h => ⟨r', rfl, h⟩, fun ⟨_, hfirst, h⟩ => Except.ok.inj hfirst ▸ h⟩

/-- What comes after a step that succeeds. -/
theorem bind_of_ok {step : Parse α} {next : α → Parse β} {d : Dialect} {s s' : Progress} {a : α}
    (h : step d s = .ok (a, s')) : (step >>= next) d s = next a d s' := by
  show (step d s >>= fun r => next r.1 d r.2) = _
  rw [h]
  rfl

/-- Nothing comes after a step that fails. -/
theorem bind_of_error {step : Parse α} {next : α → Parse β} {d : Dialect} {s : Progress}
    {e : ParseError} (h : step d s = .error e) : (step >>= next) d s = .error e := by
  show (step d s >>= fun r => next r.1 d r.2) = _
  rw [h]
  rfl

theorem get_bind (next : Progress → Parse β) (d : Dialect) (s : Progress) :
    (get >>= next) d s = next s d s := rfl

theorem read_bind (next : Dialect → Parse β) (d : Dialect) (s : Progress) :
    (read >>= next) d s = next d d s := rfl

theorem cursor_bind (next : Cursor → Parse β) (d : Dialect) (s : Progress) :
    (Parse.cursor >>= next) d s = next s.cursor d s := rfl

theorem currentKind_bind (next : TokenKind → Parse β) (d : Dialect) (s : Progress) :
    (currentKind >>= next) d s = next s.cursor.currentKind d s := rfl

theorem currentSpan_bind (next : Span → Parse β) (d : Dialect) (s : Progress) :
    (currentSpan >>= next) d s = next s.cursor.currentSpan d s := rfl

/-- What comes after a feature that is needed. -/
theorem require_bind (f : Feature) (span : Span) (next : Unit → Parse β) (d : Dialect)
    (s : Progress) : (require f span >>= next) d s =
      if d.features.has f = true then next () d s else .error ⟨.disabled f, span⟩ := by
  show ((if d.features.has f = true then pure () else fail (.disabled f) span :
    Parse Unit) >>= next) d s = _
  split <;> rfl

/-- What comes after a token that may be there. -/
theorem eat_bind (kind : TokenKind) (next : Bool → Parse β) (d : Dialect) (s : Progress) :
    (eat kind >>= next) d s =
      if s.cursor.check kind = true then next true d s.advance else next false d s := by
  show ((if s.cursor.check kind = true then do
    let _ ← advance
    return true
    else pure false : Parse Bool) >>= next) d s = _
  split <;> rfl

/-- What comes after a token that has to be there. -/
theorem expect_bind (kind : TokenKind) (next : Token → Parse β) (d : Dialect) (s : Progress) :
    (expect kind >>= next) d s =
      if s.cursor.check kind = true then next s.cursor.current d s.advance
      else .error ⟨.unexpected s.cursor.currentKind ("'" ++ kind.spelling ++ "'"),
        s.cursor.currentSpan⟩ := by
  show ((if s.cursor.check kind = true then advance else do
    let found ← currentKind
    let span ← currentSpan
    fail (.unexpected found ("'" ++ kind.spelling ++ "'")) span) >>= next) d s = _
  split <;> rfl

end Parse

namespace Reading

open Readable

variable (p : Reading)

/-- A tree that was read from one cursor to another, with at least one token passed. -/
structure Tree (inLoop : Bool) (c c' : Cursor) (node : Node) : Prop where
  passes : c.Passes p.first.features c'
  good : p.Good inLoop c c' node

/-- What a stretch says of the cursor that has been reached. -/
structure Holds (k : Stretch) (c : Cursor) : Prop where
  path : k.start.Path p.first.features c
  passes : k.passed = true → k.start.Passes p.first.features c
  trees : ∀ place ∈ k.kept, p.Tree place.1 k.start c place.2

/-- What a step of reading leaves behind: tokens have been passed, as many loops are open as
before, and there may be new directives if they are enabled. -/
structure Moves (s s' : Progress) : Prop where
  path : s.cursor.Path p.first.features s'.cursor
  loops : s'.loopDepth = s.loopDepth
  pragmas : s'.pragmas = s.pragmas ∨ p.first.features.has .pragma = true

/-- The ends of two steps that did the same.  The trees that the first one yields are good,
and another compilation makes those of the second one of them. -/
def Ends {α : Type} [Readable α] (inLoop : Bool) (start : Cursor) (s : Progress) :
    (ending ending' : Except ParseError (α × Progress)) → Prop
  | .ok (a, s'), ending' =>
    ending' = .ok (inUnit p.second.unit a, s') ∧
      (∀ node ∈ trees a, p.Tree inLoop start s'.cursor node) ∧ p.Moves s s'
  | .error e, ending' => p.lenient ∨ ending' = .error e

/-- **Two steps that do the same** in the two dialects, from a state on and with so many
loops open, after what a stretch says. -/
def Reads {α : Type} [Readable α] (loops : Nat) (k : Stretch) (s : Progress)
    (step step' : Parse α) : Prop :=
  p.Holds k s.cursor → s.loopDepth = loops →
    p.Ends (decide (0 < loops)) k.start s (step p.first s) (step' p.second s)

variable {p} {inLoop : Bool} {c c' c'' : Cursor} {node : Node}

theorem Tree.later (h : p.Tree inLoop c c' node) (h' : c'.Path p.first.features c'') :
    p.Tree inLoop c c'' node :=
  ⟨h.passes.later h', p.widen (.refl _) h' h.good⟩

theorem Tree.earlier (h : c.Path p.first.features c') (h' : p.Tree inLoop c' c'' node) :
    p.Tree inLoop c c'' node :=
  ⟨h'.passes.earlier h, p.widen h (.refl _) h'.good⟩

theorem Moves.refl (s : Progress) : p.Moves s s := ⟨.refl _, rfl, .inl rfl⟩

theorem Moves.trans {s s' s'' : Progress} (h : p.Moves s s') (h' : p.Moves s' s'') :
    p.Moves s s'' where
  path := h.path.trans h'.path
  loops := h'.loops.trans h.loops
  pragmas := by
    rcases h'.pragmas with heq | hgranted
    · rw [heq]
      exact h.pragmas
    · exact .inr hgranted

variable {k k' : Stretch}

theorem holds_since (c : Cursor) : p.Holds (.since c) c where
  path := .refl c
  passes := nofun
  trees _ hplace := nomatch hplace

/-- What a stretch says is still so after more tokens. -/
theorem Holds.later (h : p.Holds k c) (h' : c.Path p.first.features c') : p.Holds k c' where
  path := h.path.trans h'
  passes hpassed := (h.passes hpassed).later h'
  trees place hplace := (h.trees place hplace).later h'

theorem Holds.pass (h : p.Holds k c) (h' : c.Passes p.first.features c') : p.Holds k.pass c' where
  path := h.path.trans h'.path
  passes _ := h'.earlier h.path
  trees place hplace := (h.trees place hplace).later h'.path

theorem Holds.keep {nodes : List Node} (h : p.Holds k c)
    (hnodes : ∀ node ∈ nodes, p.Tree inLoop k.start c node) : p.Holds (k.keep inLoop nodes) c where
  path := h.path
  passes := h.passes
  trees place hplace := by
    rcases List.mem_append.mp hplace with hnew | hold
    · obtain ⟨node, hnode, rfl⟩ := List.mem_map.mp hnew
      exact hnodes node hnode
    · exact h.trees place hold

section Steps

variable {α β : Type} [Readable α] [Readable β] {loops : Nat} {s : Progress}
variable {step step' : Parse α} {next next' : α → Parse β}

/-! ## Steps -/

/-- What was done before counts as well. -/
theorem Ends.after {s' : Progress} {ending ending' : Except ParseError (α × Progress)}
    (hmoves : p.Moves s s') (h : p.Ends inLoop c s' ending ending') :
    p.Ends inLoop c s ending ending' := by
  cases ending with
  | error e => exact h
  | ok r => exact ⟨h.1, h.2.1, hmoves.trans h.2.2⟩

/-- One step after another. -/
theorem ends_bind (inside : Bool) (h : p.Ends inside c s (step p.first s) (step' p.second s))
    (hnext : ∀ a s', (∀ node ∈ trees a, p.Tree inside c s'.cursor node) → p.Moves s s' →
      p.Ends inLoop c s' (next a p.first s') (next' (inUnit p.second.unit a) p.second s')) :
    p.Ends inLoop c s ((step >>= next) p.first s) ((step' >>= next') p.second s) := by
  show p.Ends inLoop c s (step p.first s >>= fun r => next r.1 p.first r.2)
    (step' p.second s >>= fun r => next' r.1 p.second r.2)
  cases hrun : step p.first s with
  | error e =>
      rw [hrun] at h
      refine h.imp id fun hsecond => ?_
      rw [hsecond]
      rfl
  | ok r =>
      rw [hrun] at h
      obtain ⟨hsecond, htrees, hmoves⟩ := h
      rw [hsecond]
      exact (hnext r.1 r.2 htrees hmoves).after hmoves

/-- A step that changes nothing, in a stretch that holds what it yields. -/
theorem reads_pure {a a' : α} (hsame : a' = inUnit p.second.unit a)
    (h : ∀ node ∈ trees a, (decide (0 < loops), node) ∈ k.kept) :
    p.Reads loops k s (pure a) (pure a') := by
  intro hk _
  subst hsame
  exact ⟨rfl, fun node hnode => hk.trees _ (h node hnode), .refl s⟩

/-- The same violation on both sides. -/
theorem reads_fail (cause : ParseError.Cause) (span : Span) :
    p.Reads loops k s (Parse.fail cause span : Parse α) (Parse.fail cause span) :=
  fun _ _ => .inr rfl

/-- Nothing comes after a violation. -/
theorem reads_stop {γ : Type} (cause : ParseError.Cause) (span : Span) {next next' : γ → Parse β} :
    p.Reads loops k s (Parse.fail cause span >>= next) (Parse.fail cause span >>= next') :=
  fun _ _ => .inr rfl

/-- **One step after another.**  What is read of a part that begins where the stretch does is
kept in it. -/
theorem reads_bind (h : p.Reads loops (.since k.start) s step step')
    (hnext : ∀ a s', p.Reads loops (k.keep (decide (0 < loops)) (trees a)) s' (next a)
      (next' (inUnit p.second.unit a))) :
    p.Reads loops k s (step >>= next) (step' >>= next') := by
  intro hk hloops
  have hsince : p.Holds (.since k.start) s.cursor := ⟨hk.path, nofun, fun _ h => nomatch h⟩
  exact ends_bind _ (h hsince hloops) fun a s' htrees hmoves =>
    hnext a s' ((hk.later hmoves.path).keep htrees) (hmoves.loops.trans hloops)

/-- A stretch says no less than one with fewer trees. -/
theorem reads_weaken (hstart : k'.start = k.start) (hpassed : k'.passed = true → k.passed = true)
    (hkept : ∀ place ∈ k'.kept, place ∈ k.kept) (h : p.Reads loops k' s step step') :
    p.Reads loops k s step step' := by
  intro hk hloops
  unfold Reads at h
  rw [hstart] at h
  exact h ⟨hstart ▸ hk.path, fun h => hstart ▸ hk.passes (hpassed h),
    fun place hplace => hstart ▸ hk.trees place (hkept place hplace)⟩ hloops

/-- A part that is the last one. -/
theorem reads_last (h : p.Reads loops (.since k.start) s step step') :
    p.Reads loops k s step step' := by
  refine reads_weaken ?_ ?_ ?_ h
  · rfl
  · nofun
  · exact fun _ h => nomatch h

/-- What begins at the state also begins after the start of the stretch. -/
theorem reads_here (h : p.Reads loops (.since s.cursor) s step step') :
    p.Reads loops k s step step' := by
  intro hk hloops
  have hends := h (holds_since _) hloops
  cases hrun : step p.first s with
  | error e =>
      rw [hrun] at hends
      exact hends
  | ok r =>
      rw [hrun] at hends
      exact ⟨hends.1, fun node hnode => (hends.2.1 node hnode).earlier hk.path, hends.2.2⟩

/-- The result of a step, changed by a function. -/
theorem reads_map {f : α → β} (h : p.Reads loops (.since k.start) s step step')
    (hf : ∀ a, f (inUnit p.second.unit a) = inUnit p.second.unit (f a))
    (htrees : ∀ a, ∀ node ∈ trees (f a), node ∈ trees a) :
    p.Reads loops k s (f <$> step) (f <$> step') := by
  rw [map_eq_pure_bind, map_eq_pure_bind]
  refine reads_bind h fun a s' => reads_pure (hf a) fun node hnode => ?_
  exact List.mem_append_left _ (List.mem_map_of_mem (htrees a node hnode))

/-! ## Looking at the state -/

theorem reads_get {next next' : Progress → Parse β} (h : p.Reads loops k s (next s) (next' s)) :
    p.Reads loops k s (get >>= next) (get >>= next') := h

/-- So many loops are open. -/
theorem reads_depth (h : s.loopDepth = loops → p.Reads loops k s step step') :
    p.Reads loops k s step step' :=
  fun hk hloops => h hloops hk hloops

theorem reads_read {next next' : Dialect → Parse β}
    (h : p.Reads loops k s (next p.first) (next' p.second)) :
    p.Reads loops k s (read >>= next) (read >>= next') := h

theorem reads_cursor {next next' : Cursor → Parse β}
    (h : p.Reads loops k s (next s.cursor) (next' s.cursor)) :
    p.Reads loops k s (Parse.cursor >>= next) (Parse.cursor >>= next') := h

theorem reads_currentKind {next next' : TokenKind → Parse β}
    (h : p.Reads loops k s (next s.cursor.currentKind) (next' s.cursor.currentKind)) :
    p.Reads loops k s (Parse.currentKind >>= next) (Parse.currentKind >>= next') := h

theorem reads_currentSpan {next next' : Span → Parse β}
    (h : p.Reads loops k s (next s.cursor.currentSpan) (next' s.cursor.currentSpan)) :
    p.Reads loops k s (Parse.currentSpan >>= next) (Parse.currentSpan >>= next') := h

theorem reads_peek {n : Nat} {next next' : TokenKind → Parse β}
    (h : p.Reads loops k s (next (s.cursor.peek n)) (next' (s.cursor.peek n))) :
    p.Reads loops k s (Parse.peek n >>= next) (Parse.peek n >>= next') := h

theorem reads_check {kind : TokenKind} {next next' : Bool → Parse β}
    (h : p.Reads loops k s (next (s.cursor.check kind)) (next' (s.cursor.check kind))) :
    p.Reads loops k s (Parse.check kind >>= next) (Parse.check kind >>= next') := h

theorem reads_spanFrom {start : Span} {next next' : Span → Parse β}
    (h : p.Reads loops k s (next (start.merge s.cursor.previousSpan))
      (next' (start.merge s.cursor.previousSpan))) :
    p.Reads loops k s (Parse.spanFrom start >>= next) (Parse.spanFrom start >>= next') := h

/-- A feature is needed: if the first dialect has it, so does the second. -/
theorem reads_require {f : Feature} {span : Span} {next next' : Unit → Parse β}
    (h : p.first.features.has f = true → p.Reads loops k s (next ()) (next' ())) :
    p.Reads loops k s (Parse.require f span >>= next) (Parse.require f span >>= next') := by
  unfold Reads
  rw [Parse.require_bind, Parse.require_bind]
  intro hk hloops
  by_cases hhas : p.first.features.has f = true
  · rw [if_pos hhas, if_pos (p.more f hhas)]
    exact h hhas hk hloops
  · rw [if_neg hhas]
    by_cases hsecond : p.second.features.has f = true
    · exact .inl ((p.exact f hsecond).resolve_right hhas)
    · exact .inr (if_neg hsecond)

/-! ## Passing tokens -/

/-- A token that may be passed is passed. -/
theorem reads_advance {next next' : Token → Parse β} (hpass : s.cursor.Passable p.first.features)
    (h : p.Reads loops k.pass s.advance (next s.cursor.current) (next' s.cursor.current)) :
    p.Reads loops k s (Parse.advance >>= next) (Parse.advance >>= next') := by
  intro hk hloops
  have hmoves : p.Moves s s.advance := ⟨hpass.path, rfl, .inl rfl⟩
  exact (h (hk.pass hpass.passes) hloops).after hmoves

/-- A token is passed if it is of the kind given. -/
theorem reads_eat {kind : TokenKind} {next next' : Bool → Parse β} (hend : kind ≠ .eof)
    (hword : kind.isComparatorName = false)
    (hyes : s.cursor.currentKind = kind →
      p.Reads loops k.pass s.advance (next true) (next' true))
    (hno : s.cursor.currentKind ≠ kind → p.Reads loops k s (next false) (next' false)) :
    p.Reads loops k s (Parse.eat kind >>= next) (Parse.eat kind >>= next') := by
  unfold Reads
  rw [Parse.eat_bind, Parse.eat_bind]
  by_cases hcheck : s.cursor.check kind = true
  · rw [if_pos hcheck, if_pos hcheck]
    have hkind : s.cursor.currentKind = kind := of_decide_eq_true hcheck
    have hpassed : p.Reads loops k s (do let _ ← Parse.advance; next true)
        (do let _ ← Parse.advance; next' true) :=
      reads_advance (.of_kind hkind hend hword) (hyes hkind)
    exact hpassed
  · rw [if_neg hcheck, if_neg hcheck]
    exact hno fun hkind => hcheck (decide_eq_true hkind)

/-- A token has to be of the kind given, and is passed. -/
theorem reads_expect {kind : TokenKind} {next next' : Token → Parse β} (hend : kind ≠ .eof)
    (hword : kind.isComparatorName = false)
    (h : s.cursor.currentKind = kind →
      p.Reads loops k.pass s.advance (next s.cursor.current) (next' s.cursor.current)) :
    p.Reads loops k s (Parse.expect kind >>= next) (Parse.expect kind >>= next') := by
  unfold Reads
  rw [Parse.expect_bind, Parse.expect_bind]
  by_cases hcheck : s.cursor.check kind = true
  · rw [if_pos hcheck, if_pos hcheck]
    have hkind : s.cursor.currentKind = kind := of_decide_eq_true hcheck
    exact reads_advance (.of_kind hkind hend hword) (h hkind)
  · rw [if_neg hcheck, if_neg hcheck]
    exact fun _ _ => .inr rfl

theorem reads_expectIdent : p.Reads loops k s Parse.expectIdent Parse.expectIdent := by
  refine reads_currentKind ?_
  split
  · rename_i name hkind
    exact reads_advance (.of_kind hkind nofun rfl) (reads_pure rfl nofun)
  · exact reads_currentSpan (reads_fail _ _)

theorem reads_semicolons (fuel : Nat) :
    p.Reads loops k s (Parse.semicolons fuel) (Parse.semicolons fuel) := by
  induction fuel generalizing k s with
  | zero => exact reads_pure rfl nofun
  | succ fuel ih => exact reads_eat nofun rfl (fun _ => ih) fun _ => reads_pure rfl nofun

theorem reads_expectEnd : p.Reads loops k s Parse.expectEnd Parse.expectEnd := by
  refine reads_cursor ?_
  split
  · exact reads_pure rfl nofun
  · exact reads_currentKind (reads_currentSpan (reads_fail _ _))

/-! ## Scopes and loops -/

/-- A change of the state that a step may leave behind. -/
theorem reads_modify {f : Progress → Progress} (hmoves : p.Moves s (f s)) :
    p.Reads loops k s (modify f : Parse Unit) (modify f) :=
  fun _ _ => ⟨rfl, nofun, hmoves⟩

/-- A name is declared on both sides or on none. -/
theorem reads_declare (name : String) (span : Span) :
    p.Reads loops k s (Parse.declare name span) (Parse.declare name span) := by
  have hfault (scopes : List Scope) :
      Parse.declarationFault? p.second.features name scopes =
        Parse.declarationFault? p.first.features name scopes := by
    cases scopes with
    | nil => rfl
    | cons scope outer =>
        unfold Parse.declarationFault?
        rw [p.lexical, p.lexicalShade]
  refine reads_get (reads_read ?_)
  rw [hfault]
  split
  · exact reads_fail _ _
  · intro _ _
    exact ⟨rfl, nofun, .refl _, rfl, .inl rfl⟩

theorem reads_declareAll (span : Span) (names : List String) :
    p.Reads loops k s (Parse.declareAll span names) (Parse.declareAll span names) := by
  induction names generalizing k s with
  | nil => exact reads_pure rfl nofun
  | cons name rest ih => exact reads_bind (reads_declare name span) fun _ _ => ih

/-- A scope of its own makes no difference to what is read inside. -/
theorem reads_inScope (isFunction : Bool)
    (h : ∀ s', p.Reads loops (.since k.start) s' step step') :
    p.Reads loops k s (Parse.inScope isFunction step) (Parse.inScope isFunction step') := by
  refine reads_bind (reads_modify ⟨.refl _, rfl, .inl rfl⟩) fun _ s₁ => ?_
  refine reads_bind (h s₁) fun a s₂ => ?_
  refine reads_bind (reads_modify ⟨.refl _, rfl, .inl rfl⟩) fun _ s₃ => ?_
  refine reads_pure rfl fun node hnode => ?_
  exact List.mem_append_right _ (List.mem_append_left _ (List.mem_map_of_mem hnode))

/-- What is read inside one more loop stands inside a loop. -/
theorem reads_inLoop
    (h : ∀ s', p.Reads (loops + 1) (.since k.start) s' step step')
    (hnext : ∀ a s', p.Reads loops (k.keep true (trees a)) s' (next a)
      (next' (inUnit p.second.unit a))) :
    p.Reads loops k s (Parse.inLoop step >>= next) (Parse.inLoop step' >>= next') := by
  intro hk hloops
  refine ends_bind true ?_ fun a s' htrees hmoves =>
    hnext a s' ((hk.later hmoves.path).keep htrees) (hmoves.loops.trans hloops)
  have hsince : p.Holds (.since k.start) s.cursor := ⟨hk.path, nofun, fun _ h => nomatch h⟩
  have hinside := h { s with loopDepth := s.loopDepth + 1 } hsince (congrArg (· + 1) hloops)
  show p.Ends true k.start s
    (step p.first { s with loopDepth := s.loopDepth + 1 } >>= fun r =>
      .ok (r.1, { r.2 with loopDepth := r.2.loopDepth - 1 }))
    (step' p.second { s with loopDepth := s.loopDepth + 1 } >>= fun r =>
      .ok (r.1, { r.2 with loopDepth := r.2.loopDepth - 1 }))
  cases hrun : step p.first { s with loopDepth := s.loopDepth + 1 } with
  | error e =>
      rw [hrun] at hinside
      exact hinside.imp id fun hsecond => by rw [hsecond]; rfl
  | ok r =>
      rw [hrun] at hinside
      obtain ⟨hsecond, htrees, hmoves⟩ := hinside
      rw [hsecond]
      refine ⟨rfl, htrees, hmoves.path, ?_, hmoves.pragmas⟩
      show r.2.loopDepth - 1 = s.loopDepth
      rw [hmoves.loops]
      rfl

/-- What is read as the body of a function stands outside of all loops. -/
theorem reads_inFunction
    (h : ∀ s', p.Reads 0 (.since k.start) s' step step')
    (hnext : ∀ a s', p.Reads loops (k.keep false (trees a)) s' (next a)
      (next' (inUnit p.second.unit a))) :
    p.Reads loops k s (Parse.inFunction step >>= next) (Parse.inFunction step' >>= next') := by
  intro hk hloops
  refine ends_bind false ?_ fun a s' htrees hmoves =>
    hnext a s' ((hk.later hmoves.path).keep htrees) (hmoves.loops.trans hloops)
  have hsince : p.Holds (.since k.start) s.cursor := ⟨hk.path, nofun, fun _ h => nomatch h⟩
  have hscope : p.Reads 0 (.since k.start) { s with loopDepth := 0 } (Parse.inScope true step)
      (Parse.inScope true step') := reads_inScope true h
  have hinside := hscope hsince rfl
  show p.Ends false k.start s
    (Parse.inScope true step p.first { s with loopDepth := 0 } >>= fun r =>
      .ok (r.1, { r.2 with loopDepth := s.loopDepth }))
    (Parse.inScope true step' p.second { s with loopDepth := 0 } >>= fun r =>
      .ok (r.1, { r.2 with loopDepth := s.loopDepth }))
  cases hrun : Parse.inScope true step p.first { s with loopDepth := 0 } with
  | error e =>
      rw [hrun] at hinside
      exact hinside.imp id fun hsecond => by rw [hsecond]; rfl
  | ok r =>
      rw [hrun] at hinside
      obtain ⟨hsecond, htrees, hmoves⟩ := hinside
      rw [hsecond]
      exact ⟨rfl, htrees, hmoves.path, rfl, hmoves.pragmas⟩

/-! ## Nodes -/

/-- What a node has to be, to be made where a stretch ends. -/
structure Built (p : Reading) (inLoop : Bool) (k : Stretch) (c : Cursor) (node : Node) : Prop where
  span : node.span = k.start.currentSpan.merge c.previousSpan
  fits : node.fits inLoop = true
  needs : ∀ f ∈ node.needs, p.first.features.has f = true
  passed : k.passed = true ∨ k.kept ≠ []
  parts : ∀ place ∈ node.places inLoop, place ∈ k.kept

/-- A node that is made where a stretch ends is good. -/
theorem Built.tree {inLoop : Bool} (h : p.Built inLoop k c node) (hk : p.Holds k c) :
    p.Tree inLoop k.start c node := by
  have hpasses : k.start.Passes p.first.features c := by
    rcases h.passed with hpassed | hkept
    · exact hk.passes hpassed
    · obtain ⟨place, hplace⟩ := List.exists_mem_of_ne_nil _ hkept
      exact (hk.trees place hplace).passes
  exact ⟨hpasses, p.build hpasses h.span h.fits h.needs fun place hplace =>
    (hk.trees place (h.parts place hplace)).good⟩

/-- A node is made, and reading goes on. -/
theorem reads_build (node : Node) (hnode : p.Built (decide (0 < loops)) k s.cursor node)
    (h : p.Reads loops (k.keep (decide (0 < loops)) [node]) s step step') :
    p.Reads loops k s step step' :=
  fun hk hloops => h (hk.keep fun _ hmem => by
    rw [List.mem_singleton.mp hmem]
    exact hnode.tree hk) hloops

/-- A node is made, and that is all. -/
theorem reads_node (hnode : p.Built (decide (0 < loops)) k s.cursor node) :
    p.Reads loops k s (pure node) (pure (node.inUnit p.second.unit)) :=
  reads_build node hnode (reads_pure rfl fun _ hmem =>
    List.mem_append_left _ (List.mem_map_of_mem hmem))

end Steps

end Reading

/-! ## Productions -/

/-- **Grammars that keep a reading**: each production does the same in both dialects. -/
structure Grammar.Keeps (g : Grammar) (p : Reading) : Prop where
  expr : ∀ {loops c s}, p.Reads loops (.since c) s g.expr g.expr
  assignment : ∀ {loops c s}, p.Reads loops (.since c) s g.assignment g.assignment
  conditional : ∀ {loops c s}, p.Reads loops (.since c) s g.conditional g.conditional
  binary : ∀ {loops c s} (least : Nat),
    p.Reads loops (.since c) s (g.binary least) (g.binary least)
  binaryTail : ∀ {loops c s} (least : Nat) (left : Node),
    p.Reads loops ((Stretch.since c).keep (decide (0 < loops)) [left]) s
      (g.binaryTail least c.currentSpan left)
      (g.binaryTail least c.currentSpan (left.inUnit p.second.unit))
  unary : ∀ {loops c s}, p.Reads loops (.since c) s g.unary g.unary
  accesses : ∀ {loops c s} (object : Node),
    p.Reads loops ((Stretch.since c).keep (decide (0 < loops)) [object]) s
      (g.accesses c.currentSpan object) (g.accesses c.currentSpan (object.inUnit p.second.unit))
  arguments : ∀ {loops c s}, p.Reads loops (.since c) s g.arguments g.arguments
  items : ∀ {loops c s}, p.Reads loops (.since c) s g.items g.items
  moreItems : ∀ {loops c s}, p.Reads loops (.since c) s g.moreItems g.moreItems
  moreEntries : ∀ {loops c s}, p.Reads loops (.since c) s g.moreEntries g.moreEntries
  parameters : ∀ {loops c s} (params : List String),
    p.Reads loops (.since c) s (g.parameters params) (g.parameters params)
  dotted : ∀ {loops c s} (name : String),
    p.Reads loops (.since c) s (g.dotted name) (g.dotted name)
  block : ∀ {loops c s}, p.Reads loops (.since c) s g.block g.block
  body : ∀ {loops c s}, p.Reads loops (.since c) s g.body g.body
  blockStatements : ∀ {loops c s}, p.Reads loops (.since c) s g.blockStatements g.blockStatements
  statements : ∀ {loops c s}, p.Reads loops (.since c) s g.statements g.statements

end ScriptEngine

import ScriptEngine.Context
import ScriptEngine.Proofs.OrderedMap

/-!
# Resolution of variables

Looking a variable up, asking for it and assigning to it each walk a graph of
contexts of their own: an assignment decides at every frame, by asking, which way
to go on.  Here the place of a variable is a relation that knows nothing of how
it is searched, and all three are shown to agree with it.

Frames may share the contexts they are made over.  The contexts below a frame are
those it was made over, and these are older, so every graph ends in tables.

* `ContextRef.Grounded` — a context over older ones, down to tables;
* `ContextRef.Resolves` — the place of a variable in the documented order;
* `ContextRef.Root` — the table at the end of the callers;
* `Store.Writes` — a step that changes one binding of one context and nothing else;
* `ContextRef.resolution_agrees` — lookup, query, assignment and declaration agree.
-/

namespace ScriptEngine

/-- What a context binds itself. -/
def Context.bindings : Context → OrderedMap Value
  | .vars bindings _ | .frame bindings _ _ => bindings
  | .members .. => .empty

/-- A context but for what it binds itself: its kind and what it refers to. -/
def Context.bare : Context → Context
  | .vars _ token => .vars .empty token
  | .frame _ parent captured => .frame .empty parent captured
  | .members object permissions => .members object permissions

namespace Store

/-- The value that a context itself binds a variable to. -/
def binding? (s : Store) (ctx : ContextRef) (name : String) : Option Value :=
  (s.context ctx).bindings.find? name

/-- **Writing one binding.**  The context binds the variable to the value; no other
binding changes, no context refers to anything else than before, and all else
that the store holds is as it was. -/
structure Writes (s s' : Store) (place : ContextRef) (name : String) (value : Value) : Prop where
  binding : s'.binding? place name = some value
  others : ∀ other otherName, (other, otherName) ≠ (place, name) →
    s'.binding? other otherName = s.binding? other otherName
  bare : ∀ other, (s'.context other).bare = (s.context other).bare
  size : s'.contexts.size = s.contexts.size
  rest : { s' with contexts := s.contexts } = s

end Store

namespace ContextRef

/-- **A context that ends in tables.**  It is a table, or a frame over older
contexts that end in tables; these may be shared with other frames. -/
inductive Grounded (s : Store) : ContextRef → Prop
  | table {ctx : ContextRef} {bindings : OrderedMap Value} {token : Option TokenRef} :
      ctx.index < s.contexts.size → s.context ctx = .vars bindings token → Grounded s ctx
  | frame {ctx parent : ContextRef} {bindings : OrderedMap Value}
      {captured : Option ContextRef} :
      ctx.index < s.contexts.size → s.context ctx = .frame bindings parent captured →
      parent.index < ctx.index → Grounded s parent →
      (∀ outer ∈ captured, outer.index < ctx.index) → (∀ outer ∈ captured, Grounded s outer) →
      Grounded s ctx

/-- **The place of a variable**, if it has one: the context itself if that binds it,
else its place for the caller, else its place for what was captured. -/
inductive Resolves (s : Store) (name : String) : ContextRef → Option ContextRef → Prop
  | own {ctx : ContextRef} {value : Value} :
      s.binding? ctx name = some value → Resolves s name ctx (some ctx)
  | table {ctx : ContextRef} {bindings : OrderedMap Value} {token : Option TokenRef} :
      s.context ctx = .vars bindings token → s.binding? ctx name = none →
      Resolves s name ctx none
  | caller {ctx parent place : ContextRef} {bindings : OrderedMap Value}
      {captured : Option ContextRef} :
      s.context ctx = .frame bindings parent captured → s.binding? ctx name = none →
      Resolves s name parent (some place) → Resolves s name ctx (some place)
  | uncaptured {ctx parent : ContextRef} {bindings : OrderedMap Value} :
      s.context ctx = .frame bindings parent none → s.binding? ctx name = none →
      Resolves s name parent none → Resolves s name ctx none
  | captured {ctx parent outer : ContextRef} {place : Option ContextRef}
      {bindings : OrderedMap Value} :
      s.context ctx = .frame bindings parent (some outer) → s.binding? ctx name = none →
      Resolves s name parent none → Resolves s name outer place → Resolves s name ctx place

/-- The table that is reached by following the callers. -/
inductive Root (s : Store) : ContextRef → ContextRef → Prop
  | table {ctx : ContextRef} {bindings : OrderedMap Value} {token : Option TokenRef} :
      s.context ctx = .vars bindings token → Root s ctx ctx
  | frame {ctx parent root : ContextRef} {bindings : OrderedMap Value}
      {captured : Option ContextRef} :
      s.context ctx = .frame bindings parent captured → Root s parent root → Root s ctx root

variable {s : Store} {ctx : ContextRef} {name : String}

/-! ## Contexts that end in tables -/

theorem Grounded.index_lt (h : Grounded s ctx) : ctx.index < s.contexts.size := by
  cases h <;> assumption

/-- What a frame that ends in tables is made over. -/
theorem Grounded.of_frame {parent : ContextRef} {bindings : OrderedMap Value}
    {captured : Option ContextRef} (h : Grounded s ctx)
    (hctx : s.context ctx = .frame bindings parent captured) :
    (parent.index < ctx.index ∧ Grounded s parent) ∧
      ∀ outer ∈ captured, outer.index < ctx.index ∧ Grounded s outer := by
  cases h with
  | table _ htable => rw [hctx] at htable; cases htable
  | frame _ hframe hlt hparent hltCaptured hcaptured =>
      rw [hctx] at hframe
      cases hframe
      exact ⟨⟨hlt, hparent⟩, fun outer ho => ⟨hltCaptured outer ho, hcaptured outer ho⟩⟩

/-- A context that ends in tables binds its variables itself: it is not the members
of a value. -/
theorem Grounded.cases_context (h : Grounded s ctx) :
    (∃ bindings token, s.context ctx = .vars bindings token) ∨
      ∃ bindings parent captured, s.context ctx = .frame bindings parent captured := by
  cases h with
  | table _ hctx => exact .inl ⟨_, _, hctx⟩
  | frame _ hctx => exact .inr ⟨_, _, _, hctx⟩

/-- What a store already holds is not changed by a new context. -/
theorem context_newContext_of_lt (context : Context) (h : ctx.index < s.contexts.size) :
    (s.newContext context).2.context ctx = s.context ctx := by
  simp [Store.newContext, Store.context, Array.getElem?_push_lt, h]

/-- A new context is the one that was given. -/
theorem context_newContext_self (s : Store) (context : Context) :
    (s.newContext context).2.context (s.newContext context).1 = context := by
  simp [Store.newContext, Store.context]

theorem Grounded.newContext (h : Grounded s ctx) (context : Context) :
    Grounded (s.newContext context).2 ctx := by
  have hsize : (s.newContext context).2.contexts.size = s.contexts.size + 1 :=
    Array.size_push _
  induction h with
  | table hlt hctx =>
      exact .table (by omega) ((context_newContext_of_lt context hlt).trans hctx)
  | frame hlt hctx hparent _ hcaptured _ ihparent ihcaptured =>
      exact .frame (by omega) ((context_newContext_of_lt context hlt).trans hctx) hparent ihparent
        hcaptured ihcaptured

/-- A new table ends in tables. -/
theorem grounded_newTable (s : Store) (bindings : OrderedMap Value) (token : Option TokenRef) :
    Grounded (s.newContext (.vars bindings token)).2 (s.newContext (.vars bindings token)).1 :=
  .table (Array.size_push _ ▸ Nat.lt_succ_self _) (context_newContext_self ..)

/-- A new frame over contexts that end in tables does, so every graph of frames
that is built from its tables up does. -/
theorem grounded_newFrame {parent : ContextRef} {captured : Option ContextRef}
    (bindings : OrderedMap Value) (hparent : Grounded s parent)
    (hcaptured : ∀ outer ∈ captured, Grounded s outer) :
    Grounded (s.newContext (.frame bindings parent captured)).2
      (s.newContext (.frame bindings parent captured)).1 :=
  .frame (Array.size_push _ ▸ Nat.lt_succ_self _) (context_newContext_self ..)
    hparent.index_lt (hparent.newContext _) (fun outer ho => (hcaptured outer ho).index_lt)
    fun outer ho => (hcaptured outer ho).newContext _

/-! ## One step of a search -/

section Steps

variable (m : Members) {parent : ContextRef} {bindings : OrderedMap Value}
  {token : Option TokenRef} {captured : Option ContextRef}

theorem lookup_table (hctx : s.context ctx = .vars bindings token) (name : String) :
    lookup m s ctx name = s.binding? ctx name := by
  rw [lookup, Store.binding?, hctx]
  rfl

/-- A frame looks a variable up itself, then for its caller, then where it was
captured. -/
theorem Grounded.lookup_frame (h : Grounded s ctx)
    (hctx : s.context ctx = .frame bindings parent captured) (name : String) :
    lookup m s ctx name = (s.binding? ctx name).or
      ((lookup m s parent name).or (captured.bind (lookup m s · name))) := by
  obtain ⟨⟨hlt, -⟩, hcaptured⟩ := h.of_frame hctx
  have hown : s.binding? ctx name = bindings.find? name := by rw [Store.binding?, hctx]; rfl
  rw [lookup, hctx, hown]
  simp only [dif_pos hlt]
  cases bindings.find? name with
  | some value => rfl
  | none =>
      cases lookup m s parent name with
      | some value => rfl
      | none =>
          cases captured with
          | none => rfl
          | some outer => exact dif_pos (hcaptured outer rfl).1

theorem has_table (hctx : s.context ctx = .vars bindings token) (name : String) :
    has m s ctx name = (s.binding? ctx name).isSome := by
  rw [has, Store.binding?, hctx]
  exact OrderedMap.contains_eq_isSome bindings name

/-- A frame asks in the order in which it looks up. -/
theorem Grounded.has_frame (h : Grounded s ctx)
    (hctx : s.context ctx = .frame bindings parent captured) (name : String) :
    has m s ctx name = ((s.binding? ctx name).isSome ||
      (has m s parent name || captured.any (has m s · name))) := by
  obtain ⟨⟨hlt, -⟩, hcaptured⟩ := h.of_frame hctx
  have hown : s.binding? ctx name = bindings.find? name := by rw [Store.binding?, hctx]; rfl
  rw [has, hctx, hown]
  simp only [dif_pos hlt, OrderedMap.contains_eq_isSome]
  cases captured with
  | none => rfl
  | some outer => simp [(hcaptured outer rfl).1]

theorem holder_table (hctx : s.context ctx = .vars bindings token) (name : String) :
    holder m s ctx name = ctx := by
  rw [holder, hctx]

/-- A frame that does not hold a variable itself passes an assignment on. -/
theorem Grounded.holder_frame (h : Grounded s ctx)
    (hctx : s.context ctx = .frame bindings parent captured) (name : String) :
    holder m s ctx name = if (s.binding? ctx name).isSome then ctx
      else holder m s (onward m s parent captured name) name := by
  obtain ⟨⟨hlt, -⟩, hcaptured⟩ := h.of_frame hctx
  have hown : s.binding? ctx name = bindings.find? name := by rw [Store.binding?, hctx]; rfl
  have honward : (onward m s parent captured name).index < ctx.index := by
    unfold onward
    cases captured with
    | none => exact hlt
    | some outer =>
        dsimp only
        split
        · exact (hcaptured outer rfl).1
        · exact hlt
  rw [holder, hctx, hown]
  simp only [dif_pos honward, OrderedMap.contains_eq_isSome]

end Steps

/-! ## Finding a variable -/

/-- Every variable has a place or has none. -/
theorem Grounded.exists_resolves (h : Grounded s ctx) (name : String) :
    ∃ found, Resolves s name ctx found := by
  induction h with
  | @table ctx bindings token _ hctx =>
      cases hown : s.binding? ctx name with
      | some value => exact ⟨_, .own hown⟩
      | none => exact ⟨_, .table hctx hown⟩
  | @frame ctx parent bindings captured _ hctx _ _ _ _ ihparent ihcaptured =>
      cases hown : s.binding? ctx name with
      | some value => exact ⟨_, .own hown⟩
      | none =>
          obtain ⟨_ | place, hfound⟩ := ihparent
          · cases captured with
            | none => exact ⟨_, .uncaptured hctx hown hfound⟩
            | some outer =>
                obtain ⟨place, hplace⟩ := ihcaptured outer rfl
                exact ⟨_, .captured hctx hown hfound hplace⟩
          · exact ⟨_, .caller hctx hown hfound⟩

/-- A variable has one place at most. -/
theorem Resolves.unique {found found' : Option ContextRef} (h : Resolves s name ctx found)
    (h' : Resolves s name ctx found') : found = found' := by
  induction h generalizing found' with
  | own hown => cases h' <;> simp_all
  | table hctx hown => cases h' <;> simp_all
  | caller hctx hown hparent ih => cases h' <;> grind
  | uncaptured hctx hown hparent ih => cases h' <;> grind
  | captured hctx hown hparent houter ihparent ihouter => cases h' <;> grind

/-- The callers lead to a table. -/
theorem Grounded.exists_root (h : Grounded s ctx) : ∃ root, Root s ctx root := by
  induction h with
  | table _ hctx => exact ⟨_, .table hctx⟩
  | frame _ hctx _ _ _ _ ihparent _ =>
      obtain ⟨root, hroot⟩ := ihparent
      exact ⟨root, .frame hctx hroot⟩

/-- The place of a variable binds it, and ends in tables. -/
theorem Resolves.place {found : Option ContextRef} (h : Resolves s name ctx found)
    (hg : Grounded s ctx) :
    ∀ place ∈ found, Grounded s place ∧ ∃ value, s.binding? place name = some value := by
  induction h with
  | @own ctx value hown =>
      rintro place ⟨⟩
      exact ⟨hg, value, hown⟩
  | table => simp
  | caller hctx _ _ ih => exact ih (hg.of_frame hctx).1.2
  | uncaptured => simp
  | captured hctx _ _ _ _ ih => exact ih ((hg.of_frame hctx).2 _ rfl).2

/-- The callers lead to one table only. -/
theorem Root.unique {root root' : ContextRef} (h : Root s ctx root) (h' : Root s ctx root') :
    root = root' := by
  induction h with
  | table hctx => cases h' <;> simp_all
  | frame hctx _ ih => cases h' <;> grind

/-- A frame has the table of its caller. -/
theorem Root.of_frame {root parent : ContextRef} {bindings : OrderedMap Value}
    {captured : Option ContextRef} (h : Root s ctx root)
    (hctx : s.context ctx = .frame bindings parent captured) : Root s parent root := by
  cases h with
  | table htable => rw [hctx] at htable; cases htable
  | frame hframe hparent =>
      rw [hctx] at hframe
      cases hframe
      exact hparent

/-- The table at the end of the callers is one of those that the context ends in. -/
theorem Root.grounded {root : ContextRef} (h : Root s ctx root) (hg : Grounded s ctx) :
    Grounded s root := by
  induction h with
  | table => exact hg
  | frame hctx _ ih => exact ih (hg.of_frame hctx).1.2

section Agreement

variable (m : Members) {found : Option ContextRef}

/-- **Looking up** finds what the place of the variable binds. -/
theorem Resolves.lookup_eq (h : Resolves s name ctx found) (hg : Grounded s ctx) :
    lookup m s ctx name = found.bind (s.binding? · name) := by
  induction h with
  | @own ctx value hown =>
      rcases hg.cases_context with ⟨_, _, hctx⟩ | ⟨_, _, _, hctx⟩
      · exact lookup_table m hctx name
      · rw [hg.lookup_frame m hctx, hown]
        exact hown.symm
  | table hctx hown => exact (lookup_table m hctx name).trans hown
  | caller hctx hown hparent ih =>
      have hgparent := (hg.of_frame hctx).1.2
      obtain ⟨-, value, hvalue⟩ := hparent.place hgparent _ rfl
      rw [hg.lookup_frame m hctx, hown, ih hgparent, Option.bind_some, hvalue]
      rfl
  | uncaptured hctx hown _ ih =>
      rw [hg.lookup_frame m hctx, hown, ih (hg.of_frame hctx).1.2]
      rfl
  | captured hctx hown _ _ ihparent ihouter =>
      obtain ⟨⟨-, hgparent⟩, houter⟩ := hg.of_frame hctx
      rw [hg.lookup_frame m hctx, hown, ihparent hgparent]
      exact ihouter (houter _ rfl).2

/-- **Asking for** a variable tells whether it has a place. -/
theorem Resolves.has_eq (h : Resolves s name ctx found) (hg : Grounded s ctx) :
    has m s ctx name = found.isSome := by
  induction h with
  | @own ctx value hown =>
      rcases hg.cases_context with ⟨_, _, hctx⟩ | ⟨_, _, _, hctx⟩
      · rw [has_table m hctx, hown]
        rfl
      · rw [hg.has_frame m hctx, hown]
        rfl
  | table hctx hown =>
      rw [has_table m hctx, hown]
      rfl
  | caller hctx hown _ ih =>
      rw [hg.has_frame m hctx, hown, ih (hg.of_frame hctx).1.2]
      rfl
  | uncaptured hctx hown _ ih =>
      rw [hg.has_frame m hctx, hown, ih (hg.of_frame hctx).1.2]
      rfl
  | captured hctx hown _ _ ihparent ihouter =>
      obtain ⟨⟨-, hgparent⟩, houter⟩ := hg.of_frame hctx
      rw [hg.has_frame m hctx, hown, ihparent hgparent]
      exact ihouter (houter _ rfl).2

/-- **Assigning** goes to the place of the variable, or else to the table at the end
of the callers: asking at every frame which way to go on leads there. -/
theorem Resolves.holder_eq {root : ContextRef} (h : Resolves s name ctx found)
    (hg : Grounded s ctx) (hroot : Root s ctx root) :
    holder m s ctx name = found.getD root := by
  induction h generalizing root with
  | @own ctx value hown =>
      rcases hg.cases_context with ⟨_, _, hctx⟩ | ⟨_, _, _, hctx⟩
      · exact holder_table m hctx name
      · rw [hg.holder_frame m hctx, hown]
        rfl
  | table hctx _ =>
      cases hroot with
      | table => exact holder_table m hctx name
      | frame hframe => rw [hctx] at hframe; cases hframe
  | @caller ctx parent place bindings captured hctx hown hparent ih =>
      have hgparent := (hg.of_frame hctx).1.2
      have honward : onward m s parent captured name = parent := by
        cases captured <;> simp [onward, hparent.has_eq m hgparent]
      rw [hg.holder_frame m hctx, hown, honward]
      exact ih hgparent (hroot.of_frame hctx)
  | uncaptured hctx hown _ ih =>
      rw [hg.holder_frame m hctx, hown]
      exact ih (hg.of_frame hctx).1.2 (hroot.of_frame hctx)
  | @captured ctx parent outer place bindings hctx hown hparent houter ihparent ihouter =>
      obtain ⟨⟨-, hgparent⟩, hgcaptured⟩ := hg.of_frame hctx
      have hgouter := (hgcaptured outer rfl).2
      have hknown : has m s parent name = false := hparent.has_eq m hgparent
      rw [hg.holder_frame m hctx, hown]
      cases place with
      | none =>
          have honward : onward m s parent (some outer) name = parent := by
            simp [onward, houter.has_eq m hgouter]
          rw [honward]
          exact ihparent hgparent (hroot.of_frame hctx)
      | some place =>
          have honward : onward m s parent (some outer) name = outer := by
            simp [onward, hknown, houter.has_eq m hgouter]
          obtain ⟨outerRoot, houterRoot⟩ := hgouter.exists_root
          rw [honward, ihouter hgouter houterRoot]
          rfl

end Agreement

/-! ## Writing a variable -/

section Writing

variable {s' : Store} {place : ContextRef} {value : Value}

/-- Writing bindings leaves other contexts alone. -/
theorem context_modifyBindings_of_ne {other : ContextRef} (h : other ≠ ctx)
    (f : OrderedMap Value → OrderedMap Value) :
    (s.modifyBindings ctx f).context other = s.context other := by
  have hindex : ctx.index ≠ other.index := fun heq => h (by cases ctx; cases other; cases heq; rfl)
  simp only [Store.modifyBindings, Store.context, Array.getD_eq_getD_getElem?,
    Array.getElem?_modify, if_neg hindex]

/-- The context whose bindings are written. -/
theorem Grounded.context_modifyBindings (h : Grounded s ctx)
    (f : OrderedMap Value → OrderedMap Value) :
    ((s.modifyBindings ctx f).context ctx).bindings = f (s.context ctx).bindings ∧
      ((s.modifyBindings ctx f).context ctx).bare = (s.context ctx).bare := by
  have hget := Array.getElem?_eq_getElem h.index_lt
  rcases h.cases_context with ⟨_, _, hctx⟩ | ⟨_, _, _, hctx⟩ <;>
  · simp only [Store.context, Array.getD_eq_getD_getElem?, hget, Option.getD_some] at hctx
    simp only [Store.modifyBindings, Store.context, Array.getD_eq_getD_getElem?,
      Array.getElem?_modify, hget, Option.map_some, Option.getD_some, hctx]
    exact ⟨rfl, rfl⟩

/-- An action that starts by looking at the store. -/
theorem get_bind {α : Type} (action : Store → Action α) (s : Store) :
    (get >>= action) s = action s s := rfl

/-- An assignment is written where the variable is held. -/
theorem assign_eq (m : Members) (s : Store) (ctx : ContextRef) (name : String) (value : Value) :
    ctx.assign m name value s = write m (holder m s ctx name) name value s := by
  exact get_bind (fun s => write m (holder m s ctx name) name value) s

/-- A context that ends in tables is written to by changing its bindings. -/
theorem Grounded.write_modifyBindings (m : Members) (h : Grounded s ctx) (name : String)
    (value : Value) :
    write m ctx name value s = .ok () (s.modifyBindings ctx fun b => b.insert name value) := by
  rcases h.cases_context with ⟨_, _, hctx⟩ | ⟨_, _, _, hctx⟩ <;>
    rw [write, get_bind, hctx] <;> rfl

/-- Writing a variable into a context changes its binding there. -/
theorem Grounded.write_eq (m : Members) (h : Grounded s ctx) (name : String) (value : Value) :
    ∃ s', write m ctx name value s = .ok () s' ∧ s.Writes s' ctx name value := by
  obtain ⟨hbindings, hbare⟩ := h.context_modifyBindings fun b => b.insert name value
  refine ⟨_, h.write_modifyBindings m name value, ?_, fun other otherName hne => ?_,
    fun other => ?_, Array.size_modify, rfl⟩
  · rw [Store.binding?, hbindings, OrderedMap.find_insert_self]
  · by_cases hother : other = ctx
    · subst hother
      have hname : otherName ≠ name := fun heq => hne (heq ▸ rfl)
      rw [Store.binding?, hbindings, OrderedMap.find_insert_of_ne hname]
      rfl
    · rw [Store.binding?, context_modifyBindings_of_ne hother]
      rfl
  · by_cases hother : other = ctx
    · rw [hother, hbare]
    · rw [context_modifyBindings_of_ne hother]

end Writing

end ContextRef

namespace Store.Writes

open ContextRef

variable {s s' : Store} {place ctx : ContextRef} {name : String} {value : Value}

/-- A table remains one. -/
theorem vars (w : s.Writes s' place name value) {bindings : OrderedMap Value}
    {token : Option TokenRef} (h : s.context ctx = .vars bindings token) :
    ∃ after, s'.context ctx = .vars after token := by
  have hbare := w.bare ctx
  rw [h] at hbare
  generalize s'.context ctx = after at hbare ⊢
  cases after <;> cases hbare
  exact ⟨_, rfl⟩

/-- A frame remains one, over the same contexts. -/
theorem frame (w : s.Writes s' place name value) {bindings : OrderedMap Value}
    {parent : ContextRef} {captured : Option ContextRef}
    (h : s.context ctx = .frame bindings parent captured) :
    ∃ after, s'.context ctx = .frame after parent captured := by
  have hbare := w.bare ctx
  rw [h] at hbare
  generalize s'.context ctx = after at hbare ⊢
  cases after <;> cases hbare
  exact ⟨_, rfl⟩

theorem grounded (w : s.Writes s' place name value) (h : Grounded s ctx) : Grounded s' ctx := by
  induction h with
  | table hlt hctx =>
      obtain ⟨_, hctx'⟩ := w.vars hctx
      exact .table (w.size ▸ hlt) hctx'
  | frame hlt hctx hparent _ hcaptured _ ihparent ihcaptured =>
      obtain ⟨_, hctx'⟩ := w.frame hctx
      exact .frame (w.size ▸ hlt) hctx' hparent ihparent hcaptured ihcaptured

/-- A context that was not written binds the variable as it did. -/
theorem binding_of_ne (w : s.Writes s' place name value) (h : ctx ≠ place) :
    s'.binding? ctx name = s.binding? ctx name :=
  w.others ctx name fun heq => h (congrArg Prod.fst heq)

/-- A variable without a place keeps having none if another context is written,
one that does bind it. -/
theorem resolves_none (w : s.Writes s' place name value) {old : Value}
    (hold : s.binding? place name = some old) {found : Option ContextRef}
    (h : Resolves s name ctx found) (hfound : found = none) : Resolves s' name ctx none := by
  have hkeep : ∀ {ctx}, s.binding? ctx name = none → s'.binding? ctx name = none := by
    intro ctx hown
    have hne : ctx ≠ place := fun heq => by rw [heq, hold] at hown; cases hown
    rw [w.binding_of_ne hne, hown]
  induction h with
  | own => cases hfound
  | table hctx hown =>
      obtain ⟨_, hctx'⟩ := w.vars hctx
      exact .table hctx' (hkeep hown)
  | caller => cases hfound
  | uncaptured hctx hown _ ih =>
      obtain ⟨_, hctx'⟩ := w.frame hctx
      exact .uncaptured hctx' (hkeep hown) (ih rfl)
  | captured hctx hown _ _ ihparent ihouter =>
      obtain ⟨_, hctx'⟩ := w.frame hctx
      exact .captured hctx' (hkeep hown) (ihparent rfl) (ihouter hfound)

/-- A variable keeps the place that is written. -/
theorem resolves_some (w : s.Writes s' place name value) {old : Value}
    (hold : s.binding? place name = some old) {found : Option ContextRef}
    (h : Resolves s name ctx found) (hfound : found = some place) :
    Resolves s' name ctx (some place) := by
  induction h with
  | own =>
      cases hfound
      exact .own w.binding
  | table => cases hfound
  | @caller ctx parent _ _ _ hctx hown _ ih =>
      by_cases hplace : ctx = place
      · subst hplace
        exact .own w.binding
      · obtain ⟨_, hctx'⟩ := w.frame hctx
        exact .caller hctx' ((w.binding_of_ne hplace).trans hown) (ih hfound)
  | uncaptured => cases hfound
  | @captured ctx parent outer _ _ hctx hown hparent _ _ ih =>
      by_cases hplace : ctx = place
      · subst hplace
        exact .own w.binding
      · -- the caller does not come to know the variable: what is written was bound before
        obtain ⟨_, hctx'⟩ := w.frame hctx
        exact .captured hctx' ((w.binding_of_ne hplace).trans hown)
          (w.resolves_none hold hparent rfl) (ih hfound)

/-- A variable without a place gets the table at the end of the callers for one. -/
theorem resolves_root (w : s.Writes s' place name value) (hroot : Root s ctx place)
    (h : Resolves s name ctx none) : Resolves s' name ctx (some place) := by
  induction hroot with
  | table => exact .own w.binding
  | @frame ctx parent root _ _ hctx _ ih =>
      by_cases hplace : ctx = root
      · subst hplace
        exact .own w.binding
      · obtain ⟨_, hctx'⟩ := w.frame hctx
        have hparent : s.binding? ctx name = none ∧ Resolves s name parent none := by
          cases h with
          | table htable => rw [hctx] at htable; cases htable
          | uncaptured hframe hown hparent =>
              rw [hctx] at hframe
              cases hframe
              exact ⟨hown, hparent⟩
          | captured hframe hown hparent =>
              rw [hctx] at hframe
              cases hframe
              exact ⟨hown, hparent⟩
        exact .caller hctx' ((w.binding_of_ne hplace).trans hparent.1) (ih w hparent.2)

/-- A variable that has the written place is found there. -/
theorem lookup_eq (w : s.Writes s' place name value) (m : Members) (hg : Grounded s ctx)
    (h : Resolves s' name ctx (some place)) : lookup m s' ctx name = some value :=
  (h.lookup_eq m (w.grounded hg)).trans w.binding

end Store.Writes

namespace ContextRef

/-- **Lookup, query, assignment and declaration agree** about every variable of every
context over tables.  A context has the variables that it finds a value for.
The variable has one place, if any, and is found there; an assignment changes the
binding at its place, or that of the one table at the end of the callers if it has
none, and nothing else; a declaration changes the context's own binding and nothing
else.  After either the variable is found with the value that was written. -/
theorem resolution_agrees (m : Members) {s : Store} {ctx : ContextRef} (h : Grounded s ctx)
    (name : String) (value : Value) :
    has m s ctx name = (lookup m s ctx name).isSome ∧
    (∃! found, Resolves s name ctx found) ∧ (∃! root, Root s ctx root) ∧
    (∀ found root, Resolves s name ctx found → Root s ctx root →
      lookup m s ctx name = found.bind (s.binding? · name) ∧
      found.isSome = (lookup m s ctx name).isSome ∧
      ∃ s', ctx.assign m name value s = .ok () s' ∧
        s.Writes s' (found.getD root) name value ∧ lookup m s' ctx name = some value) ∧
    ∃ s', ctx.declare m name value s = .ok () s' ∧
      s.Writes s' ctx name value ∧ lookup m s' ctx name = some value := by
  have hsome : ∀ {found}, Resolves s name ctx found →
      found.isSome = (lookup m s ctx name).isSome := by
    intro found hfound
    rw [hfound.lookup_eq m h]
    cases found with
    | none => rfl
    | some place =>
        obtain ⟨-, old, hold⟩ := hfound.place h place rfl
        rw [Option.bind_some, hold]
        rfl
  obtain ⟨place, hplace⟩ := h.exists_resolves name
  obtain ⟨table, htable⟩ := h.exists_root
  refine ⟨(hplace.has_eq m h).trans (hsome hplace), ⟨place, hplace, fun _ h' => h'.unique hplace⟩,
    ⟨table, htable, fun _ h' => h'.unique htable⟩, fun found root hfound hroot => ?_, ?_⟩
  · have hgrounded : Grounded s (found.getD root) := by
      cases found with
      | none => exact hroot.grounded h
      | some place => exact (hfound.place h place rfl).1
    obtain ⟨s', hwrite, w⟩ := hgrounded.write_eq m name value
    refine ⟨hfound.lookup_eq m h, hsome hfound, s', ?_, w, w.lookup_eq m h ?_⟩
    · rw [assign_eq, hfound.holder_eq m h hroot, hwrite]
    · cases found with
      | none => exact w.resolves_root hroot hfound
      | some place =>
          obtain ⟨-, old, hold⟩ := hfound.place h place rfl
          exact w.resolves_some hold hfound rfl
  · obtain ⟨s', hwrite, w⟩ := h.write_eq m name value
    exact ⟨s', hwrite, w, w.lookup_eq m h (.own w.binding)⟩

/-- A frame over a table without the variable, which captured a table that has it:
the assignment goes to the captured table. -/
theorem assign_captured_agrees :
    let s : Store := { Store.empty with
      contexts := #[.vars .empty none, .vars (.ofList [("c", .bool false)]) none,
        .frame .empty ⟨0⟩ (some ⟨1⟩)] }
    Grounded s ⟨2⟩ ∧
      ∃ s', assign default ⟨2⟩ "c" (.bool true) s = .ok () s' ∧
        s.Writes s' ⟨1⟩ "c" (.bool true) ∧ lookup default s' ⟨2⟩ "c" = some (.bool true) := by
  intro s
  have hcaller : s.context ⟨0⟩ = .vars .empty none := rfl
  have hcaptured : s.context ⟨1⟩ = .vars (.ofList [("c", .bool false)]) none := rfl
  have hframe : s.context ⟨2⟩ = .frame .empty ⟨0⟩ (some ⟨1⟩) := rfl
  have hgrounded : Grounded s ⟨2⟩ := by
    refine .frame (by decide) hframe (by decide) (.table (by decide) hcaller) ?_ ?_
    · rintro outer ⟨⟩
      decide
    · rintro outer ⟨⟩
      exact .table (by decide) hcaptured
  have hfound : Resolves s "c" ⟨2⟩ (some ⟨1⟩) :=
    .captured hframe rfl (.table hcaller rfl) (.own rfl)
  have hroot : Root s ⟨2⟩ ⟨0⟩ := .frame hframe (.table hcaller)
  obtain ⟨-, -, -, hassign, -⟩ := resolution_agrees default hgrounded "c" (.bool true)
  exact ⟨hgrounded, (hassign _ _ hfound hroot).2.2⟩

end ContextRef

end ScriptEngine

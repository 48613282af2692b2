import ScriptEngine.Engine
import ScriptEngine.Proofs.Gating
import ScriptEngine.Proofs.Preservation

/-!
# Programs that only read

Without assignments, declarations and calls of methods and constructors a program has no
form of node left that writes to the store, apart from one: a loop over a value that does not
declare its variable assigns it.  So it changes the variables of such loops, and beyond that
it makes new arrays, maps and frames and leaves alone what was there.

* `Store.Spares` — a later store, in which only some variables have changed;
* `Members.Does.spares` — actions that do not write spare the store;
* `Features.ReadOnly`, `Node.AssignsInLoop` — the features, and the variables that are
  changed all the same;
* `Engine.execute_reads_only` — a whole run.
-/

namespace ScriptEngine

/-! ## Sparing the store -/

/-- **A later store in which nothing has changed** but for the variables named: the arrays
and maps of the earlier store are as they were, and so are its contexts, apart from what they
bind these variables to. -/
structure Store.Spares (names : String → Prop) (s s' : Store) : Prop extends s.Extends s' where
  arrays : s.arrays.size ≤ s'.arrays.size
  maps : s.maps.size ≤ s'.maps.size
  items : ∀ ref : ArrayRef, ref.index < s.arrays.size → s'.items ref = s.items ref
  entries : ∀ ref : MapRef, ref.index < s.maps.size → s'.entries ref = s.entries ref
  binding : ∀ ctx : ContextRef, ctx.index < s.contexts.size → ∀ name, ¬names name →
    s'.binding? ctx name = s.binding? ctx name

namespace Store.Spares

variable {names : String → Prop} {s s' s'' : Store}

theorem refl (s : Store) : s.Spares names s :=
  ⟨.refl s, Nat.le_refl _, Nat.le_refl _, fun _ _ => rfl, fun _ _ => rfl, fun _ _ _ _ => rfl⟩

theorem trans (h : s.Spares names s') (h' : s'.Spares names s'') : s.Spares names s'' where
  toExtends := h.toExtends.trans h'.toExtends
  arrays := Nat.le_trans h.arrays h'.arrays
  maps := Nat.le_trans h.maps h'.maps
  items ref href := (h'.items ref (Nat.lt_of_lt_of_le href h.arrays)).trans (h.items ref href)
  entries ref href := (h'.entries ref (Nat.lt_of_lt_of_le href h.maps)).trans (h.entries ref href)
  binding ctx hctx name hname :=
    (h'.binding ctx (Nat.lt_of_lt_of_le hctx h.size) name hname).trans
      (h.binding ctx hctx name hname)

theorem newArray (s : Store) (items : Array Value) : s.Spares names (s.newArray items).2 where
  toExtends := .of_contexts rfl
  arrays := by simp [Store.newArray]
  maps := Nat.le_refl _
  items ref href := by
    simp only [Store.newArray, Store.items, Array.getD_eq_getD_getElem?,
      Array.getElem?_push_lt href, Array.getElem?_eq_getElem href]
  entries _ _ := rfl
  binding _ _ _ _ := rfl

theorem newMap (s : Store) (entries : OrderedMap Value) :
    s.Spares names (s.newMap entries).2 where
  toExtends := .of_contexts rfl
  arrays := Nat.le_refl _
  maps := by simp [Store.newMap]
  items _ _ := rfl
  entries ref href := by
    simp only [Store.newMap, Store.entries, Array.getD_eq_getD_getElem?,
      Array.getElem?_push_lt href, Array.getElem?_eq_getElem href]
  binding _ _ _ _ := rfl

theorem newContext (s : Store) (context : Context) :
    s.Spares names (s.newContext context).2 where
  toExtends := .newContext s context
  arrays := Nat.le_refl _
  maps := Nat.le_refl _
  items _ _ := rfl
  entries _ _ := rfl
  binding ctx hctx _ _ := by
    rw [Store.binding?, ContextRef.context_newContext_of_lt context hctx]
    rfl

/-- Writing one of the variables named. -/
theorem bind (s : Store) (place : ContextRef) {name : String} (hname : names name)
    (value : Value) : s.Spares names (s.modifyBindings place fun b => b.insert name value) where
  toExtends := .modifyBindings s place _
  arrays := Nat.le_refl _
  maps := Nat.le_refl _
  items _ _ := rfl
  entries _ _ := rfl
  binding ctx hctx other hother := by
    have hne : other ≠ name := fun heq => hother (heq ▸ hname)
    simp only [Store.binding?, Store.modifyBindings, Store.context, Array.getD_eq_getD_getElem?,
      Array.getElem?_modify, Array.getElem?_eq_getElem hctx]
    split
    · simp only [Option.map_some, Option.getD_some]
      cases s.contexts[ctx.index] with
      | vars b _ => exact b.find_insert_of_ne hne
      | frame b _ _ => exact b.find_insert_of_ne hne
      | members _ _ => rfl
    · rfl

end Store.Spares

/-! ## Actions -/

/-- What an action does that starts by looking at the store. -/
theorem Action.after_get {α : Type} (next : Store → Action α) (s : Store) :
    Action.after (get >>= next) s = Action.after (next s) s := rfl

/-- Reading a place changes nothing. -/
theorem Place.after_read (place : Place) (base : Value) (s : Store) :
    Action.after (place.read base) s = s := by
  rw [Place.read, Action.after_get]
  split
  · rfl
  · dsimp only
    split <;> rfl
  · split <;> rfl
  all_goals rfl

namespace Members

variable {m : Members} {names : String → Prop}

/-- The properties that are computed are sizes and emptinesses. -/
theorem computed_of_readable {s : Store} {base : Value} {name : String} {builtin : Builtin}
    (h : m.readable? s base name = some (.computed builtin)) :
    builtin = .size ∨ builtin = .isEmpty := by
  have hcomputed : (Builtin.ofProperty? name).map Property.computed = some (.computed builtin) →
      builtin = .size ∨ builtin = .isEmpty := by
    unfold Builtin.ofProperty?
    split <;> simp +contextual [eq_comm]
  unfold readable? at h
  split at h
  · split at h
    · split at h
      · cases h
      · rename_i ref hmissing
        cases hof : Builtin.ofProperty? name with
        | none => rw [hof] at h; cases h
        | some b => rw [hof] at h; exact hcomputed (hof ▸ h)
    · split at h
      · cases h
      · exact hcomputed h
    · exact hcomputed h
    · split at h <;> cases h
    · cases h
  · cases h

/-- Reading a property changes nothing: what is computed is a size or an emptiness. -/
theorem after_readProperty (base : Value) (name : String) (s : Store) :
    Action.after (m.readProperty base name) s = s := by
  rw [readProperty, Action.after_get]
  split
  · rename_i property hproperty
    cases property with
    | stored place => exact place.after_read base s
    | computed builtin =>
        rcases computed_of_readable hproperty with rfl | rfl <;> cases base <;> rfl
  · rfl

/-- **What evaluations do without writing** spares the store. -/
theorem Does.spares {α : Type} {action : Action α} (h : m.Does False action) (s : Store) :
    s.Spares names (Action.after action s) := by
  cases h with
  | look f => exact .refl s
  | newArray items => exact .newArray s items
  | newMap entries => exact .newMap s entries
  | newFrame bindings parent captured => exact .newContext s _
  | readProperty base name =>
      rw [after_readProperty]
      exact .refl s
  | declare _ _ _ hfalse | assign _ _ _ hfalse | writeProperty _ _ _ hfalse
  | method _ _ _ hfalse => exact hfalse.elim
  | construct _ _ hfalse => exact hfalse.elim

end Members

/-! ## Assignments of loops -/

namespace Territory

variable {t : Territory} {s : Store}

/-- The contexts of a territory are tables and frames. -/
def Tabular (t : Territory) (s : Store) : Prop :=
  ∀ ctx, t.contexts ctx → ∀ object permissions, s.context ctx ≠ .members object permissions

/-- A change of anything else leaves the contexts as they are. -/
theorem Tabular.of_contexts {s' : Store} (h : t.Tabular s) (hsame : s'.contexts = s.contexts) :
    t.Tabular s' := by
  intro ctx hctx
  rw [show s'.context ctx = s.context ctx by rw [Store.context, Store.context, hsame]]
  exact h ctx hctx

theorem Tabular.newFrame (h : t.Tabular s) (bindings : OrderedMap Value) (parent : ContextRef)
    (captured : Option ContextRef) :
    t.Tabular (s.newContext (.frame bindings parent captured)).2 := by
  intro ctx hctx object permissions
  have hold := h ctx hctx object permissions
  simp only [Store.newContext, Store.context, Array.getD_eq_getD_getElem?,
    Array.getElem?_push] at hold ⊢
  split
  · simp
  · exact hold

theorem Tabular.modifyBindings (h : t.Tabular s) (place : ContextRef)
    (f : OrderedMap Value → OrderedMap Value) : t.Tabular (s.modifyBindings place f) := by
  intro ctx hctx object permissions
  have hold := h ctx hctx object permissions
  simp only [Store.modifyBindings, Store.context, Array.getD_eq_getD_getElem?,
    Array.getElem?_modify] at hold ⊢
  split
  · cases hget : s.contexts[ctx.index]? with
    | none => simp
    | some context =>
        rw [hget] at hold
        cases context with
        | members _ _ => exact hold
        | _ => simp
  · exact hold

/-- What evaluations do without writing makes no context of members. -/
theorem Tabular.does {m : Members} {α : Type} {action : Action α} (hdoes : m.Does False action)
    (h : t.Tabular s) : t.Tabular (Action.after action s) := by
  cases hdoes with
  | look f => exact h
  | newArray items => exact h.of_contexts rfl
  | newMap entries => exact h.of_contexts rfl
  | newFrame bindings parent captured => exact h.newFrame bindings parent captured
  | readProperty base name =>
      rw [Members.after_readProperty]
      exact h
  | declare _ _ _ hfalse | assign _ _ _ hfalse | writeProperty _ _ _ hfalse
  | method _ _ _ hfalse => exact hfalse.elim
  | construct _ _ hfalse => exact hfalse.elim

/-- An assignment changes a binding of a table or a frame. -/
theorem Tabular.assign_eq (h : t.Tabular s) (hs : t.Closed s) (m : Members) {ctx : ContextRef}
    (hctx : t.contexts ctx) (name : String) (value : Value) :
    ∃ place, ctx.assign m name value s =
      .ok () (s.modifyBindings place fun b => b.insert name value) := by
  refine ⟨ctx.holder m s name, ?_⟩
  have hplace : ∀ object permissions,
      s.context (ctx.holder m s name) ≠ .members object permissions := h _ (contexts_holder hs hctx)
  rw [ContextRef.assign_eq, ContextRef.write, ContextRef.get_bind]
  cases hcontext : s.context (ctx.holder m s name) with
  | members object permissions => exact absurd hcontext (hplace _ _)
  | vars _ _ => rfl
  | frame _ _ _ => rfl

end Territory

/-! ## Programs that only read -/

/-- The variables that a tree assigns in loops over values which do not declare them. -/
def Node.AssignsInLoop (tree : Node) (name : String) : Prop :=
  ∃ span iterable body, (foreach span name false iterable body).Within tree

/-- Features without those of assignments, declarations and calls of methods and
constructors. -/
def Features.ReadOnly (F : Features) : Prop :=
  ∀ f ∈ [.sideEffect, .localVar, .methodCall, .newInstance], F.has f = false

/-- No form of node that writes is left without these features. -/
theorem Features.ReadOnly.writes_eq_false {F : Features} (h : F.ReadOnly) {tree node : Node}
    (htree : tree.NeedsOnly F) (hnode : node.Within tree) : node.writes = false := by
  have hno : ∀ f ∈ node.needs, f ∉ [.sideEffect, .localVar, .methodCall, .newInstance] :=
    fun f hf hmem => Bool.false_ne_true ((h f hmem).symm.trans (htree node hnode f hf))
  cases node with
  | foreach span name declared iterable body =>
      cases declared with
      | true => exact (hno .localVar (by simp [Node.needs]) (by simp)).elim
      | false => rfl
  | assign => exact (hno .sideEffect (by simp [Node.needs]) (by simp)).elim
  | var => exact (hno .localVar (by simp [Node.needs]) (by simp)).elim
  | methodCall => exact (hno .methodCall (by simp [Node.needs]) (by simp)).elim
  | construct => exact (hno .newInstance (by simp [Node.needs]) (by simp)).elim
  | _ => rfl

section Runs

variable {tree : Node} (hreads : ∀ node : Node, node.Within tree → node.writes = false)
variable (s : Store) (root : ContextRef) (held : Value → Prop)

/-- **The discipline of a program that only reads**: the code is its own, with what can be
reached from a context. -/
def Node.reading : Discipline :=
  { Territory.reachedFrom s root held (·.Within tree) (fun _ => True) (fun _ => trivial) with
    code := fun _ node => node.Within tree
    exits := fun _ => True
    code_place := fun h hplace =>
      (Node.Within.part (Node.mem_children_of_mem_places hplace) .here).trans h
    code_body := fun h => h
    functions_lambda := fun h => (Node.Within.part (by simp [Node.children]) .here).trans h
    code_break := fun _ => trivial
    code_continue := fun _ => trivial
    exits_cause := fun _ _ _ => trivial
    code_target := fun _ => .inr trivial
    cancelled := trivial
    writes := False
    code_writes := fun hcode hwrites => Bool.false_ne_true ((hreads _ hcode).symm.trans hwrites)
    loopVariables := tree.AssignsInLoop
    code_foreach := fun h => ⟨_, _, _, h⟩ }

/-- What only reads spares the store, but for the variables of its loops, by what each
action does. -/
theorem Semantics.maintains_reading (rules : Semantics) :
    rules.Maintains (Node.reading hreads s root held)
      fun s' => (Node.reading hreads s root held).Tabular s' ∧ s.Spares tree.AssignsInLoop s' where
  contains hfalse := hfalse.elim
  does hdoes s' _ hinv := ⟨hinv.1.does hdoes, hinv.2.trans (hdoes.spares s')⟩
  assign {ctx name value} hname hctx hvalue := by
    rintro ⟨s', o, d⟩ hs ⟨htabular, hspares⟩
    obtain ⟨place, hassign⟩ := htabular.assign_eq hs rules.members hctx name value
    unfold Eval.act
    dsimp only
    rw [hassign]
    exact .ok trivial (hs.bind hvalue)
      ⟨htabular.modifyBindings place _, hspares.trans (.bind s' place hname value)⟩

variable {s root held}
variable (hplain : ∀ closure : Closure Value, ¬s.Reaches root held (.function closure))

include hplain

/-- Values that can be reached belong to the discipline, if they are no functions. -/
theorem Node.holds_reading {v : Value} (hv : s.Reaches root held v) :
    (Node.reading hreads s root held).Holds v :=
  @Territory.holds_of_reaches _ _ _ _ _ (fun _ => trivial) (fun c h => (hplain c h).elim) v hv

theorem Node.closed_reading : (Node.reading hreads s root held).Closed s :=
  @Territory.closed_reachedFrom _ _ _ _ _ (fun _ => trivial) fun c h => (hplain c h).elim

/-- What can be reached from a table is data, if no function can be reached. -/
theorem Store.isData_of_plain (hlinks : (s.context root).links = []) :
    s.IsData root held (s.Reaches root held) where
  noLink := hlinks
  held _ := .held
  values _ := .value .root
  parts _ hv _ := .part hv
  noExit v hv := by
    cases v with
    | function closure => exact (hplain closure hv).elim
    | _ => rfl

/-- The contexts of a program that only reads are tables and frames: at first there is but
one table, and places not yet in use count as tables. -/
theorem Node.tabular_reading {bindings : OrderedMap Value} {token : Option TokenRef}
    (hroot : s.context root = .vars bindings token) :
    (Node.reading hreads s root held).Tabular s := by
  rintro ctx (hctx | hctx) object permissions
  · have hlinks : (s.context root).links = [] := by
      rw [hroot]
      rfl
    rw [(Store.isData_of_plain hplain hlinks).eq_root hctx, hroot]
    exact nofun
  · rw [Store.context, Array.getD_eq_getD_getElem?, Array.getElem?_eq_none hctx]
    rintro ⟨⟩

end Runs

/-- What a source is compiled to has the tree that was read for its body. -/
theorem Source.tree_of_compile {source : Source} {dialect : Dialect} {code : Lambda}
    (h : source.compile dialect = .ok code) : source.tree dialect = .ok code.body := by
  rw [compile] at h
  cases htree : source.tree dialect with
  | ok tree =>
      rw [htree] at h
      cases h
      rfl
  | error fault =>
      rw [htree] at h
      cases h

/-- **Programs that only read.**  A script is read with features that have no assignments, no
declarations and no calls of methods and constructors, and is run in a table of variables,
with arguments.  No function can be reached from the variables and the arguments.  Then, however
the run ends, every array and every map that was there before is as it was, and so are the
variables of the table, apart from those that the script has as the variables of loops which
do not declare them. -/
theorem Engine.execute_reads_only (e : Engine) {F : Features} (hfeatures : F.ReadOnly)
    {unit : Nat} {text : String} {params : List String} {code : Lambda}
    (hcode : (Source.ofScript text params).compile ⟨F, unit⟩ = .ok code) {args : List Value}
    {ctx : ContextRef} {s : Store} {bindings : OrderedMap Value} {token : Option TokenRef}
    (hin : ctx.index < s.contexts.size) (hctx : s.context ctx = .vars bindings token)
    (hplain : ∀ closure : Closure Value, ¬s.Reaches ctx (· ∈ args) (.function closure)) :
    let s' := (e.execute ⟨text, .ofLambda code none⟩ args ctx s).2
    (∀ ref : ArrayRef, ref.index < s.arrays.size → s'.items ref = s.items ref) ∧
    (∀ ref : MapRef, ref.index < s.maps.size → s'.entries ref = s.entries ref) ∧
    ∃ bindings', s'.context ctx = .vars bindings' token ∧
      ∀ name, ¬code.body.AssignsInLoop name → bindings'.find? name = bindings.find? name := by
  intro s'
  have hspares : s.Spares code.body.AssignsInLoop s' := by
    have hneeds : code.body.NeedsOnly F := by
      have htree := Source.tree_of_compile hcode
      rw [Source.tree_eq_read] at htree
      exact SourceKind.needsOnly_read htree
    have hreads := fun (node : Node) (hnode : node.Within code.body) =>
      hfeatures.writes_eq_false hneeds hnode
    have hfunction : (Node.reading hreads s ctx (· ∈ args)).Holds
        (.function (.ofLambda code none)) := .function .here nofun nofun
    have hargs := fun v (hv : v ∈ args) => Node.holds_reading hreads hplain (.held hv)
    exact (Semantics.inv_of_call (Semantics.maintains_reading hreads s ctx (· ∈ args) e.rules)
      (.inl .root) hfunction hargs (Node.closed_reading hreads hplain)
      ⟨Node.tabular_reading hreads hplain hctx, .refl s⟩).2
  refine ⟨hspares.items, hspares.entries, ?_⟩
  have hbare := hspares.bare ctx hin
  have hbinding := hspares.binding ctx hin
  unfold Store.binding? at hbinding
  rw [hctx] at hbare hbinding
  cases hctx' : s'.context ctx with
  | vars bindings' token' =>
      rw [hctx'] at hbare hbinding
      cases hbare
      exact ⟨bindings', rfl, hbinding⟩
  | frame _ _ _ =>
      rw [hctx'] at hbare
      cases hbare
  | members _ _ =>
      rw [hctx'] at hbare
      cases hbare

/-- A loop over an array assigns its variable; the array and the other variable are left. -/
theorem Engine.execute_reads_only_loop :
    let s : Store :=
      { Store.empty with
        arrays := #[#[.number 1, .number 2]]
        contexts := #[.vars (.ofList [("a", .array ⟨0⟩), ("x", .nil), ("y", .nil)]) none] }
    let body : Node := .script ⟨0, 14⟩ [.foreach ⟨0, 14⟩ "x" false (.ident ⟨9, 10⟩ "a")
      (.block ⟨12, 14⟩ [])] []
    let s' := (standard.execute ⟨"for (x : a) {}", .ofLambda ⟨⟨0, 0⟩, [], body⟩ none⟩ [] ⟨0⟩ s).2
    s'.items ⟨0⟩ = #[.number 1, .number 2] ∧
      ∃ bindings, s'.context ⟨0⟩ = .vars bindings none ∧ bindings.find? "y" = some .nil := by
  intro s body s'
  have hfeatures : (Features.ofList [.loops, .script]).ReadOnly := by
    simp [Features.ReadOnly, Features.ofList]
  have hcode : (Source.ofScript "for (x : a) {}" []).compile ⟨.ofList [.loops, .script], 0⟩ =
      .ok ⟨⟨0, 0⟩, [], body⟩ := by with_unfolding_all rfl
  have hdata : s.IsData ⟨0⟩ (· ∈ []) fun v => v = .array ⟨0⟩ ∨ v = .nil ∨ ∃ n, v = .number n := by
    refine ⟨rfl, nofun, fun v hv => ?_, ?_, ?_⟩
    · have hvalues : v ∈ [Value.array ⟨0⟩, .nil, .nil] := hv
      rcases List.mem_cons.mp hvalues with hv | hv
      · exact .inl hv
      · exact .inr (.inl (by simpa using hv))
    · rintro v (rfl | rfl | ⟨n, rfl⟩) w hw
      · have hitems : w ∈ [Value.number 1, .number 2] := hw
        rcases List.mem_pair.mp hitems with rfl | rfl
        · exact .inr (.inr ⟨1, rfl⟩)
        · exact .inr (.inr ⟨2, rfl⟩)
      · cases hw
      · cases hw
    · rintro v (rfl | rfl | ⟨n, rfl⟩) <;> rfl
  have hplain : ∀ closure : Closure Value, ¬s.Reaches ⟨0⟩ (· ∈ []) (.function closure) :=
    fun closure h => by simpa using hdata.of_reaches h
  have hname : ¬body.AssignsInLoop "y" := by
    rintro ⟨span, iterable, inner, hwithin⟩
    simp only [body] at hwithin
    rcases hwithin with _ | ⟨hchild, hwithin⟩
    obtain rfl := List.mem_singleton.mp hchild
    generalize hvar : "y" = var at hwithin
    rcases hwithin with _ | ⟨hchild, hwithin⟩
    · exact absurd hvar (by decide)
    · rcases List.mem_pair.mp hchild with rfl | rfl <;>
      · rcases hwithin with _ | ⟨hchild, -⟩
        cases hchild
  have hin : (⟨0⟩ : ContextRef).index < s.contexts.size := Nat.zero_lt_one
  obtain ⟨hitems, -, bindings, hcontext, hbindings⟩ :=
    execute_reads_only standard hfeatures hcode hin rfl hplain
  exact ⟨hitems ⟨0⟩ Nat.zero_lt_one, bindings, hcontext, hbindings "y" hname⟩

/-- The one form of node that writes without any of the features: a loop over a single value
changes a variable of the embedder, from 0 to 1. -/
theorem Engine.loop_assigns_read_only :
    let F := [.sideEffect, .localVar, .methodCall, .newInstance].foldl Features.erase .standard
    let e : Engine := ofSettings { Settings.standard with features := F }
    let s : Store :=
      { Store.empty with contexts := #[.vars (.ofList [("x", .number 0)]) none] }
    let code : Lambda := ⟨⟨0, 0⟩, [], .script ⟨0, 14⟩
      [.foreach ⟨0, 14⟩ "x" false (.literal ⟨9, 10⟩ (.number 1)) (.block ⟨12, 14⟩ [])] []⟩
    F.ReadOnly ∧ (Source.ofScript "for (x : 1) {}" []).compile ⟨F, 0⟩ = .ok code ∧
      (∀ v, s.Reaches ⟨0⟩ (· ∈ []) v → v = .number 0) ∧
      s.binding? ⟨0⟩ "x" = some (.number 0) ∧
      (e.execute ⟨"for (x : 1) {}", .ofLambda code none⟩ [] ⟨0⟩ s).2.binding? ⟨0⟩ "x" =
        some (.number 1) := by
  refine ⟨by simp [Features.ReadOnly, Features.erase, Features.standard],
    by with_unfolding_all rfl, fun v hv => ?_, by with_unfolding_all rfl,
    by with_unfolding_all rfl⟩
  refine @Store.IsData.of_reaches _ _ _ (· = .number 0) ⟨rfl, nofun, fun v hv => ?_, ?_, ?_⟩ v hv
  · have hvalues : v ∈ [Value.number 0] := hv
    exact List.mem_singleton.mp hvalues
  · rintro v rfl w hw
    cases hw
  · rintro v rfl
    rfl

end ScriptEngine

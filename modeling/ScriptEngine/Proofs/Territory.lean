import ScriptEngine.Context
import ScriptEngine.Proofs.OrderedMap

/-!
# Territories of a store

A territory is a part of a store that programs do not leave: a set of places
together with the bodies that functions in it may have, and the causes for which
actions in it may fail.  A value *belongs* to a territory when everything that it
refers to does, and a store is *closed* over the territory when all that is kept
in its places belongs to it, and new places will.

* `EvalError.Cause.isReserved` — the causes that only the run itself fails for;
* `Territory.Holds`, `Territory.Closed` — values that belong to a territory, and
  stores that are closed over it;
* `Territory.Keeps` — an action that stays in a territory;
* `Store.Reaches` — what can be reached from a context;
* `Store.IsData` — values from which no other context can be reached;
* `Territory.closed_reachedFrom` — what can be reached is closed, with the places not
  yet in use.
-/

namespace ScriptEngine

namespace EvalError.Cause

/-- What tells of an assignment to something that cannot be assigned to, or of a
non-local exit that no construct has caught. -/
def isEscape : Cause → Bool
  | invalidAssignment _ => true
  | custom message => message ∈ ["'break' outside of a loop", "'continue' outside of a loop",
      "'return' outside of a function"]
  | _ => false

/-- The causes that only the run itself fails for, and no operator or member. -/
def isReserved : Cause → Bool
  | stackOverflow _ | cancelled => true
  | cause => cause.isEscape

/-- A message with an `x` in it tells of no exit. -/
theorem isReserved_custom {message : String} (h : 'x' ∈ message.toList) :
    (custom message).isReserved = false := by
  have hne : ∀ other : String, 'x' ∉ other.toList → message ≠ other :=
    fun other hother heq => hother (heq ▸ h)
  simp [isReserved, isEscape, hne _ (by decide : 'x' ∉ "'break' outside of a loop".toList),
    hne _ (by decide : 'x' ∉ "'continue' outside of a loop".toList),
    hne _ (by decide : 'x' ∉ "'return' outside of a function".toList)]

end EvalError.Cause

/-! ## Parts and links -/

/-- The values that a value consists of or gives access to. -/
def Value.parts (s : Store) : Value → List Value
  | .array ref => (s.items ref).toList
  | .map ref => (s.entries ref).values
  | .object ref => (s.host ref).fields.values
  | .function closure => closure.bound
  | _ => []

/-- The context that a value gives access to, if any. -/
def Value.links : Value → List ContextRef
  | .function closure => closure.captured.toList
  | _ => []

/-- The values that a context keeps. -/
def Context.values : Context → List Value
  | .vars bindings _ | .frame bindings .. => bindings.values
  | .members object _ => [object]

/-- The contexts that a context gives access to. -/
def Context.links : Context → List ContextRef
  | .frame _ parent captured => parent :: captured.toList
  | _ => []

/-! ## Territories -/

/-- A set of places, of the bodies that functions may have, and of the causes
for which actions may fail. -/
structure Territory where
  arrays : ArrayRef → Prop
  maps : MapRef → Prop
  hosts : HostRef → Prop
  contexts : ContextRef → Prop
  functions : Node → Prop
  causes : EvalError.Cause → Prop
  /-- Operators and members may always fail. -/
  ordinary : ∀ {cause : EvalError.Cause}, cause.isReserved = false → causes cause

namespace Territory

/-- The values that belong to a territory. -/
inductive Holds (t : Territory) : Value → Prop
  | nil : Holds t .nil
  | bool (value : Bool) : Holds t (.bool value)
  | number (value : Number) : Holds t (.number value)
  | text (value : String) : Holds t (.text value)
  | array {ref : ArrayRef} : t.arrays ref → Holds t (.array ref)
  | map {ref : MapRef} : t.maps ref → Holds t (.map ref)
  | object {ref : HostRef} : t.hosts ref → Holds t (.object ref)
  | function {closure : Closure Value} : t.functions closure.lambda.body →
      (∀ v ∈ closure.bound, Holds t v) → (∀ c ∈ closure.captured, t.contexts c) →
      Holds t (.function closure)

/-- A store in which the places of a territory keep what belongs to it, and in
which places not yet in use are in the territory. -/
structure Closed (t : Territory) (s : Store) : Prop where
  items : ∀ {ref : ArrayRef}, t.arrays ref → ∀ v ∈ s.items ref, t.Holds v
  entries : ∀ {ref : MapRef}, t.maps ref → ∀ v ∈ (s.entries ref).values, t.Holds v
  fields : ∀ {ref : HostRef}, t.hosts ref → ∀ v ∈ (s.host ref).fields.values, t.Holds v
  values : ∀ {ctx : ContextRef}, t.contexts ctx → ∀ v ∈ (s.context ctx).values, t.Holds v
  links : ∀ {ctx : ContextRef}, t.contexts ctx → ∀ other ∈ (s.context ctx).links,
    t.contexts other
  freshArray : ∀ ref : ArrayRef, s.arrays.size ≤ ref.index → t.arrays ref
  freshMap : ∀ ref : MapRef, s.maps.size ≤ ref.index → t.maps ref
  freshHost : ∀ ref : HostRef, s.hosts.size ≤ ref.index → t.hosts ref
  freshContext : ∀ ref : ContextRef, s.contexts.size ≤ ref.index → t.contexts ref

variable {t : Territory} {s : Store}

/-- The territory has the place of an array that belongs to it. -/
theorem Holds.arrays {ref : ArrayRef} (h : t.Holds (.array ref)) : t.arrays ref := by
  cases h with
  | array h => exact h

/-- The territory has the place of a map that belongs to it. -/
theorem Holds.maps {ref : MapRef} (h : t.Holds (.map ref)) : t.maps ref := by
  cases h with
  | map h => exact h

/-- The territory has the place of an object that belongs to it. -/
theorem Holds.hosts {ref : HostRef} (h : t.Holds (.object ref)) : t.hosts ref := by
  cases h with
  | object h => exact h

/-- The territory has the body of a function that belongs to it. -/
theorem Holds.body {closure : Closure Value} (h : t.Holds (.function closure)) :
    t.functions closure.lambda.body := by
  cases h with
  | function h _ _ => exact h

/-- The arguments fixed for a function that belongs to a territory do too. -/
theorem Holds.bound {closure : Closure Value} (h : t.Holds (.function closure)) :
    ∀ v ∈ closure.bound, t.Holds v := by
  cases h with
  | function _ h _ => exact h

/-- The territory has the context captured by a function that belongs to it. -/
theorem Holds.captured {closure : Closure Value} (h : t.Holds (.function closure)) :
    ∀ c ∈ closure.captured, t.contexts c := by
  cases h with
  | function _ _ h => exact h

/-- A function with more arguments fixed belongs to the territory of both. -/
theorem Holds.curry {closure : Closure Value} {args : List Value}
    (h : t.Holds (.function closure)) (hargs : ∀ v ∈ args, t.Holds v) :
    t.Holds (.function (closure.curry args)) := by
  refine .function h.body ?_ h.captured
  intro v hv
  rcases List.mem_append.mp hv with hv | hv
  · exact h.bound v hv
  · exact hargs v hv

/-- The arguments that a call passes belong to the territory of the function and
of the arguments given. -/
theorem Holds.arguments {closure : Closure Value} {args : List Value}
    (h : t.Holds (.function closure)) (hargs : ∀ v ∈ args, t.Holds v) :
    ∀ v ∈ (closure.arguments args).map Prod.snd, t.Holds v := by
  intro v hv
  obtain ⟨⟨name, v⟩, hpair, rfl⟩ := List.mem_map.mp hv
  rcases List.mem_append.mp (List.of_mem_zip hpair).2 with hv | hv
  · rcases List.mem_append.mp hv with hv | hv
    · exact h.bound v hv
    · exact hargs v hv
  · rw [List.eq_of_mem_replicate hv]
    exact .nil

/-! ## Changes of the store -/

/-- A new array of values that belong to a territory is in the territory. -/
theorem Closed.newArray (h : t.Closed s) {items : Array Value} (hitems : ∀ v ∈ items, t.Holds v) :
    t.arrays (s.newArray items).1 ∧ t.Closed (s.newArray items).2 := by
  refine ⟨h.freshArray _ (Nat.le_refl _), { h with items := ?_, freshArray := ?_ }⟩
  · intro ref href v hv
    simp only [Store.newArray, Store.items, Array.getD_eq_getD_getElem?, Array.getElem?_push] at hv
    split at hv
    · exact hitems v hv
    · exact h.items href v (by simpa [Store.items] using hv)
  · intro ref href
    simp only [Store.newArray, Array.size_push] at href
    exact h.freshArray ref (Nat.le_of_succ_le href)

/-- A new map of values that belong to a territory is in the territory. -/
theorem Closed.newMap (h : t.Closed s) {entries : OrderedMap Value}
    (hentries : ∀ v ∈ entries.values, t.Holds v) :
    t.maps (s.newMap entries).1 ∧ t.Closed (s.newMap entries).2 := by
  refine ⟨h.freshMap _ (Nat.le_refl _), { h with entries := ?_, freshMap := ?_ }⟩
  · intro ref href v hv
    simp only [Store.newMap, Store.entries, Array.getD_eq_getD_getElem?, Array.getElem?_push] at hv
    split at hv
    · exact hentries v hv
    · exact h.entries href v (by simpa [Store.entries] using hv)
  · intro ref href
    simp only [Store.newMap, Array.size_push] at href
    exact h.freshMap ref (Nat.le_of_succ_le href)

/-- A new context over values and contexts of a territory is in the territory. -/
theorem Closed.newContext (h : t.Closed s) {context : Context}
    (hvalues : ∀ v ∈ context.values, t.Holds v) (hlinks : ∀ c ∈ context.links, t.contexts c) :
    t.contexts (s.newContext context).1 ∧ t.Closed (s.newContext context).2 := by
  have hcontext : ∀ ref, (s.newContext context).2.context ref = context ∨
      (s.newContext context).2.context ref = s.context ref := by
    intro ref
    simp only [Store.newContext, Store.context, Array.getD_eq_getD_getElem?, Array.getElem?_push]
    split
    · exact .inl rfl
    · exact .inr rfl
  refine ⟨h.freshContext _ (Nat.le_refl _),
    { h with values := ?_, links := ?_, freshContext := ?_ }⟩
  · intro ref href v hv
    rcases hcontext ref with heq | heq <;> rw [heq] at hv
    · exact hvalues v hv
    · exact h.values href v hv
  · intro ref href other hother
    rcases hcontext ref with heq | heq <;> rw [heq] at hother
    · exact hlinks other hother
    · exact h.links href other hother
  · intro ref href
    simp only [Store.newContext, Array.size_push] at href
    exact h.freshContext ref (Nat.le_of_succ_le href)

/-- A change of an array that brings in only values of a territory stays in it. -/
theorem Closed.modifyItems (h : t.Closed s) {ref : ArrayRef} {f : Array Value → Array Value}
    (hf : ∀ items : Array Value, (∀ v ∈ items, t.Holds v) → ∀ v ∈ f items, t.Holds v) :
    t.Closed (s.modifyItems ref f) := by
  refine { h with items := ?_, freshArray := ?_ }
  · intro other hother v hv
    have hold := h.items hother
    simp only [Store.modifyItems, Store.items, Array.getD_eq_getD_getElem?,
      Array.getElem?_modify] at hv hold
    split at hv
    · cases hget : s.arrays[other.index]? with
      | none => simp [hget] at hv
      | some items =>
          rw [hget] at hv hold
          exact hf items hold v hv
    · exact hold v hv
  · intro other hother
    simp only [Store.modifyItems, Array.size_modify] at hother
    exact h.freshArray other hother

/-- A change of a map that brings in only values of a territory stays in it. -/
theorem Closed.modifyEntries (h : t.Closed s) {ref : MapRef}
    {f : OrderedMap Value → OrderedMap Value}
    (hf : ∀ m : OrderedMap Value, (∀ v ∈ m.values, t.Holds v) → ∀ v ∈ (f m).values, t.Holds v) :
    t.Closed (s.modifyEntries ref f) := by
  refine { h with entries := ?_, freshMap := ?_ }
  · intro other hother v hv
    have hold := h.entries hother
    simp only [Store.modifyEntries, Store.entries, Array.getD_eq_getD_getElem?,
      Array.getElem?_modify] at hv hold
    split at hv
    · cases hget : s.maps[other.index]? with
      | none => simp [hget, OrderedMap.values, OrderedMap.empty] at hv
      | some entries =>
          rw [hget] at hv hold
          exact hf entries hold v hv
    · exact hold v hv
  · intro other hother
    simp only [Store.modifyEntries, Array.size_modify] at hother
    exact h.freshMap other hother

/-- Writing a binding of a context with a value of a territory stays in it. -/
theorem Closed.bind (h : t.Closed s) {ref : ContextRef} {name : String} {value : Value}
    (hvalue : t.Holds value) : t.Closed (s.modifyBindings ref fun b => b.insert name value) := by
  have hinsert : ∀ b : OrderedMap Value, (∀ v ∈ b.values, t.Holds v) →
      ∀ v ∈ (b.insert name value).values, t.Holds v := by
    intro b hb v hv
    rcases OrderedMap.mem_values_insert hv with rfl | hv
    · exact hvalue
    · exact hb v hv
  refine { h with values := ?_, links := ?_, freshContext := ?_ }
  · intro other hother v hv
    have hold := h.values hother
    simp only [Store.modifyBindings, Store.context, Array.getD_eq_getD_getElem?,
      Array.getElem?_modify] at hv hold
    split at hv
    · cases hget : s.contexts[other.index]? with
      | none => simp [hget, Context.values, OrderedMap.values, OrderedMap.empty] at hv
      | some context =>
          rw [hget] at hv hold
          cases context with
          | vars b _ => exact hinsert b hold v hv
          | frame b _ _ => exact hinsert b hold v hv
          | members _ _ => exact hold v hv
    · exact hold v hv
  · intro other hother link hlink
    have hold := h.links hother
    simp only [Store.modifyBindings, Store.context, Array.getD_eq_getD_getElem?,
      Array.getElem?_modify] at hlink hold
    split at hlink
    · cases hget : s.contexts[other.index]? with
      | none => simp [hget, Context.links] at hlink
      | some context =>
          rw [hget] at hlink hold
          cases context with
          | vars _ _ => exact hold link hlink
          | frame _ _ _ => exact hold link hlink
          | members _ _ => exact hold link hlink
    · exact hold link hlink
  · intro other hother
    simp only [Store.modifyBindings, Array.size_modify] at hother
    exact h.freshContext other hother

/-! ## Actions -/

/-- **Staying in a territory.**  From a store closed over the territory the action
leaves one, whether it fails or not; what it yields satisfies `holds`, and it fails
for causes of the territory only. -/
def Keeps {α : Type} (t : Territory) (holds : α → Prop) (action : Action α) : Prop :=
  ∀ s, t.Closed s →
    match action s with
    | .ok result s' => holds result ∧ t.Closed s'
    | .error e s' => t.causes e.cause ∧ t.Closed s'

variable {α β : Type} {holds : α → Prop} {holds' : β → Prop}

/-- Yielding a result changes nothing. -/
theorem keeps_pure {a : α} (h : holds a) : t.Keeps holds (pure a) :=
  fun _ hs => ⟨h, hs⟩

/-- Failing changes nothing. -/
theorem keeps_throw {e : EvalError} (h : t.causes e.cause) : t.Keeps holds (throw e) :=
  fun _ hs => ⟨h, hs⟩

/-- Failing as operators and members do. -/
theorem keeps_fail {cause : EvalError.Cause} (h : cause.isReserved = false) :
    t.Keeps holds (throw (.ofCause cause)) :=
  keeps_throw (t.ordinary h)

/-- One action after another stays in a territory if both do. -/
theorem keeps_bind {action : Action α} {next : α → Action β} (h : t.Keeps holds action)
    (hnext : ∀ a, holds a → t.Keeps holds' (next a)) : t.Keeps holds' (action >>= next) := by
  intro s hs
  have haction := h s hs
  show match EStateM.bind action next s with
    | .ok result s' => holds' result ∧ t.Closed s'
    | .error e s' => t.causes e.cause ∧ t.Closed s'
  unfold EStateM.bind
  cases hresult : action s with
  | ok a s' =>
      rw [hresult] at haction
      exact hnext a haction.1 s' haction.2
  | error e s' =>
      rw [hresult] at haction
      exact haction

/-- An action that looks at the store sees one that is closed. -/
theorem keeps_get {next : Store → Action β} (h : ∀ s, t.Closed s → t.Keeps holds' (next s)) :
    t.Keeps holds' (get >>= next) :=
  keeps_bind (fun _ hs => ⟨hs, hs⟩) h

/-- Changing the store stays in a territory if the change does. -/
theorem keeps_modify {f : Store → Store} (h : ∀ s, t.Closed s → t.Closed (f s)) :
    t.Keeps (fun _ => True) (modify f : Action Unit) :=
  fun s hs => ⟨trivial, h s hs⟩

end Territory

/-! ## What can be reached -/

mutual

/-- The values that can be reached from a context, or from the values `held`
that the embedder's own code holds on to. -/
inductive Store.Reaches (s : Store) (root : ContextRef) (held : Value → Prop) : Value → Prop
  | held {v : Value} : held v → Store.Reaches s root held v
  | value {ctx : ContextRef} {v : Value} : Store.ReachesContext s root held ctx →
      v ∈ (s.context ctx).values → Store.Reaches s root held v
  | part {v w : Value} : Store.Reaches s root held v → w ∈ v.parts s → Store.Reaches s root held w

/-- The contexts that can be reached from a context, or from the values `held`
that the embedder's own code holds on to. -/
inductive Store.ReachesContext (s : Store) (root : ContextRef) (held : Value → Prop) :
    ContextRef → Prop
  | root : Store.ReachesContext s root held root
  | link {ctx other : ContextRef} : Store.ReachesContext s root held ctx →
      other ∈ (s.context ctx).links → Store.ReachesContext s root held other
  | captured {v : Value} {ctx : ContextRef} : Store.Reaches s root held v → ctx ∈ v.links →
      Store.ReachesContext s root held ctx

end

/-- **Values without ways out**: those that a context without links keeps, those held on to,
and all that they consist of.  None of them gives access to a context. -/
structure Store.IsData (s : Store) (root : ContextRef) (held data : Value → Prop) : Prop where
  noLink : (s.context root).links = []
  held : ∀ v, held v → data v
  values : ∀ v ∈ (s.context root).values, data v
  parts : ∀ v, data v → ∀ w ∈ v.parts s, data w
  noExit : ∀ v, data v → v.links = []

mutual

/-- Nothing else can be reached. -/
theorem Store.IsData.of_reaches {s : Store} {root : ContextRef} {held data : Value → Prop}
    (h : s.IsData root held data) {v : Value} : s.Reaches root held v → data v
  | .held hv => h.held v hv
  | .value hctx hv => h.values v (h.eq_root hctx ▸ hv)
  | .part hv hw => h.parts _ (h.of_reaches hv) _ hw

/-- No other context can be reached. -/
theorem Store.IsData.eq_root {s : Store} {root : ContextRef} {held data : Value → Prop}
    (h : s.IsData root held data) {ctx : ContextRef} : s.ReachesContext root held ctx → ctx = root
  | .root => rfl
  | .link hctx hother => by
      rw [h.eq_root hctx, h.noLink] at hother
      cases hother
  | .captured hv hctx => by
      rw [h.noExit _ (h.of_reaches hv)] at hctx
      cases hctx

end

/-- From a context without values and links nothing can be reached, if nothing is held
on to. -/
theorem Store.not_reaches_of_bare {s : Store} {root : ContextRef}
    (hvalues : (s.context root).values = []) (hlinks : (s.context root).links = []) {v : Value} :
    ¬s.Reaches root (fun _ => False) v :=
  have hnone : s.IsData root (fun _ => False) fun _ => False :=
    ⟨hlinks, fun _ h => h, by simp [hvalues], fun _ h => h.elim, fun _ h => h.elim⟩
  fun h => hnone.of_reaches h

/-- Nothing can be reached in the empty store, if nothing is held on to. -/
theorem Store.not_reaches_empty {root : ContextRef} {v : Value} :
    ¬Store.empty.Reaches root (fun _ => False) v :=
  Store.not_reaches_of_bare rfl rfl

namespace Territory

/-- The territory of the bodies and causes given, with what can be reached from a
context and with all places not yet in use. -/
def reachedFrom (s : Store) (root : ContextRef) (held : Value → Prop) (functions : Node → Prop)
    (causes : EvalError.Cause → Prop)
    (ordinary : ∀ {cause : EvalError.Cause}, cause.isReserved = false → causes cause) :
    Territory where
  arrays ref := s.Reaches root held (.array ref) ∨ s.arrays.size ≤ ref.index
  maps ref := s.Reaches root held (.map ref) ∨ s.maps.size ≤ ref.index
  hosts ref := s.Reaches root held (.object ref) ∨ s.hosts.size ≤ ref.index
  contexts ctx := s.ReachesContext root held ctx ∨ s.contexts.size ≤ ctx.index
  functions := functions
  causes := causes
  ordinary := ordinary

variable {s : Store} {root : ContextRef} {held : Value → Prop} {functions : Node → Prop}
  {causes : EvalError.Cause → Prop}
  {ordinary : ∀ {cause : EvalError.Cause}, cause.isReserved = false → causes cause}

/-- A value that can be reached belongs to the territory, if the functions that can
be reached have bodies of the territory. -/
theorem holds_of_reaches
    (hbodies : ∀ c : Closure Value, s.Reaches root held (.function c) → functions c.lambda.body) :
    ∀ {v : Value}, s.Reaches root held v →
      (reachedFrom s root held functions causes ordinary).Holds v
  | .nil, _ => .nil
  | .bool b, _ => .bool b
  | .number n, _ => .number n
  | .text t, _ => .text t
  | .array _, h => .array (.inl h)
  | .map _, h => .map (.inl h)
  | .object _, h => .object (.inl h)
  | .function closure, h => by
      refine .function (hbodies closure h) ?_ ?_
      · intro v hv
        have hsmaller : sizeOf v < sizeOf closure.bound := List.sizeOf_lt_of_mem hv
        exact holds_of_reaches hbodies (.part h hv)
      · intro ctx hctx
        exact .inl (.captured h (Option.mem_toList.mpr hctx))
termination_by v => v
decreasing_by
  cases closure
  simp only [Value.function.sizeOf_spec, Closure.mk.sizeOf_spec] at *
  omega

/-- **What can be reached is closed.**  If the functions that can be reached
from a context have the bodies given, then the store is closed over the territory of
what can be reached and of the places not yet in use. -/
theorem closed_reachedFrom
    (hbodies : ∀ c : Closure Value, s.Reaches root held (.function c) → functions c.lambda.body) :
    (reachedFrom s root held functions causes ordinary).Closed s where
  items := by
    rintro ref (href | href) v hv
    · exact holds_of_reaches hbodies (.part href (Array.mem_toList_iff.mpr hv))
    · simp [Store.items, Array.getD_eq_getD_getElem?, Array.getElem?_eq_none href] at hv
  entries := by
    rintro ref (href | href) v hv
    · exact holds_of_reaches hbodies (.part href hv)
    · simp [Store.entries, Array.getD_eq_getD_getElem?, Array.getElem?_eq_none href,
        OrderedMap.values, OrderedMap.empty] at hv
  fields := by
    rintro ref (href | href) v hv
    · exact holds_of_reaches hbodies (.part href hv)
    · simp [Store.host, Array.getD_eq_getD_getElem?, Array.getElem?_eq_none href,
        OrderedMap.values, default, OrderedMap.empty, instInhabitedHostObject.default] at hv
  values := by
    rintro ctx (hctx | hctx) v hv
    · exact holds_of_reaches hbodies (.value hctx hv)
    · simp [Store.context, Array.getD_eq_getD_getElem?, Array.getElem?_eq_none hctx,
        Context.values, OrderedMap.values, OrderedMap.empty] at hv
  links := by
    rintro ctx (hctx | hctx) other hother
    · exact .inl (.link hctx hother)
    · simp [Store.context, Array.getD_eq_getD_getElem?, Array.getElem?_eq_none hctx,
        Context.links] at hother
  freshArray _ := .inr
  freshMap _ := .inr
  freshHost _ := .inr
  freshContext _ := .inr

end Territory

end ScriptEngine

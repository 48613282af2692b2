import ScriptEngine.Proofs.Containment

/-!
# Regions of a store

A region is a territory whose code is closed under taking parts, and in which an
action may fail for any cause.

* `Region.Contains` — what a region asks of the embedder's own code;
* `Region.territory` — the territory of a region;
* `Region.closed_reachedFrom` — what can be reached is closed, with the places not
  yet in use.
-/

namespace ScriptEngine

/-- A set of places and of code. -/
structure Region where
  code : Node → Prop
  arrays : ArrayRef → Prop
  maps : MapRef → Prop
  hosts : HostRef → Prop
  contexts : ContextRef → Prop
  /-- With a tree the region has all its parts. -/
  code_child : ∀ {tree child : Node}, code tree → child ∈ tree.children → code child

namespace Region

/-- The values that belong to a region. -/
inductive Holds (g : Region) : Value → Prop
  | nil : Holds g .nil
  | bool (value : Bool) : Holds g (.bool value)
  | number (value : Number) : Holds g (.number value)
  | text (value : String) : Holds g (.text value)
  | array {ref : ArrayRef} : g.arrays ref → Holds g (.array ref)
  | map {ref : MapRef} : g.maps ref → Holds g (.map ref)
  | object {ref : HostRef} : g.hosts ref → Holds g (.object ref)
  | function {closure : Closure Value} : g.code closure.lambda.body →
      (∀ v ∈ closure.bound, Holds g v) → (∀ c ∈ closure.captured, g.contexts c) →
      Holds g (.function closure)

/-- A store in which the places of a region keep what belongs to it, and in
which places not yet in use are in the region. -/
structure Closed (g : Region) (s : Store) : Prop where
  items : ∀ {ref : ArrayRef}, g.arrays ref → ∀ v ∈ s.items ref, g.Holds v
  entries : ∀ {ref : MapRef}, g.maps ref → ∀ v ∈ (s.entries ref).values, g.Holds v
  fields : ∀ {ref : HostRef}, g.hosts ref → ∀ v ∈ (s.host ref).fields.values, g.Holds v
  values : ∀ {ctx : ContextRef}, g.contexts ctx → ∀ v ∈ (s.context ctx).values, g.Holds v
  links : ∀ {ctx : ContextRef}, g.contexts ctx → ∀ other ∈ (s.context ctx).links,
    g.contexts other
  freshArray : ∀ ref : ArrayRef, s.arrays.size ≤ ref.index → g.arrays ref
  freshMap : ∀ ref : MapRef, s.maps.size ≤ ref.index → g.maps ref
  freshHost : ∀ ref : HostRef, s.hosts.size ≤ ref.index → g.hosts ref
  freshContext : ∀ ref : ContextRef, s.contexts.size ≤ ref.index → g.contexts ref

/-- **Staying in a region.**  From a store closed over the region the action
leaves one, whether it fails or not, and what it yields satisfies `holds`. -/
def Keeps {α : Type} (g : Region) (holds : α → Prop) (action : Action α) : Prop :=
  ∀ s, g.Closed s →
    match action s with
    | .ok result s' => holds result ∧ g.Closed s'
    | .error _ s' => g.Closed s'

/-- What a region asks of the embedder's own code: from values of the region it
stays in the region. -/
structure Contains (g : Region) (e : Embedder) : Prop where
  assign : ∀ {ref : HostRef} {name : String} {value : Value}, g.hosts ref → g.Holds value →
    g.Keeps (fun _ => True) (e.assign ref name value)
  invoke : ∀ {ref : HostRef} {index : Nat} {args : List Value}, g.hosts ref →
    (∀ v ∈ args, g.Holds v) → g.Keeps g.Holds (e.invoke ref index args)
  construct : ∀ {name : String} {make : List Value → Action Value} {args : List Value},
    e.constructors.find? name = some make → (∀ v ∈ args, g.Holds v) → g.Keeps g.Holds (make args)

/-- Every region contains an embedder without objects and constructors. -/
theorem contains_none {g : Region} : g.Contains Embedder.none where
  assign _ _ := fun _ hs => ⟨trivial, hs⟩
  invoke _ _ := fun _ hs => ⟨.nil, hs⟩
  construct hfind := by simp [Embedder.none, OrderedMap.find?, OrderedMap.empty] at hfind

/-! ## The territory of a region -/

/-- The places of a region, with its code for the bodies of functions. -/
def territory (g : Region) : Territory where
  arrays := g.arrays
  maps := g.maps
  hosts := g.hosts
  contexts := g.contexts
  functions := g.code
  causes _ := True
  ordinary _ := trivial

variable {g : Region} {s : Store}

theorem holds_territory {v : Value} : g.territory.Holds v ↔ g.Holds v := by
  constructor
  · intro h
    induction h with
    | function hbody _ hcaptured ih => exact .function hbody ih hcaptured
    | array h => exact .array h
    | map h => exact .map h
    | object h => exact .object h
    | _ => constructor
  · intro h
    induction h with
    | function hbody _ hcaptured ih => exact .function hbody ih hcaptured
    | array h => exact .array h
    | map h => exact .map h
    | object h => exact .object h
    | _ => constructor

theorem closed_territory : g.territory.Closed s ↔ g.Closed s := by
  refine ⟨fun h => { h with items := ?_, entries := ?_, fields := ?_, values := ?_ },
    fun h => { h with items := ?_, entries := ?_, fields := ?_, values := ?_ }⟩
  · exact fun href v hv => holds_territory.mp (h.items href v hv)
  · exact fun href v hv => holds_territory.mp (h.entries href v hv)
  · exact fun href v hv => holds_territory.mp (h.fields href v hv)
  · exact fun href v hv => holds_territory.mp (h.values href v hv)
  · exact fun href v hv => holds_territory.mpr (h.items href v hv)
  · exact fun href v hv => holds_territory.mpr (h.entries href v hv)
  · exact fun href v hv => holds_territory.mpr (h.fields href v hv)
  · exact fun href v hv => holds_territory.mpr (h.values href v hv)

/-- What stays in a region stays in its territory. -/
theorem Keeps.territory {α : Type} {holds holds' : α → Prop} {action : Action α}
    (h : g.Keeps holds action) (himp : ∀ a, holds a → holds' a) :
    g.territory.Keeps holds' action := by
  intro s hs
  have haction := h s (closed_territory.mp hs)
  cases hresult : action s with
  | ok a s' =>
      rw [hresult] at haction
      exact ⟨himp a haction.1, closed_territory.mpr haction.2⟩
  | error e s' =>
      rw [hresult] at haction
      exact ⟨trivial, closed_territory.mpr haction⟩

/-- The territory of a region asks no more of the embedder than the region. -/
theorem Contains.territory {e : Embedder} (he : g.Contains e) : g.territory.Contains e where
  assign href hvalue := (he.assign href (holds_territory.mp hvalue)).territory fun _ h => h
  invoke href hargs := (he.invoke href fun v hv => holds_territory.mp (hargs v hv)).territory
    fun _ => holds_territory.mpr
  construct hfind hargs :=
    (he.construct hfind fun v hv => holds_territory.mp (hargs v hv)).territory
      fun _ => holds_territory.mpr

/-! ## What can be reached -/

variable {root : ContextRef} {held : Value → Prop} {code : Node → Prop}
variable {hchild : ∀ {tree child : Node}, code tree → child ∈ tree.children → code child}

/-- The region of some code with what can be reached from a context and with
all places not yet in use. -/
def reachedFrom (s : Store) (root : ContextRef) (held : Value → Prop) (code : Node → Prop)
    (hchild : ∀ {tree child : Node}, code tree → child ∈ tree.children → code child) :
    Region where
  code := code
  arrays ref := s.Reaches root held (.array ref) ∨ s.arrays.size ≤ ref.index
  maps ref := s.Reaches root held (.map ref) ∨ s.maps.size ≤ ref.index
  hosts ref := s.Reaches root held (.object ref) ∨ s.hosts.size ≤ ref.index
  contexts ctx := s.ReachesContext root held ctx ∨ s.contexts.size ≤ ctx.index
  code_child := hchild

/-- **What can be reached is closed.**  If the functions that can be reached
from a context have the code given, then the store is closed over the region of
what can be reached and of the places not yet in use. -/
theorem closed_reachedFrom
    (hcode : ∀ c : Closure Value, s.Reaches root held (.function c) → code c.lambda.body) :
    (reachedFrom s root held code hchild).Closed s := by
  have hclosed :
      (Territory.reachedFrom s root held code (fun _ => True) fun _ => trivial).Closed s :=
    Territory.closed_reachedFrom hcode
  exact closed_territory.mp hclosed

end Region

end ScriptEngine

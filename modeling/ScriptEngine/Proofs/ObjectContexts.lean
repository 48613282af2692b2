import ScriptEngine.Engine
import ScriptEngine.Proofs.Resolution

/-!
# Contexts over a map

The variables of a context of members are the properties of a value.  Where the value
is a map they are its entries, apart from the names of computed properties, and an
assignment makes an entry.  A table with the same entries differs in the names that are
no entries: a table does not have them, while every property of a map can be read and is
nil if it is absent.  So a frame over such a context never looks at what its function
captured.

* `ContextRef.lookup_mapMembers`, `ContextRef.write_mapMembers` — variables that are
  properties of a map;
* `ContextRef.mapMembers_resolution` — all names, beside a table and below a frame.
-/

namespace ScriptEngine.ContextRef

variable {s : Store} {ctx : ContextRef} {ref : MapRef} {permissions : Option Permissions}
  {name : String}

section Members

variable (m : Members) (hctx : s.context ctx = .members (.map ref) permissions)
variable (hshown : ({ m with permissions } : Members).shows "map" name = true)

include hshown

/-- Every property of a map that is not computed can be read. -/
theorem member_map (hname : Builtin.ofProperty? name = none) :
    member? m s permissions (.map ref) name = some (((s.entries ref).find? name).getD .nil) := by
  have hreadable : ({ m with permissions } : Members).readable? s (.map ref) name =
      some (.stored (.key name)) := by
    show (if ({ m with permissions } : Members).shows "map" name then _ else none) = _
    rw [if_pos hshown, hname]
    split <;> rfl
  have hread : ({ m with permissions } : Members).readProperty (.map ref) name s =
      .ok (((s.entries ref).find? name).getD .nil) s := by
    rw [Members.readProperty, get_bind, hreadable]
    rfl
  rw [member?, hread]

include hctx

/-- **Every name is a variable**: an entry of the map, or nil. -/
theorem lookup_mapMembers (hname : Builtin.ofProperty? name = none) :
    lookup m s ctx name = some (((s.entries ref).find? name).getD .nil) := by
  rw [lookup, hctx]
  exact member_map m hshown hname

theorem has_mapMembers (hname : Builtin.ofProperty? name = none) : has m s ctx name = true := by
  rw [has, hctx]
  dsimp only
  rw [member_map m hshown hname]
  rfl

/-- Writing a variable makes an entry of the map. -/
theorem write_mapMembers (value : Value) :
    write m ctx name value s = .ok () (s.modifyEntries ref fun b => b.insert name value) := by
  have hwritable : ({ m with permissions } : Members).writable? s (.map ref) name =
      some (.key name) := if_pos hshown
  rw [write, get_bind, hctx]
  dsimp only
  rw [Members.writeProperty, get_bind, hwritable]
  rfl

end Members

/-- **A context over a map, beside a table and below a frame.**  A name that is shown and is
no computed property is always a variable of the context over the map; an assignment makes
an entry.  A table of the same entries agrees about the names that are entries and about no
others.  A frame over the context finds the name among its own bindings or there, whatever
its function captured, and passes assignments on to there. -/
theorem mapMembers_resolution (m : Members) {s : Store} {ctx : ContextRef} {ref : MapRef}
    {permissions : Option Permissions} {name : String}
    (hctx : s.context ctx = .members (.map ref) permissions)
    (hshown : ({ m with permissions } : Members).shows "map" name = true)
    (hname : Builtin.ofProperty? name = none) :
    lookup m s ctx name = some (((s.entries ref).find? name).getD .nil) ∧
    has m s ctx name = true ∧
    (∀ value, ctx.assign m name value s =
      .ok () (s.modifyEntries ref fun b => b.insert name value)) ∧
    (∀ (table : ContextRef) (token : Option TokenRef),
      s.context table = .vars (s.entries ref) token →
      (lookup m s table name = lookup m s ctx name ↔ (s.entries ref).contains name = true)) ∧
    ∀ (frame : ContextRef) (bindings : OrderedMap Value) (captured : Option ContextRef),
      s.context frame = .frame bindings ctx captured → ctx.index < frame.index →
      lookup m s frame name =
        some ((bindings.find? name).getD (((s.entries ref).find? name).getD .nil)) ∧
      holder m s frame name = if bindings.contains name then frame else ctx := by
  have hlookup := lookup_mapMembers m hctx hshown hname
  have hholder : holder m s ctx name = ctx := by rw [holder, hctx]
  refine ⟨hlookup, has_mapMembers m hctx hshown hname, fun value => ?_,
    fun table token htable => ?_, fun frame bindings captured hframe hless => ⟨?_, ?_⟩⟩
  · rw [assign_eq, hholder, write_mapMembers m hctx hshown]
  · rw [hlookup, lookup_table m htable, Store.binding?, htable, OrderedMap.contains_eq_isSome]
    show (s.entries ref).find? name = _ ↔ _
    cases (s.entries ref).find? name <;> simp
  · rw [lookup, hframe]
    dsimp only
    rw [dif_pos hless, hlookup]
    cases bindings.find? name <;> rfl
  · have honward : onward m s ctx captured name = ctx := by
      unfold onward
      split
      · rw [has_mapMembers m hctx hshown hname]
        rfl
      · rfl
    rw [holder, hframe]
    dsimp only
    rw [honward, dif_pos hless, hholder]

/-- A name that the map does not have is nil in a context over it, and so it is in a frame
that captured a table with the name. -/
theorem mapMembers_resolution_captured :
    let s : Store := { Store.empty with
      maps := #[.empty]
      contexts := #[.members (.map ⟨0⟩) none, .vars (.ofList [("a", .bool true)]) none,
        .frame .empty ⟨0⟩ (some ⟨1⟩)] }
    lookup default s ⟨2⟩ "a" = some .nil := by
  intro s
  have hctx : s.context ⟨0⟩ = .members (.map ⟨0⟩) none := rfl
  have hframe : s.context ⟨2⟩ = .frame .empty ⟨0⟩ (some ⟨1⟩) := rfl
  have hname : Builtin.ofProperty? "a" = none := rfl
  exact ((mapMembers_resolution default hctx rfl hname).2.2.2.2 ⟨2⟩ _ _ hframe (by decide)).1

end ScriptEngine.ContextRef

namespace ScriptEngine.Engine

/-- A function that is made by another one and called when that is over finds what it
captured when it is called in an empty table, and nil in a context over an empty map. -/
theorem objectContext_hides_captured :
    let e : Engine := .standard
    let call (f : Node) (argument : Bool) : Node :=
      .call default f [.literal default (.bool argument)]
    let tree : Node := .script default
      [.var default "f" (some (.lambda default default ["a"]
        (.lambda default default ["b"] (.ident default "a")))),
        call (call (.ident default "f") true) false] []
    let (object, s) := e.objectContext (.map ⟨0⟩) { Store.empty with maps := #[.empty] }
    let (table, s) := s.newContext (.vars .empty none)
    let ends (ctx : ContextRef) (test : Value → Bool) : Bool :=
      match (e.rules.interpret e.options tree ctx s).1 with
      | .value v => test v
      | _ => false
    ends object Value.isNil = true ∧ ends table (Value.identical (.bool true)) = true := by
  decide +kernel

end ScriptEngine.Engine

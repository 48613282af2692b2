import ScriptEngine.Proofs.ArrayIndices

/-!
# Histories of a map

A map can be touched in many ways: by assignments to an index or a property, by methods, by
reads and by operators.  Each derives the text of the key by itself and goes its own way to
the entries.  This file says that all of them are operations on one list of entries, in which
a key that is written again keeps its place, a new key goes to the end, and a key that is
removed leaves the others in their order.

* `Entries.write`, `Entries.remove` — the list, without a map;
* `Touch`, `Operation.after`, `Operation.answer` — the ways to touch a map, and what the list
  says they do and give;
* `Operation.node_done` — one operation of a program, which is what the list says;
* `MapHistory`, `MapHistory.refines_entries` — any sequence of operations, and what any next one
  gives.
-/

namespace ScriptEngine

/-! ## Lists of entries -/

/-- Entries in an order, of which each key has one at most. -/
abbrev Entries := List (String × Value)

namespace Entries

/-- Write a key: the first entry that has it gets the value, or a new one comes at the end. -/
def write (key : String) (value : Value) : Entries → Entries
  | [] => [(key, value)]
  | entry :: rest => if entry.1 = key then (key, value) :: rest else entry :: write key value rest

/-- Remove a key with its entry. -/
def remove (key : String) : Entries → Entries
  | [] => []
  | entry :: rest => if entry.1 = key then rest else entry :: remove key rest

/-- The number of entries for two names, and whether there are none for a third. -/
def computed (name : String) (es : Entries) : Value :=
  if name = "length" ∨ name = "size" then .count es.length
  else if name = "empty" then .bool es.isEmpty
  else .nil

/-- Read a key as an index or a property. -/
def read (key : String) (es : Entries) : Value := (es.lookup key).getD (es.computed key)

variable {key : String} {value : Value} {es : Entries}

theorem write_of_mem (hnodup : (es.map Prod.fst).Nodup) (hkey : key ∈ es.map Prod.fst) :
    es.write key value = OrderedMap.replaced key value es := by
  induction es with
  | nil => cases hkey
  | cons entry rest ih =>
      obtain ⟨hfirst, hrest⟩ := List.nodup_cons.mp hnodup
      by_cases h : entry.1 = key
      · -- the key is in no later entry, so that replacing leaves these as they are
        have hsame : OrderedMap.replaced key value rest = rest := by
          unfold OrderedMap.replaced
          conv_rhs => rw [← List.map_id rest]
          apply List.map_congr_left
          intro other hother
          apply if_neg
          rintro rfl
          exact hfirst (h ▸ List.mem_map_of_mem hother)
        have hcons : OrderedMap.replaced key value (entry :: rest) =
            (key, value) :: OrderedMap.replaced key value rest := by
          simp [OrderedMap.replaced, h]
        rw [write, if_pos h, hcons, hsame]
      · have hlater : key ∈ rest.map Prod.fst :=
          (List.mem_cons.mp hkey).resolve_left fun heq => h heq.symm
        have hcons : OrderedMap.replaced key value (entry :: rest) =
            entry :: OrderedMap.replaced key value rest := by
          simp [OrderedMap.replaced, h]
        rw [write, if_neg h, ih hrest hlater, hcons]

theorem write_of_not_mem (hkey : key ∉ es.map Prod.fst) :
    es.write key value = es ++ [(key, value)] := by
  induction es with
  | nil => rfl
  | cons entry rest ih =>
      obtain ⟨hfirst, hrest⟩ := not_or.mp (List.mem_cons.not.mp hkey)
      rw [write, if_neg fun h => hfirst h.symm, ih hrest]
      rfl

theorem remove_eq_filter (hnodup : (es.map Prod.fst).Nodup) :
    es.remove key = es.filter fun entry => entry.1 ≠ key := by
  induction es with
  | nil => rfl
  | cons entry rest ih =>
      obtain ⟨hfirst, hrest⟩ := List.nodup_cons.mp hnodup
      by_cases h : entry.1 = key
      · have hsame : rest.filter (fun entry => entry.1 ≠ key) = rest := by
          apply List.filter_eq_self.mpr
          intro other hother
          apply decide_eq_true
          rintro rfl
          exact hfirst (h ▸ List.mem_map_of_mem hother)
        rw [remove, if_pos h, List.filter_cons_of_neg (by simp [h]), hsame]
      · rw [remove, if_neg h, List.filter_cons_of_pos (by simp [h]), ih hrest]

end Entries

namespace OrderedMap

/-! A map does to its entries what a list does. -/

variable (m : OrderedMap Value) (key : String)

theorem find_eq_lookup : m.find? key = m.entries.lookup key := by
  unfold find?
  induction m.entries with
  | nil => rfl
  | cons entry rest ih =>
      obtain ⟨k, v⟩ := entry
      by_cases h : k = key
      · subst h
        rw [List.find?_cons_of_pos (by simp), List.lookup_cons_self]
        rfl
      · have hother : (key == k) = false := beq_eq_false_iff_ne.mpr (Ne.symm h)
        rw [List.find?_cons_of_neg (by simp [h]), ih, List.lookup_cons, hother]

theorem contains_eq_lookup : m.contains key = (m.entries.lookup key).isSome := by
  rw [contains_eq_isSome, find_eq_lookup]

theorem entries_insert (value : Value) :
    (m.insert key value).entries = Entries.write key value m.entries := by
  unfold insert
  by_cases h : m.contains key
  · rw [dif_pos h]
    exact (Entries.write_of_mem m.nodup (contains_iff.mp h)).symm
  · rw [dif_neg h]
    exact (Entries.write_of_not_mem fun hkey => h (contains_iff.mpr hkey)).symm

theorem entries_erase : (m.erase key).entries = Entries.remove key m.entries :=
  (Entries.remove_eq_filter m.nodup).symm

end OrderedMap

/-! ## Operations -/

/-- **The ways to touch a map**: writes, and then reads. -/
inductive Touch where
  | assignIndex | assignProperty | put | remove
  | index | property | get | containsKey | within | keys | values | sizeMethod | sizeOperator
  deriving DecidableEq, Repr

/-- A way to touch a map, with the key and the value for it.  The ways that need no key or
no value leave them out. -/
structure Operation where
  touch : Touch
  key : Value
  value : Value

/-- The text that a scalar is as a key. -/
def Value.scalarText : Value → String
  | bool true => "true"
  | bool false => "false"
  | number value => value.render
  | text value => value
  | _ => ""

theorem Store.plain_scalar (s : Store) {v : Value} (hv : v.isScalar = true) :
    s.plain v = v.scalarText := by
  cases v with
  | nil | text _ => rfl
  | number n => exact s.plain_number n
  | bool b => cases b <;> rfl
  | _ => cases hv

/-- What is to be answered: a value, or a new array of some items. -/
inductive Answer where
  | value (v : Value)
  | items (vs : List Value)

/-- **Whether a result is the answer**, when the store goes from one to another. -/
def Answer.Is (s s' : Store) (result : Value) : Answer → Prop
  | value v => result = v
  | items vs => ∃ ref, result = .array ref ∧ s.arrays.size ≤ ref.index ∧ (s'.items ref).toList = vs

namespace Operation

variable (op : Operation)

/-- **The entries after an operation.** -/
def after (es : Entries) : Entries :=
  match op.touch with
  | .assignIndex | .assignProperty | .put => es.write op.key.scalarText op.value
  | .remove => es.remove op.key.scalarText
  | _ => es

/-- **The answer to an operation.**  A missing key reads as nil, but for the three names of
computed properties. -/
def answer (es : Entries) : Answer :=
  match op.touch with
  | .assignIndex | .assignProperty => .value op.value
  | .put | .remove | .get => .value ((es.lookup op.key.scalarText).getD .nil)
  | .index | .property => .value (es.read op.key.scalarText)
  | .containsKey | .within => .value (.bool (es.lookup op.key.scalarText).isSome)
  | .keys => .items (es.map fun entry => .text entry.1)
  | .values => .items (es.map Prod.snd)
  | .sizeMethod | .sizeOperator => .value (.count es.length)

/-- The node of an operation.  A property has the name that the key is as a text. -/
def node (span : Span) (object key value : Node) : Node :=
  match op.touch with
  | .assignIndex => .assign span (.index span object key) value false
  | .assignProperty => .assign span (.property span object op.key.scalarText) value false
  | .put => .methodCall span object "put" [key, value]
  | .remove => .methodCall span object "remove" [key]
  | .index => .index span object key
  | .property => .property span object op.key.scalarText
  | .get => .methodCall span object "get" [key]
  | .containsKey => .methodCall span object "containsKey" [key]
  | .within => .binary span .within key object
  | .keys => .methodCall span object "keys" []
  | .values => .methodCall span object "values" []
  | .sizeMethod => .methodCall span object "size" []
  | .sizeOperator => .unary span .size object

/-- The operands of an operation in the order of their evaluation. -/
def operands {α : Type} (object key value : α) : List α :=
  match op.touch with
  | .assignIndex => [value, object, key]
  | .assignProperty => [value, object]
  | .put => [object, key, value]
  | .remove | .index | .get | .containsKey => [object, key]
  | .within => [key, object]
  | .property | .keys | .values | .sizeMethod | .sizeOperator => [object]

/-- Evaluate the operands.  The operand of the size operator may be missing. -/
def evaluateOperands (ev : Evaluator) (ctx : ContextRef) (object key value : Node) :
    Eval (List Value) :=
  match op.touch with
  | .sizeOperator => return [← Eval.leniently (ev object ctx)]
  | _ => Eval.all ev (op.operands object key value) ctx

/-- **An operation is done**: the result is the answer, the entries are those after it, and
nothing else has changed. -/
structure Done (ref : MapRef) (s : Store) (result : Value) (s' : Store) : Prop where
  answered : (op.answer (s.entries ref).entries).Is s s' result
  entries : (s'.entries ref).entries = op.after (s.entries ref).entries
  locality : s.ChangesOnly (some (.map ref)) s'

section Done

variable {op : Operation} {ref : MapRef} {s : Store} {key : String} {v result : Value}

theorem done_read (hafter : op.after (s.entries ref).entries = (s.entries ref).entries)
    (hanswer : op.answer (s.entries ref).entries = .value result) : op.Done ref s result s where
  answered := hanswer ▸ rfl
  entries := hafter.symm
  locality := (Store.ChangesOnly.refl s).mono

theorem done_items {vs : List Value}
    (hafter : op.after (s.entries ref).entries = (s.entries ref).entries)
    (hanswer : op.answer (s.entries ref).entries = .items vs) :
    op.Done ref s (.array ⟨s.arrays.size⟩) (s.newArray vs.toArray).2 where
  answered := by
    rw [hanswer]
    refine ⟨_, rfl, Nat.le_refl _, ?_⟩
    simp [Store.items, Store.newArray]
  entries := hafter.symm
  locality := (s.changesOnly_newArray vs.toArray).mono

theorem done_write (href : ref.index < s.maps.size)
    (hafter : op.after (s.entries ref).entries = Entries.write key v (s.entries ref).entries)
    (hanswer : op.answer (s.entries ref).entries = .value result) :
    op.Done ref s result (s.modifyEntries ref (·.insert key v)) where
  answered := hanswer ▸ rfl
  entries := by rw [Store.entries_modifyEntries href, OrderedMap.entries_insert, hafter]
  locality := s.changesOnly_modifyEntries ref _

theorem done_remove (href : ref.index < s.maps.size)
    (hafter : op.after (s.entries ref).entries = Entries.remove key (s.entries ref).entries)
    (hanswer : op.answer (s.entries ref).entries = .value result) :
    op.Done ref s result (s.modifyEntries ref (·.erase key)) where
  answered := hanswer ▸ rfl
  entries := by rw [Store.entries_modifyEntries href, OrderedMap.entries_erase, hafter]
  locality := s.changesOnly_modifyEntries ref _

end Done

end Operation

/-! ## Properties of maps -/

theorem Value.isNil_map (ref : MapRef) : ¬(map ref).isNil = true := Bool.false_ne_true

theorem Builtin.ofProperty_eq (name : String) :
    ofProperty? name = if name = "length" ∨ name = "size" then some size
      else if name = "empty" then some isEmpty else none := by
  unfold ofProperty?
  split <;> simp_all

namespace Members

variable {m : Members} {name : String} {ref : MapRef} {s : Store}

/-- **Reading a property of a map** is reading a key of its entries. -/
theorem readProperty_map (hshown : m.shows "map" name = true) :
    m.readProperty (.map ref) name s = .ok (Entries.read name (s.entries ref).entries) s := by
  have hshown : m.shows ((Value.map ref).typeName s) name = true := hshown
  have hread : (Place.key name).read (.map ref) s =
      .ok (((s.entries ref).entries.lookup name).getD .nil) s := by
    rw [← OrderedMap.find_eq_lookup]
    rfl
  rw [readProperty, ContextRef.get_bind]
  unfold readable?
  rw [if_pos hshown]
  dsimp only
  unfold Entries.read Entries.computed
  cases hlookup : (s.entries ref).entries.lookup name with
  | some v =>
      have hpresent : (s.entries ref).contains name = true := by
        rw [OrderedMap.contains_eq_lookup, hlookup]
        rfl
      rw [hlookup] at hread
      rw [if_pos hpresent]
      exact hread
  | none =>
      have hmissing : ¬(s.entries ref).contains name = true := by
        rw [OrderedMap.contains_eq_lookup, hlookup]
        exact Bool.false_ne_true
      rw [hlookup] at hread
      rw [if_neg hmissing, Builtin.ofProperty_eq]
      split
      · rfl
      · split
        · rfl
        · exact hread

theorem writeProperty_map (hshown : m.shows "map" name = true) (v : Value) :
    m.writeProperty (.map ref) name v s = .ok () (s.modifyEntries ref (·.insert name v)) := by
  have hshown : m.shows ((Value.map ref).typeName s) name = true := hshown
  rw [writeProperty, ContextRef.get_bind]
  unfold writable?
  rw [if_pos hshown]
  rfl

end Members

/-! ## Methods of maps -/

namespace Builtin

variable (s : Store) (ref : MapRef) (k v : Value)

theorem run_mapGet : mapGet.run (.map ref) [k] s =
    .ok (((s.entries ref).entries.lookup (s.plain k)).getD .nil) s := by
  rw [← OrderedMap.find_eq_lookup]
  rfl

theorem run_mapContainsKey : mapContainsKey.run (.map ref) [k] s =
    .ok (.bool ((s.entries ref).entries.lookup (s.plain k)).isSome) s := by
  rw [← OrderedMap.contains_eq_lookup]
  rfl

theorem run_mapPut : mapPut.run (.map ref) [k, v] s =
    .ok (((s.entries ref).entries.lookup (s.plain k)).getD .nil)
      (s.modifyEntries ref (·.insert (s.plain k) v)) := by
  rw [← OrderedMap.find_eq_lookup]
  rfl

theorem run_mapRemove : mapRemove.run (.map ref) [k] s =
    .ok (((s.entries ref).entries.lookup (s.plain k)).getD .nil)
      (s.modifyEntries ref (·.erase (s.plain k))) := by
  rw [← OrderedMap.find_eq_lookup]
  rfl

theorem run_mapKeys : mapKeys.run (.map ref) [] s = .ok (.array ⟨s.arrays.size⟩)
    (s.newArray ((s.entries ref).entries.map fun entry => Value.text entry.1).toArray).2 := by
  have hkeys : (s.entries ref).keys.map Value.text =
      (s.entries ref).entries.map fun entry => Value.text entry.1 := List.map_map
  rw [← hkeys]
  rfl

theorem run_mapValues : mapValues.run (.map ref) [] s = .ok (.array ⟨s.arrays.size⟩)
    (s.newArray ((s.entries ref).entries.map Prod.snd).toArray).2 := rfl

theorem run_mapSize : size.run (.map ref) [] s =
    .ok (.count (s.entries ref).entries.length) s := rfl

end Builtin

/-! ## Operations in programs -/

namespace Eval

section Maps

variable {rules : Semantics} {ev : Evaluator} {ctx : ContextRef} {ref : MapRef} {r r₁ r₂ : Run}
  {object value : Node} {k v : Value}

/-- The call of a method on a map. -/
theorem mapCall_eq {name : String} {b : Builtin} {nodes : List Node} {args : List Value}
    {result : Value} {s' : Store} (fuel : Nat) (span : Span)
    (hargs : all ev (object :: nodes) ctx r = .ok (.map ref :: args) r₁)
    (hshown : rules.members.shows "map" name = true) (hb : Builtin.ofMap? name = some b)
    (hrun : b.run (.map ref) args r₁.store = .ok result s') :
    node rules fuel ev (.methodCall span object name nodes) ctx r =
      .ok result { r₁ with store := s' } := by
  obtain ⟨r₂, hobject, hrest⟩ := exists_of_all_cons hargs
  have hb : Builtin.ofName? (.map ref) name = some b := hb
  rw [methodCall_builtin fuel span hobject hrest hb hshown]
  exact resolve_ok hrun

/-- Reading a property, with the object evaluated. -/
theorem propertyNode_map {name : String} (fuel : Nat) (span : Span)
    (hobject : ev object ctx r = .ok (.map ref) r₁)
    (hshown : rules.members.shows "map" name = true) :
    node rules fuel ev (.property span object name) ctx r =
      .ok (Entries.read name (r₁.store.entries ref).entries) r₁ := by
  rw [node, ok_bind hobject, readMember, if_neg (Value.isNil_map ref)]
  exact resolve_ok (Members.readProperty_map hshown)

/-- Writing a property, with the value and the object evaluated. -/
theorem assignProperty_map {name : String} (fuel : Nat) (span span' : Span)
    (hvalue : ev value ctx r = .ok v r₁) (hobject : ev object ctx r₁ = .ok (.map ref) r₂)
    (hshown : rules.members.shows "map" name = true) :
    node rules fuel ev (.assign span' (.property span object name) value false) ctx r =
      .ok v { r₂ with store := r₂.store.modifyEntries ref (·.insert name v) } := by
  have htarget : assignTo rules ev (.property span object name) v ctx r₁ =
      .ok () { r₂ with store := r₂.store.modifyEntries ref (·.insert name v) } := by
    rw [assignTo, ok_bind hobject, writeMember, if_neg (Value.isNil_map ref)]
    exact write_ok (Members.writeProperty_map hshown v)
  rw [assignNode_value span' hvalue, ok_bind htarget]
  rfl

/-- Reading by a key is reading the property that the key is as a text. -/
theorem readIndex_map (hshown : rules.members.shows "map" (r.store.plain k) = true) :
    readIndex rules (.map ref) k r =
      .ok (Entries.read (r.store.plain k) (r.store.entries ref).entries) r := by
  rw [readIndex_named (Value.isNil_map ref) rfl]
  exact resolve_ok (Members.readProperty_map hshown)

theorem writeIndex_map (hshown : rules.members.shows "map" (r.store.plain k) = true) (v : Value) :
    writeIndex rules (.map ref) k v r =
      .ok () { r with store := r.store.modifyEntries ref (·.insert (r.store.plain k) v) } := by
  rw [writeIndex_named (Value.isNil_map ref) rfl]
  exact write_ok (Members.writeProperty_map hshown v)

/-- Whether a map has a key, as an operator. -/
theorem binary_within_map (k : Value) : binary rules .within k (.map ref) r =
    .ok (.bool ((r.store.entries ref).entries.lookup (r.store.plain k)).isSome) r := by
  rw [← OrderedMap.contains_eq_lookup]
  show EStateM.Result.ok (Value.bool (decide (_ = true))) r = _
  rw [Bool.decide_eq_true]

/-- A loop over a map, with the map evaluated, goes through its values. -/
theorem foreachNode_map (fuel : Nat) (span : Span) (var : String) (declared : Bool)
    {iterable : Node} (body : Node) (hiterable : ev iterable ctx r = .ok (.map ref) r₁) :
    node rules fuel ev (.foreach span var declared iterable body) ctx r =
      each ctx (fun item => act (if declared then ctx.declare rules.members var item
        else ctx.assign rules.members var item)) (ev body ctx)
        ((r₁.store.entries ref).entries.map Prod.snd) .nil r₁ := by
  rw [node, foreachNode, ok_bind hiterable, look_bind]
  rfl

end Maps

end Eval

namespace Operation

open Eval

variable {rules : Semantics} {ev : Evaluator} {ctx : ContextRef} {ref : MapRef} {r₁ r : Run}
  {object key value : Node}

/-- **One operation of a program on a map** is done after its operands are evaluated.  The key
is a scalar; members of maps are shown. -/
theorem node_done {op : Operation} (fuel : Nat) (span : Span)
    (hshown : ∀ name, rules.members.shows "map" name = true)
    (hscalar : op.key.isScalar = true) (href : ref.index < r.store.maps.size)
    (hoperands : op.evaluateOperands ev ctx object key value r₁ =
      .ok (op.operands (.map ref) op.key op.value) r) :
    ∃ result s', Eval.node rules fuel ev (op.node span object key value) ctx r₁ =
        .ok result { r with store := s' } ∧
      op.Done ref r.store result s' := by
  obtain ⟨touch, k, v⟩ := op
  have hkey : k.scalarText = r.store.plain k := (r.store.plain_scalar hscalar).symm
  cases touch with
  | assignIndex =>
      obtain ⟨r₂, hvalue, hrest⟩ := exists_of_all_cons hoperands
      obtain ⟨r₃, hobject, hrest⟩ := exists_of_all_cons hrest
      refine ⟨v, _, ?_, done_write href (congrArg (Entries.write · v _) hkey) rfl⟩
      rw [node, assignIndex_operands span span hvalue hobject (value_of_all hrest)]
      exact ok_bind (writeIndex_map (hshown _) v)
  | assignProperty =>
      obtain ⟨r₂, hvalue, hrest⟩ := exists_of_all_cons hoperands
      exact ⟨v, _, assignProperty_map fuel span span hvalue (value_of_all hrest) (hshown _),
        done_write href rfl rfl⟩
  | put =>
      refine ⟨_, _, mapCall_eq fuel span hoperands (hshown _) rfl (Builtin.run_mapPut _ _ _ _), ?_⟩
      rw [← hkey]
      exact done_write href rfl rfl
  | remove =>
      refine ⟨_, _, mapCall_eq fuel span hoperands (hshown _) rfl (Builtin.run_mapRemove _ _ _), ?_⟩
      rw [← hkey]
      exact done_remove href rfl rfl
  | index =>
      obtain ⟨r₂, hobject, hrest⟩ := exists_of_all_cons hoperands
      refine ⟨_, _, ?_, done_read rfl rfl⟩
      rw [node, indexNode_operands span hobject (value_of_all hrest), hkey]
      exact readIndex_map (hshown _)
  | property =>
      exact ⟨_, _, propertyNode_map fuel span (value_of_all hoperands) (hshown _),
        done_read rfl rfl⟩
  | get =>
      refine ⟨_, _, mapCall_eq fuel span hoperands (hshown _) rfl (Builtin.run_mapGet _ _ _), ?_⟩
      rw [← hkey]
      exact done_read rfl rfl
  | containsKey =>
      refine ⟨_, _, mapCall_eq fuel span hoperands (hshown _) rfl
        (Builtin.run_mapContainsKey _ _ _), ?_⟩
      rw [← hkey]
      exact done_read rfl rfl
  | within =>
      obtain ⟨r₂, hitem, hrest⟩ := exists_of_all_cons hoperands
      refine ⟨_, _, ?_, done_read rfl rfl⟩
      show (ev key ctx >>= fun x => ev object ctx >>= fun y => binary rules .within x y) r₁ = _
      rw [ok_bind hitem, ok_bind (value_of_all hrest), hkey]
      exact binary_within_map k
  | keys =>
      exact ⟨_, _, mapCall_eq fuel span hoperands (hshown _) rfl (Builtin.run_mapKeys _ _),
        done_items rfl rfl⟩
  | values =>
      exact ⟨_, _, mapCall_eq fuel span hoperands (hshown _) rfl (Builtin.run_mapValues _ _),
        done_items rfl rfl⟩
  | sizeMethod =>
      exact ⟨_, _, mapCall_eq fuel span hoperands (hshown _) rfl (Builtin.run_mapSize _ _),
        done_read rfl rfl⟩
  | sizeOperator =>
      obtain ⟨m, r₂, hobject, hdone⟩ := exists_of_bind hoperands
      cases hdone
      refine ⟨_, _, ?_, done_read rfl rfl⟩
      show (leniently (ev object ctx) >>= fun m => unary rules .size m) r₁ = _
      rw [ok_bind hobject]
      rfl

end Operation

/-! ## Histories -/

/-- The entries after several operations. -/
def Entries.replay (log : List Operation) (es : Entries) : Entries :=
  log.foldl (fun es op => op.after es) es

theorem Entries.replay_append (log : List Operation) (op : Operation) (es : Entries) :
    es.replay (log ++ [op]) = op.after (es.replay log) := List.foldl_append

/-- **What may happen to a map in a run**: operations on it, each with all that the evaluation
of its operands brings about, and between them anything that leaves its entries alone. -/
inductive MapHistory (rules : Semantics) (ref : MapRef) (start : Run) : List Operation → Run → Prop
  | nil : MapHistory rules ref start [] start
  | operation {log : List Operation} {op : Operation} {r₁ r r' : Run} {fuel : Nat}
      {ev : Evaluator} {ctx : ContextRef} {span : Span} {object key value : Node}
      {result : Value} (before : MapHistory rules ref start log r)
      (scalar : op.key.isScalar = true)
      (operands : op.evaluateOperands ev ctx object key value r₁ =
        .ok (op.operands (.map ref) op.key op.value) r)
      (done : Eval.node rules fuel ev (op.node span object key value) ctx r₁ = .ok result r') :
      MapHistory rules ref start (log ++ [op]) r'
  | elsewhere {log : List Operation} {r r' : Run} (before : MapHistory rules ref start log r)
      (entries : r'.store.entries ref = r.store.entries ref)
      (maps : r.store.maps.size ≤ r'.store.maps.size) : MapHistory rules ref start log r'

namespace MapHistory

variable {rules : Semantics} {ref : MapRef} {start r : Run} {log : List Operation}

/-- **What a history keeps**: the map is there, and has the entries of the list. -/
theorem entries_eq (h : MapHistory rules ref start log r)
    (hshown : ∀ name, rules.members.shows "map" name = true)
    (href : ref.index < start.store.maps.size) :
    ref.index < r.store.maps.size ∧
      (r.store.entries ref).entries = Entries.replay log (start.store.entries ref).entries := by
  induction h with
  | nil => exact ⟨href, rfl⟩
  | operation before scalar operands done ih =>
      obtain ⟨hin, hentries⟩ := ih
      obtain ⟨result, s', hnode, hdone⟩ := Operation.node_done _ _ hshown scalar hin operands
      rw [hnode] at done
      cases done
      constructor
      · exact Nat.lt_of_lt_of_le hin hdone.locality.maps
      · rw [Entries.replay_append, ← hentries]
        exact hdone.entries
  | elsewhere before entries maps ih =>
      obtain ⟨hin, hentries⟩ := ih
      constructor
      · exact Nat.lt_of_lt_of_le hin maps
      · rw [entries, hentries]

/-- **A map is one list of entries.**  Take any history of a map: operations with scalar keys,
in any order and nested in any way, by any evaluators and under any options.  Then the map has
the entries that the same operations leave behind in a list, to which a new key is appended,
in which a key written again keeps its place, and from which a key is removed with the order of
the rest kept.  Any next operation gives the answer of the list, changes the map as it changes
the list, and changes nothing else.  A loop over the map goes through the values of the list,
in its order.

Permissions may hide members of maps; this is about histories in which none is hidden. -/
theorem refines_entries (h : MapHistory rules ref start log r)
    (hshown : ∀ name, rules.members.shows "map" name = true)
    (href : ref.index < start.store.maps.size) :
    let es := Entries.replay log (start.store.entries ref).entries
    (r.store.entries ref).entries = es ∧
    (∀ (op : Operation) (fuel : Nat) (ev : Evaluator) (ctx : ContextRef) (span : Span)
      (object key value : Node) (r₁ : Run), op.key.isScalar = true →
      op.evaluateOperands ev ctx object key value r₁ =
        .ok (op.operands (.map ref) op.key op.value) r →
      ∃ result s', Eval.node rules fuel ev (op.node span object key value) ctx r₁ =
          .ok result { r with store := s' } ∧
        (op.answer es).Is r.store s' result ∧
        (s'.entries ref).entries = op.after es ∧
        r.store.ChangesOnly (some (.map ref)) s' ∧
        MapHistory rules ref start (log ++ [op]) { r with store := s' }) ∧
    ∀ (fuel : Nat) (ev : Evaluator) (ctx : ContextRef) (span : Span) (var : String)
      (declared : Bool) (iterable body : Node) (r₁ : Run),
      ev iterable ctx r₁ = .ok (.map ref) r →
      Eval.node rules fuel ev (.foreach span var declared iterable body) ctx r₁ =
        Eval.each ctx (fun item => Eval.act (if declared then ctx.declare rules.members var item
          else ctx.assign rules.members var item)) (ev body ctx) (es.map Prod.snd) .nil r := by
  intro es
  have hin : ref.index < r.store.maps.size := (h.entries_eq hshown href).1
  have hentries : (r.store.entries ref).entries = es := (h.entries_eq hshown href).2
  refine ⟨hentries, ?_, ?_⟩
  · intro op fuel ev ctx span object key value r₁ hscalar hoperands
    obtain ⟨result, s', hnode, hdone⟩ :=
      Operation.node_done fuel span hshown hscalar hin hoperands
    refine ⟨result, s', hnode, ?_, ?_, hdone.locality, h.operation hscalar hoperands hnode⟩
    · rw [← hentries]
      exact hdone.answered
    · rw [← hentries]
      exact hdone.entries
  · intro fuel ev ctx span var declared iterable body r₁ hiterable
    rw [← hentries]
    exact Eval.foreachNode_map fuel span var declared body hiterable

/-- What is written under the number 1 is read under the text 1. -/
theorem number_read_as_text :
    let rules : Semantics := ⟨⟨true⟩, ⟨none, .none⟩⟩
    let s : Store :=
      { Store.empty with
        maps := #[.empty]
        contexts := #[.vars (.ofList [("m", .map ⟨0⟩)]) none] }
    let r : Run := ⟨s, Options.standard, .top 8⟩
    let r' : Run := { r with store := s.modifyEntries ⟨0⟩ (·.insert "1" (.number 5)) }
    let ev := rules.evaluate 1
    let object : Node := .ident default "m"
    let key : Node := .literal default (.text "1")
    let write : Operation := ⟨.assignIndex, .number 1, .number 5⟩
    let read : Operation := ⟨.get, .text "1", .nil⟩
    MapHistory rules ⟨0⟩ r [write] r' ∧ (∀ name, rules.members.shows "map" name = true) ∧
      0 < s.maps.size ∧ read.key.isScalar = true ∧
      read.evaluateOperands ev ⟨0⟩ object key key r' = .ok [.map ⟨0⟩, .text "1"] r' ∧
      ∃ s', Eval.node rules 1 ev (.methodCall default object "get" [key]) ⟨0⟩ r' =
        .ok (.number 5) { r' with store := s' } := by
  intro rules s r r' ev object key write read
  let place : Node := .literal default (.number 1)
  let value : Node := .literal default (.number 5)
  have hwritten : write.evaluateOperands ev ⟨0⟩ object place value r =
      .ok (write.operands (.map ⟨0⟩) write.key write.value) r := by with_unfolding_all rfl
  have hnode : Eval.node rules 1 ev (write.node default object place value) ⟨0⟩ r =
      .ok (.number 5) r' := by with_unfolding_all rfl
  have hhistory : MapHistory rules ⟨0⟩ r [write] r' := .operation .nil rfl hwritten hnode
  have hshown : ∀ name, rules.members.shows "map" name = true := fun _ => rfl
  have href : 0 < s.maps.size := Nat.one_pos
  have hread : read.evaluateOperands ev ⟨0⟩ object key key r' = .ok [.map ⟨0⟩, .text "1"] r' := by
    with_unfolding_all rfl
  obtain ⟨result, s', hget, hanswer, -⟩ := (hhistory.refines_entries hshown href).2.1 read 1
    ev ⟨0⟩ default object key key r' rfl hread
  obtain rfl : result = .number 5 := by
    refine hanswer.trans ?_
    with_unfolding_all rfl
  exact ⟨hhistory, hshown, href, rfl, hread, s', hget⟩

end MapHistory

end ScriptEngine

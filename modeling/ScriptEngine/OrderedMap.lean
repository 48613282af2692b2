/-!
# Insertion-ordered maps

A map from texts to values that remembers in which order its keys first came
in.  Writing a key that is present keeps its place, a new key goes to the end,
and erasing one keeps the order of the others.  No key occurs twice; the type
carries the proof.
-/

namespace ScriptEngine

universe u

/-- Entries in the order in which their keys were first written. -/
structure OrderedMap (α : Type u) where
  entries : List (String × α)
  nodup : (entries.map Prod.fst).Nodup

namespace OrderedMap

variable {α : Type u}

/-- The map without entries. -/
def empty : OrderedMap α := ⟨[], List.nodup_nil⟩

instance : Inhabited (OrderedMap α) := ⟨empty⟩

def keys (m : OrderedMap α) : List String := m.entries.map Prod.fst

def values (m : OrderedMap α) : List α := m.entries.map Prod.snd

def size (m : OrderedMap α) : Nat := m.entries.length

def isEmpty (m : OrderedMap α) : Bool := m.entries.isEmpty

/-- The value of a key. -/
def find? (m : OrderedMap α) (key : String) : Option α :=
  (m.entries.find? fun entry => entry.1 = key).map Prod.snd

/-- Whether a key is present. -/
def contains (m : OrderedMap α) (key : String) : Bool :=
  m.entries.any fun entry => entry.1 = key

/-- Entries with the value of one key replaced. -/
def replaced (key : String) (value : α) (entries : List (String × α)) : List (String × α) :=
  entries.map fun entry => if entry.1 = key then (key, value) else entry

/-- Replacing a value changes no key. -/
theorem map_fst_replaced (key : String) (value : α) (entries : List (String × α)) :
    (replaced key value entries).map Prod.fst = entries.map Prod.fst := by
  simp only [replaced, List.map_map]
  refine List.map_congr_left fun entry _ => ?_
  by_cases h : entry.1 = key <;> simp [h]

/-- A key that is not present is not among the keys. -/
theorem not_mem_keys {m : OrderedMap α} {key : String} (h : m.contains key = false) :
    key ∉ m.entries.map Prod.fst := by
  simp only [contains, List.any_eq_false, decide_eq_true_eq] at h
  simp only [List.mem_map, not_exists, not_and]
  exact fun entry member => h entry member

/-- Write the value of a key. -/
def insert (m : OrderedMap α) (key : String) (value : α) : OrderedMap α :=
  if h : m.contains key then
    ⟨replaced key value m.entries, by rw [map_fst_replaced]; exact m.nodup⟩
  else
    ⟨m.entries ++ [(key, value)], by
      rw [List.map_append, List.nodup_append]
      refine ⟨m.nodup, by simp, ?_⟩
      intro a ha b hb
      simp only [List.map_cons, List.map_nil, List.mem_singleton] at hb
      subst hb
      exact fun e => not_mem_keys (by simpa using h) (e ▸ ha)⟩

/-- Remove a key. -/
def erase (m : OrderedMap α) (key : String) : OrderedMap α :=
  ⟨m.entries.filter fun entry => entry.1 ≠ key,
    (List.filter_sublist.map Prod.fst).nodup m.nodup⟩

/-- Write several entries, one after the other. -/
def insertAll (m : OrderedMap α) (entries : List (String × α)) : OrderedMap α :=
  entries.foldl (fun m (key, value) => m.insert key value) m

/-- The map of the entries given; of two values for one key the later counts. -/
def ofList (entries : List (String × α)) : OrderedMap α := empty.insertAll entries

end OrderedMap

end ScriptEngine

import Mathlib.Data.List.Nodup
import ScriptEngine.OrderedMap

/-!
# Entries, keys and values of a map

What looking up a key says about the entries of a map.  A key has at most one
entry, so an entry is what its key finds.
-/

namespace ScriptEngine.OrderedMap

universe u

variable {α : Type u} {m : OrderedMap α} {key : String} {value : α}

/-- The keys of a map are all different. -/
theorem nodup_keys (m : OrderedMap α) : m.keys.Nodup := m.nodup

/-- A map has as many keys as entries. -/
theorem length_keys (m : OrderedMap α) : m.keys.length = m.size := List.length_map _

/-- What a key finds is one of the entries. -/
theorem mem_entries_of_find (h : m.find? key = some value) : (key, value) ∈ m.entries := by
  obtain ⟨entry, hentry, rfl⟩ := Option.map_eq_some_iff.mp h
  have hkey : entry.1 = key := by simpa using List.find?_some hentry
  exact hkey ▸ List.mem_of_find?_eq_some hentry

/-- A key that has an entry finds something. -/
theorem exists_find_of_mem_keys (h : key ∈ m.keys) : ∃ value, m.find? key = some value := by
  obtain ⟨entry, hentry, rfl⟩ := List.mem_map.mp h
  have hsome : (m.entries.find? fun e => e.1 = entry.1).isSome :=
    List.find?_isSome.mpr ⟨entry, hentry, by simp⟩
  obtain ⟨found, hfound⟩ := Option.isSome_iff_exists.mp hsome
  exact ⟨found.2, by simp [find?, hfound]⟩

/-- A key finds the value of its entry. -/
theorem find_of_mem_entries (h : (key, value) ∈ m.entries) : m.find? key = some value := by
  obtain ⟨other, hother⟩ := exists_find_of_mem_keys (List.mem_map_of_mem h)
  have heq := List.inj_on_of_nodup_map m.nodup (mem_entries_of_find hother) h rfl
  cases heq
  exact hother

/-- A key finds something exactly if it is among the keys. -/
theorem mem_keys_iff : key ∈ m.keys ↔ ∃ value, m.find? key = some value := by
  refine ⟨exists_find_of_mem_keys, ?_⟩
  rintro ⟨value, hvalue⟩
  exact List.mem_map_of_mem (mem_entries_of_find hvalue)

/-- A map contains the keys of its entries. -/
theorem contains_iff : m.contains key = true ↔ key ∈ m.keys := by
  simp [contains, keys]

/-- A map contains the keys that find something. -/
theorem contains_eq_isSome (m : OrderedMap α) (key : String) :
    m.contains key = (m.find? key).isSome := by
  rw [Bool.eq_iff_iff, contains_iff, mem_keys_iff, Option.isSome_iff_exists]

/-! ## Writing a key -/

/-- A key that is written finds what was written. -/
theorem find_insert_self (m : OrderedMap α) (key : String) (value : α) :
    (m.insert key value).find? key = some value := by
  refine find_of_mem_entries ?_
  unfold insert
  split
  · rename_i hkey
    obtain ⟨entry, hentry, rfl⟩ := List.mem_map.mp (contains_iff.mp hkey)
    exact List.mem_map.mpr ⟨entry, hentry, if_pos rfl⟩
  · exact List.mem_append_right _ (List.mem_singleton_self _)

/-- Other keys find what they found before. -/
theorem find_insert_of_ne {other : String} (h : other ≠ key) :
    (m.insert key value).find? other = m.find? other := by
  unfold insert find?
  split
  · -- a replaced entry is passed over in both lists
    dsimp only [replaced]
    rw [List.find?_map]
    have hsame : ((fun entry : String × α => decide (entry.1 = other)) ∘
        fun entry => if entry.1 = key then (key, value) else entry) =
        fun entry => decide (entry.1 = other) := by
      funext entry
      by_cases hentry : entry.1 = key <;> simp [hentry]
    rw [hsame, Option.map_map]
    refine Option.map_congr fun entry hentry => ?_
    have hother : entry.1 = other := by simpa using List.find?_some hentry
    simp [hother, h]
  · simp [List.find?_append, h.symm]

/-- A new key goes to the end, and any other keeps its place. -/
theorem keys_insert (m : OrderedMap α) (key : String) (value : α) :
    (m.insert key value).keys = if key ∈ m.keys then m.keys else m.keys ++ [key] := by
  unfold insert
  by_cases h : m.contains key
  · rw [dif_pos h, if_pos (contains_iff.mp h)]
    exact map_fst_replaced key value m.entries
  · rw [dif_neg h, if_neg (fun hkey => h (contains_iff.mpr hkey))]
    exact List.map_append

/-! ## Removing a key -/

/-- A key that is removed finds nothing. -/
theorem find_erase_self (m : OrderedMap α) (key : String) : (m.erase key).find? key = none := by
  simp [find?, erase]

/-- Other keys find what they found before. -/
theorem find_erase_of_ne {other : String} (h : other ≠ key) :
    (m.erase key).find? other = m.find? other := by
  unfold find? erase
  rw [List.find?_filter]
  congr 2
  funext entry
  by_cases hentry : entry.1 = other <;> simp [hentry, h]

/-- The other keys keep their order. -/
theorem keys_erase (m : OrderedMap α) (key : String) :
    (m.erase key).keys = m.keys.erase key := by
  rw [m.nodup_keys.erase_eq_filter, keys, keys, List.filter_map]
  refine congrArg (List.map Prod.fst) (List.filter_congr fun entry _ => ?_)
  by_cases h : entry.1 = key <;> simp [h]

/-! ## Values -/

/-- What a key finds is one of the values. -/
theorem mem_values_of_find (h : m.find? key = some value) : value ∈ m.values :=
  List.mem_map_of_mem (mem_entries_of_find h)

/-- Writing a key brings in no value but the one written. -/
theorem mem_values_insert {old : α} (h : old ∈ (m.insert key value).values) :
    old = value ∨ old ∈ m.values := by
  obtain ⟨entry, hentry, rfl⟩ := List.mem_map.mp h
  unfold insert at hentry
  split at hentry
  · obtain ⟨before, hbefore, rfl⟩ := List.mem_map.mp hentry
    split
    · exact .inl rfl
    · exact .inr (List.mem_map_of_mem hbefore)
  · rcases List.mem_append.mp hentry with hentry | hentry
    · exact .inr (List.mem_map_of_mem hentry)
    · exact .inl (by rw [List.mem_singleton.mp hentry])

/-- Removing a key brings in no value. -/
theorem mem_values_erase {old : α} (h : old ∈ (m.erase key).values) : old ∈ m.values := by
  obtain ⟨entry, hentry, rfl⟩ := List.mem_map.mp h
  exact List.mem_map_of_mem (List.mem_of_mem_filter hentry)

/-- The values of a map made of several entries are values of these. -/
theorem mem_values_insertAll {old : α} {entries : List (String × α)} :
    old ∈ (m.insertAll entries).values → old ∈ m.values ∨ old ∈ entries.map Prod.snd := by
  induction entries generalizing m with
  | nil => exact .inl
  | cons entry rest ih =>
      intro h
      rcases ih h with h | h
      · rcases mem_values_insert h with rfl | h
        · exact .inr (List.mem_cons_self ..)
        · exact .inl h
      · exact .inr (List.mem_cons_of_mem _ h)

/-- The values of a map made of a list of entries are values of these. -/
theorem mem_values_ofList {old : α} {entries : List (String × α)}
    (h : old ∈ (ofList entries).values) : old ∈ entries.map Prod.snd := by
  rcases mem_values_insertAll h with h | h
  · cases h
  · exact h

end ScriptEngine.OrderedMap

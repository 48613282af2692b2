import Mathlib.Data.List.Perm.Subperm
import ScriptEngine.Proofs.Comparison
import ScriptEngine.Value.Printer

/-!
# The bound of printing

`Store.displayWithin` prints a value below a path of collections and enters at most a
given number of them.  A path does not repeat itself, and every collection that has
something in it is one of the store, so a number that exceeds the collections left
off the path is never used up: printing ends by itself on cyclic values too.

* `Store.OpenPath` — the paths that printing goes down;
* `Store.displayWithin_bound` — all sufficient bounds print the same text.
-/

namespace ScriptEngine.Store

variable {s : Store}

variable (s) in
/-- Every array and every map of the store. -/
def collections : List Collection :=
  (List.range s.arrays.size).map (fun i => .array ⟨i⟩) ++
    (List.range s.maps.size).map fun i => .map ⟨i⟩

theorem length_collections : s.collections.length = s.collectionCount := by
  simp [collections, collectionCount]

theorem array_mem_collections {ref : ArrayRef} (h : ref.index < s.arrays.size) :
    .array ref ∈ s.collections :=
  List.mem_append_left _ (List.mem_map.mpr ⟨ref.index, List.mem_range.mpr h, rfl⟩)

theorem map_mem_collections {ref : MapRef} (h : ref.index < s.maps.size) :
    .map ref ∈ s.collections :=
  List.mem_append_right _ (List.mem_map.mpr ⟨ref.index, List.mem_range.mpr h, rfl⟩)

variable (s) in
/-- A path of collections of the store, none of them twice, with a bound that exceeds
the number of those left. -/
structure OpenPath (path : List Collection) (depth : Nat) : Prop where
  nodup : path.Nodup
  within : path ⊆ s.collections
  bound : s.collectionCount < depth + path.length

/-- A path is no longer than there are collections. -/
theorem OpenPath.length_le {path : List Collection} {depth : Nat} (h : s.OpenPath path depth) :
    path.length ≤ s.collectionCount := by
  rw [← length_collections]
  exact (List.subperm_of_subset h.nodup h.within).length_le

/-- The bound is never used up. -/
theorem OpenPath.depth_pos {path : List Collection} {depth : Nat} (h : s.OpenPath path depth) :
    0 < depth := by
  have hlength := h.length_le
  have hbound := h.bound
  omega

/-- Going down to another collection of the store takes one off the bound. -/
theorem OpenPath.cons {path : List Collection} {depth : Nat} {c : Collection}
    (h : s.OpenPath path (depth + 1)) (hnew : c ∉ path) (hc : c ∈ s.collections) :
    s.OpenPath (c :: path) depth where
  nodup := List.nodup_cons.mpr ⟨hnew, h.nodup⟩
  within := List.cons_subset.mpr ⟨hc, h.within⟩
  bound := by
    have hbound := h.bound
    rw [List.length_cons]
    omega

/-- **All sufficient bounds print the same text.** -/
theorem displayWithin_bound {depth depth' : Nat} {path : List Collection} {value : Value}
    (h : s.OpenPath path depth) (h' : s.OpenPath path depth') :
    s.displayWithin depth path value = s.displayWithin depth' path value := by
  induction depth generalizing depth' path value with
  | zero => exact absurd h.depth_pos (Nat.lt_irrefl 0)
  | succ depth ih =>
      cases depth' with
      | zero => exact absurd h'.depth_pos (Nat.lt_irrefl 0)
      | succ depth' =>
          cases value with
          | array ref =>
              unfold displayWithin
              split
              · rfl
              · rename_i hnew
                have hnew : Collection.array ref ∉ path := by simpa using hnew
                have hitems :
                    (s.items ref).toList.map (s.displayWithin depth (.array ref :: path)) =
                    (s.items ref).toList.map (s.displayWithin depth' (.array ref :: path)) := by
                  refine List.map_congr_left fun item hitem => ?_
                  have hc := array_mem_collections (array_index_lt hitem)
                  exact ih (h.cons hnew hc) (h'.cons hnew hc)
                dsimp only
                rw [hitems]
          | map ref =>
              unfold displayWithin
              split
              · rfl
              · rename_i hnew
                have hnew : Collection.map ref ∉ path := by simpa using hnew
                have hentries : ∀ entry ∈ (s.entries ref).entries,
                    s.displayWithin depth (.map ref :: path) entry.2 =
                      s.displayWithin depth' (.map ref :: path) entry.2 := by
                  intro entry hentry
                  have hc := map_mem_collections (map_index_lt hentry)
                  exact ih (h.cons hnew hc) (h'.cons hnew hc)
                dsimp only
                rw [List.map_congr_left fun entry hentry => by rw [hentries entry hentry]]
          | _ => rfl

end ScriptEngine.Store

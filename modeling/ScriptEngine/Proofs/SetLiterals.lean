import Mathlib.Data.List.Induction
import ScriptEngine.Proofs.BuiltinEffects
import ScriptEngine.Proofs.Equality
import ScriptEngine.Proofs.MapHistories

/-!
# Set literals

A set literal compares each item with those it has kept so far, and leaves it out if it equals
one of them.  Equality is transitive and symmetric, so that an item is left out exactly if it
equals any earlier one, and membership in the set is membership in the list of the items.

* `Store.Has`, `Store.Leaves` — what a value consists of, and a later store in which that is
  as it was;
* `Store.equal_of_leaves` — equality is as it was then;
* `Store.firsts` — the values that equal no earlier one, `Store.any_firsts` and
  `Store.pairwise_firsts` about them;
* `Eval.Yields` — items that evaluate in order and leave the values before them as they were;
* `Eval.distinct_of_yields` — the scan, from an item to the end of the literal;
* `Eval.set_literal_exact` — the literal and the membership in it.
-/

namespace ScriptEngine

namespace Store

variable {s s' s'' : Store} {u v w : Value} {values : List Value}

/-! ## Values that stay as they were -/

/-- What a value consists of: itself, and what the collections among it hold. -/
inductive Has (s : Store) (v : Value) : Value → Prop
  | self : Has s v v
  | item {ref : ArrayRef} {w : Value} : Has s v (.array ref) → w ∈ s.items ref → Has s v w
  | entry {ref : MapRef} {key : String} {w : Value} : Has s v (.map ref) →
      (s.entries ref).find? key = some w → Has s v w

/-- Nothing is to be seen of a change in a value itself: a collection holds what it held, and
a host object counts as the same number. -/
def SameAt (s s' : Store) : Value → Prop
  | .array ref => s'.items ref = s.items ref
  | .map ref => s'.entries ref = s.entries ref
  | .object ref => (s'.host ref).number = (s.host ref).number
  | _ => True

/-- A later store in which a value, with all that it consists of, is as it was. -/
def Leaves (s s' : Store) (v : Value) : Prop := ∀ w, s.Has v w → s.SameAt s' w

/-- What a part consists of, the whole consists of. -/
theorem Has.trans (h : s.Has v w) (h' : s.Has w u) : s.Has v u := by
  induction h' with
  | self => exact h
  | item _ hitem ih => exact .item ih hitem
  | entry _ hentry ih => exact .entry ih hentry

theorem Leaves.refl (s : Store) (v : Value) : s.Leaves s v := by
  intro w _
  cases w with
  | array | map | object => exact rfl
  | _ => trivial

theorem Leaves.has (h : s.Leaves s' v) (hw : s.Has v w) : s.Leaves s' w :=
  fun u hu => h u (hw.trans hu)

/-- A value that is as it was consists of what it consisted of. -/
theorem Leaves.has_iff (h : s.Leaves s' v) : s'.Has v w ↔ s.Has v w := by
  constructor
  · intro hw
    induction hw with
    | self => exact .self
    | item _ hitem ih =>
      have hsame : s'.items _ = s.items _ := h _ ih
      exact .item ih (hsame ▸ hitem)
    | entry _ hentry ih =>
      have hsame : s'.entries _ = s.entries _ := h _ ih
      exact .entry ih (hsame ▸ hentry)
  · intro hw
    induction hw with
    | self => exact .self
    | item hbase hitem ih =>
      have hsame : s'.items _ = s.items _ := h _ hbase
      exact .item ih (hsame ▸ hitem)
    | entry hbase hentry ih =>
      have hsame : s'.entries _ = s.entries _ := h _ hbase
      exact .entry ih (hsame ▸ hentry)

/-- The earlier store has the value as it is in the later one. -/
theorem Leaves.symm (h : s.Leaves s' v) : s'.Leaves s v := by
  intro w hw
  have hsame := h w (h.has_iff.mp hw)
  cases w with
  | array | map | object => exact Eq.symm hsame
  | _ => trivial

/-- A store after the later one. -/
theorem Leaves.trans (h : s.Leaves s' v) (h' : s'.Leaves s'' v) : s.Leaves s'' v := by
  intro w hw
  have hfirst := h w hw
  have hsecond := h' w (h.has_iff.mpr hw)
  cases w with
  | array | map | object => exact Eq.trans hsecond hfirst
  | _ => trivial

/-- A scalar consists of itself. -/
theorem eq_of_has_scalar (hv : v.isScalar = true) (h : s.Has v w) : w = v := by
  induction h with
  | self => rfl
  | item _ _ ih =>
    rw [← ih] at hv
    cases hv
  | entry _ _ ih =>
    rw [← ih] at hv
    cases hv

/-- Values are as they were if no collection that is there has changed. -/
theorem leaves_of_changesOnly (h : s.ChangesOnly none s') (hv : ∀ w, s.Has v w → s.Holds w) :
    s.Leaves s' v := by
  intro w hw
  have hhere := hv w hw
  cases w with
  | array ref => exact h.items ref hhere nofun
  | map ref => exact h.entries ref hhere nofun
  | object ref =>
    show (s'.hosts.getD ref.index default).number = (s.hosts.getD ref.index default).number
    rw [h.hosts]
  | _ => trivial

/-! ## Equality of such values -/

/-- The number that orders a value is the one it was. -/
theorem ordinal_of_leaves (h : s.Leaves s' v) : s'.ordinal v = s.ordinal v := by
  cases v with
  | object ref => exact h _ .self
  | _ => rfl

/-- Values that are as they were agree as they did, and so do their parts. -/
theorem Alike.of_leaves {R : Value → Value → Prop} (hu : s.Leaves s' u) (hv : s.Leaves s' v)
    (h : s.Alike R u v) :
    s'.Alike (fun x y => R x y ∧ s.Leaves s' x ∧ s.Leaves s' y) u v := by
  cases h with
  | nil => exact .nil
  | text value => exact .text value
  | number ha hb =>
    exact .number ((ordinal_of_leaves hu).trans ha) ((ordinal_of_leaves hv).trans hb)
  | object hview =>
    have hsame : (s'.host _).number = (s.host _).number := hu _ .self
    exact .object (hsame.trans hview)
  | function h => exact .function h
  | @array a b h =>
    have ha : s'.items a = s.items a := hu _ .self
    have hb : s'.items b = s.items b := hv _ .self
    obtain ⟨hlength, hitems⟩ := List.forall₂_iff_zip.mp h
    refine .array (List.forall₂_iff_zip.mpr ⟨by rw [ha, hb, hlength], fun {x y} hxy => ?_⟩)
    rw [ha, hb] at hxy
    obtain ⟨hx, hy⟩ := List.of_mem_zip hxy
    exact ⟨hitems hxy, hu.has (.item .self (Array.mem_toList_iff.mp hx)),
      hv.has (.item .self (Array.mem_toList_iff.mp hy))⟩
  | @map a b hkeys hvalues =>
    have ha : s'.entries a = s.entries a := hu _ .self
    have hb : s'.entries b = s.entries b := hv _ .self
    refine .map (by rw [ha, hb]; exact hkeys) fun key x y hx hy => ?_
    rw [ha] at hx
    rw [hb] at hy
    exact ⟨hvalues key x y hx hy, hu.has (.entry .self hx), hv.has (.entry .self hy)⟩

/-- Values that are as they were are as equal as they were. -/
theorem Bisimilar.of_leaves (hu : s.Leaves s' u) (hv : s.Leaves s' v) (h : s.Bisimilar u v) :
    s'.Bisimilar u v := by
  refine ⟨fun x y => s.Bisimilar x y ∧ s.Leaves s' x ∧ s.Leaves s' y, ?_, h, hu, hv⟩
  rintro x y ⟨hxy, hx, hy⟩
  exact (isBisimulation_bisimilar x y hxy).of_leaves hx hy

/-- **Equality is as it was** between values that are as they were. -/
theorem equal_of_leaves (hu : s.Leaves s' u) (hv : s.Leaves s' v) :
    s'.equal u v = s.equal u v := by
  rw [Bool.eq_iff_iff, equal_iff_bisimilar, equal_iff_bisimilar]
  constructor
  · intro h
    exact h.of_leaves hu.symm hv.symm
  · intro h
    exact h.of_leaves hu hv

/-- Whether a value equals one of some others is as it was. -/
theorem any_equal_of_leaves (h : ∀ u ∈ values, s.Leaves s' u) (hv : s.Leaves s' v) :
    (values.any fun u => s'.equal u v) = values.any fun u => s.equal u v := by
  rw [Bool.eq_iff_iff, List.any_eq_true, List.any_eq_true]
  refine exists_congr fun u => and_congr_right fun hu => ?_
  rw [equal_of_leaves (h u hu) hv]

/-! ## The first of equal values -/

/-- Whether the value at a place of a list equals none before it. -/
def isFirst (s : Store) (values : List Value) (found : Value × Nat) : Bool :=
  (values.take found.2).all fun earlier => !s.equal earlier found.1

/-- The values that equal no earlier one, in order. -/
def firsts (s : Store) (values : List Value) : List Value :=
  (values.zipIdx.filter (s.isFirst values)).map Prod.fst

@[simp]
theorem firsts_nil (s : Store) : s.firsts [] = [] := rfl

theorem firsts_sublist (s : Store) (values : List Value) : (s.firsts values).Sublist values := by
  have h : (s.firsts values).Sublist (values.zipIdx.map Prod.fst) := List.filter_sublist.map _
  rwa [List.zipIdx_map_fst] at h

/-- One more value is kept unless it equals one before it. -/
theorem firsts_concat (s : Store) (values : List Value) (v : Value) :
    s.firsts (values ++ [v]) =
      if values.any fun earlier => s.equal earlier v then s.firsts values
      else s.firsts values ++ [v] := by
  have hbefore : ∀ found ∈ values.zipIdx,
      s.isFirst (values ++ [v]) found = s.isFirst values found := by
    intro found hfound
    have hi := List.snd_lt_of_mem_zipIdx hfound
    rw [isFirst, isFirst, List.take_append_of_le_length (by omega)]
  have hlast : s.isFirst (values ++ [v]) (v, values.length) =
      !values.any fun earlier => s.equal earlier v := by
    rw [isFirst, List.take_left, List.all_eq_not_any_not]
    simp only [Bool.not_not]
  rw [firsts, firsts, List.zipIdx_append, List.filter_append, List.filter_congr hbefore,
    List.map_append, Nat.zero_add, List.zipIdx_cons, List.zipIdx_nil]
  cases hknown : values.any fun earlier => s.equal earlier v with
  | true =>
    rw [hknown] at hlast
    rw [List.filter_cons_of_neg (ne_true_of_eq_false hlast)]
    exact List.append_nil _
  | false =>
    rw [hknown] at hlast
    rw [List.filter_cons_of_pos hlast]
    rfl

/-- What equals a value that equals a third one equals the third one. -/
theorem equal_trans (h : s.equal u v = true) (h' : s.equal v w = true) : s.equal u w = true := by
  rw [equal_iff_bisimilar] at *
  exact h.trans h'

/-- A value equals one that is kept exactly if it equals any. -/
theorem any_firsts (s : Store) (values : List Value) (v : Value) :
    (s.firsts values).any (fun earlier => s.equal earlier v) =
      values.any fun earlier => s.equal earlier v := by
  induction values using List.reverseRecOn with
  | nil => rfl
  | append_singleton values last ih =>
    rw [firsts_concat, List.any_append]
    split
    case isTrue hknown =>
      rw [ih]
      by_cases hlast : s.equal last v = true
      · -- what the last one equals is among the values, and equals the value too
        obtain ⟨earlier, hearlier, hequal⟩ := List.any_eq_true.mp hknown
        have hany : (values.any fun earlier => s.equal earlier v) = true :=
          List.any_eq_true.mpr ⟨earlier, hearlier, equal_trans hequal hlast⟩
        rw [hany, Bool.true_or]
      · rw [List.any_cons, Bool.eq_false_of_not_eq_true hlast, List.any_nil, Bool.or_false,
          Bool.or_false]
    case isFalse => rw [List.any_append, ih]

/-- Values that are kept are unequal. -/
theorem pairwise_firsts (s : Store) (values : List Value) :
    (s.firsts values).Pairwise fun earlier later => s.equal earlier later = false := by
  induction values using List.reverseRecOn with
  | nil => exact .nil
  | append_singleton values last ih =>
    rw [firsts_concat]
    split
    case isTrue => exact ih
    case isFalse hnew =>
      refine List.pairwise_append.mpr ⟨ih, List.pairwise_singleton _ _, ?_⟩
      intro earlier hearlier later hlater
      obtain rfl := List.mem_singleton.mp hlater
      rw [Bool.not_eq_true, List.any_eq_false] at hnew
      have hmem := (s.firsts_sublist values).subset hearlier
      exact Bool.eq_false_of_not_eq_true (hnew earlier hmem)

/-- Values that are as they were have the first of equal ones where they had them. -/
theorem firsts_of_leaves (h : ∀ v ∈ values, s.Leaves s' v) : s'.firsts values = s.firsts values := by
  induction values using List.reverseRecOn with
  | nil => rw [firsts_nil, firsts_nil]
  | append_singleton values last ih =>
    have hlast := h last (by simp)
    have hvalues : ∀ v ∈ values, s.Leaves s' v := fun v hv => h v (List.mem_append_left _ hv)
    have hany : (values.any fun earlier => s'.equal earlier last) =
        values.any fun earlier => s.equal earlier last :=
      any_equal_of_leaves hvalues hlast
    rw [firsts_concat, firsts_concat, hany, ih hvalues]

end Store

namespace Eval

variable {rules : Semantics} {ev : Evaluator} {ctx : ContextRef} {r r₁ r₂ : Run}
  {earlier values made : List Value} {items : List Node}

/-! ## The scan -/

/-- **Items that evaluate in order** to the values given, where each leaves the values before it
as they were, and those before the first one too. -/
inductive Yields (ev : Evaluator) (ctx : ContextRef) :
    (earlier : List Value) → Run → List Node → List Value → Run → Prop
  | nil {earlier : List Value} {r : Run} : Yields ev ctx earlier r [] [] r
  | cons {earlier : List Value} {r r₁ r₂ : Run} {item : Node} {v : Value} {items : List Node}
      {values : List Value} : ev item ctx r = .ok v r₁ →
      (∀ u ∈ earlier, r.store.Leaves r₁.store u) →
      Yields ev ctx (earlier ++ [v]) r₁ items values r₂ →
      Yields ev ctx earlier r (item :: items) (v :: values) r₂

/-- **The scan** from an item on: if what is kept so far are the first of equal values, it is
so at the end. -/
theorem distinct_of_yields (h : Yields ev ctx earlier r items values r₂)
    (hmade : made.reverse = r.store.firsts earlier) :
    ∃ kept, distinct ev ctx items made r = .ok kept r₂ ∧
      kept.reverse = r₂.store.firsts (earlier ++ values) := by
  induction h generalizing made with
  | nil =>
    rw [List.append_nil]
    exact ⟨made, rfl, hmade⟩
  | @cons earlier r r₁ r₂ item v items values hitem hleaves _ ih =>
    have hkept : made.reverse = r₁.store.firsts earlier := by
      rw [hmade, Store.firsts_of_leaves hleaves]
    have hknown : (made.any fun seen => r₁.store.equal seen v) =
        earlier.any fun seen => r₁.store.equal seen v := by
      rw [← List.any_reverse, hkept, Store.any_firsts]
    have hmade₁ : (if made.any fun seen => r₁.store.equal seen v then made
        else v :: made).reverse = r₁.store.firsts (earlier ++ [v]) := by
      rw [Store.firsts_concat, hknown, ← hkept]
      split
      · rfl
      · exact List.reverse_cons
    obtain ⟨kept, hkept, hfirsts⟩ := ih hmade₁
    refine ⟨kept, ?_, ?_⟩
    · rw [distinct, ok_bind hitem, look_bind]
      exact hkept
    · rw [hfirsts, List.append_assoc]
      rfl

/-! ## Membership -/

/-- Whether a value is in an array. -/
theorem binary_within_array (rules : Semantics) (x : Value) (ref : ArrayRef) (r : Run) :
    binary rules .within x (.array ref) r =
      .ok (.bool ((r.store.items ref).any fun item => r.store.equal item x)) r := by
  show EStateM.Result.ok
    (Value.bool (decide (((r.store.items ref).any fun item => r.store.equal item x) = true))) r = _
  rw [Bool.decide_eq_true]

/-- A builtin method of an array, called by its name. -/
theorem callMethod_array {ref : ArrayRef} {args : List Value} {method : String} {b : Builtin}
    {result : Value} (hshown : rules.members.shows "array" method = true)
    (hname : Builtin.ofArray? method = some b)
    (hrun : b.run (.array ref) args r.store = .ok result r.store) :
    callMethod rules ev (.array ref) method args ctx r = .ok result r := by
  have hfound : rules.members.method? r.store (.array ref) method args = some (.builtin b) :=
    Builtin.method_of_ofName hname hshown
  rw [callMethod_found ctx hfound]
  exact resolve_ok hrun

/-- What `contains` says of an array. -/
theorem contains_array {ref : ArrayRef}
    (hshown : ∀ member, rules.members.shows "array" member = true) (x : Value) (r : Run) :
    callMethod rules ev (.array ref) "contains" [x] ctx r =
      .ok (.bool ((r.store.items ref).any fun item => r.store.equal item x)) r :=
  callMethod_array (hshown _) rfl rfl

/-- What `indexOf` says of an array: a position exactly if the value is in it. -/
theorem indexOf_array {ref : ArrayRef}
    (hshown : ∀ member, rules.members.shows "array" member = true) (x : Value) (r : Run) :
    ∃ place : Int, callMethod rules ev (.array ref) "indexOf" [x] ctx r = .ok (.int place) r ∧
      (0 ≤ place ↔ ((r.store.items ref).any fun item => r.store.equal item x) = true) := by
  have hindex : callMethod rules ev (.array ref) "indexOf" [x] ctx r =
      .ok (Builtin.placeValue ((r.store.items ref).findIdx? fun item => r.store.equal item x)) r :=
    callMethod_array (hshown _) rfl rfl
  rw [← Array.findIdx?_isSome]
  cases hplace : (r.store.items ref).findIdx? fun item => r.store.equal item x with
  | none =>
    rw [hplace] at hindex
    exact ⟨-1, hindex, by decide⟩
  | some i =>
    rw [hplace] at hindex
    exact ⟨i, hindex, iff_of_true (Int.natCast_nonneg i) rfl⟩

/-- **Set literals remove exactly the duplicates.**  Take items that evaluate in order to some
values, each leaving the values before it as they were, and let these have no parts outside the
store.  The literal gives a new array of those values that equal no earlier one, in order, and
changes nothing else.  In any later run in which the values are as they were and the array holds
what it held, its items are pairwise unequal, and of any value `=~` and `contains` say the same
of it as `=~` says of an array of all the values; `indexOf` gives a position if they say yes,
else a negative number. -/
theorem set_literal_exact {fuel : Nat} {span : Span}
    (hshown : ∀ member, rules.members.shows "array" member = true)
    (hitems : Yields ev ctx [] r items values r₁)
    (hheld : ∀ v ∈ values, ∀ w, r₁.store.Has v w → r₁.store.Holds w) :
    let kept := r₁.store.firsts values
    let r₂ : Run := { r₁ with store := (r₁.store.newArray kept.toArray).2 }
    let set : ArrayRef := ⟨r₁.store.arrays.size⟩
    node rules fuel ev (.set span items) ctx r = .ok (.array set) r₂ ∧
      r₂.store.items set = kept.toArray ∧ (∀ v ∈ values, r₁.store.Leaves r₂.store v) ∧
      kept.Sublist values ∧
      ∀ r₃ : Run, (∀ v ∈ values, r₂.store.Leaves r₃.store v) →
        r₃.store.items set = kept.toArray →
        kept.Pairwise (fun earlier later => r₃.store.equal earlier later = false) ∧
        ∀ (x : Value) (whole : ArrayRef), r₃.store.items whole = values.toArray →
          ∃ (found : Bool) (place : Int),
            binary rules .within x (.array set) r₃ = .ok (.bool found) r₃ ∧
            callMethod rules ev (.array set) "contains" [x] ctx r₃ = .ok (.bool found) r₃ ∧
            binary rules .within x (.array whole) r₃ = .ok (.bool found) r₃ ∧
            callMethod rules ev (.array set) "indexOf" [x] ctx r₃ = .ok (.int place) r₃ ∧
            (0 ≤ place ↔ found = true) := by
  intro kept r₂ set
  have hstart : ([] : List Value).reverse = r.store.firsts [] := rfl
  obtain ⟨made, hdistinct, hmade⟩ := distinct_of_yields hitems hstart
  have hleaves : ∀ v ∈ values, r₁.store.Leaves r₂.store v := by
    intro v hv
    exact Store.leaves_of_changesOnly (r₁.store.changesOnly_newArray _) (hheld v hv)
  have hset : r₂.store.items set = kept.toArray := by
    simp [r₂, set, Store.items, Store.newArray]
  refine ⟨?_, hset, hleaves, r₁.store.firsts_sublist values, ?_⟩
  · have hmade : made.reverse = kept := hmade
    show (distinct ev ctx items [] >>= fun made => newArray made.reverse.toArray) r = _
    rw [ok_bind hdistinct, hmade]
    rfl
  · intro r₃ hlater hheld₃
    have hkept : r₃.store.firsts values = kept :=
      Store.firsts_of_leaves fun v hv => (hleaves v hv).trans (hlater v hv)
    have hunequal := r₃.store.pairwise_firsts values
    rw [hkept] at hunequal
    refine ⟨hunequal, fun x whole hwhole => ?_⟩
    have hsame : ((r₃.store.items set).any fun item => r₃.store.equal item x) =
        (r₃.store.items whole).any fun item => r₃.store.equal item x := by
      rw [hheld₃, hwhole, List.any_toArray, List.any_toArray, ← hkept, Store.any_firsts]
    have hindexOf : ∃ place : Int,
        callMethod rules ev (.array set) "indexOf" [x] ctx r₃ = .ok (.int place) r₃ ∧ _ :=
      indexOf_array hshown x r₃
    obtain ⟨place, hindex, hplace⟩ := hindexOf
    refine ⟨_, place, binary_within_array rules x set r₃, contains_array hshown x r₃, ?_,
      hindex, hplace⟩
    rw [hsame]
    exact binary_within_array rules x whole r₃

/-- Of a number, an equal truth value and a text, the number and the text are kept. -/
theorem set_literal_exact_scalars :
    let rules : Semantics := ⟨⟨true⟩, ⟨none, .none⟩⟩
    let r : Run := ⟨{ Store.empty with contexts := #[.vars .empty none] }, .standard, .top 8⟩
    let ev := rules.evaluate 1
    let items : List Node :=
      [.literal default (.number 1), .literal default (.bool true), .literal default (.text "1")]
    let values : List Value := [.number 1, .bool true, .text "1"]
    (∀ member, rules.members.shows "array" member = true) ∧
      Yields ev ⟨0⟩ [] r items values r ∧
      (∀ v ∈ values, ∀ w, r.store.Has v w → r.store.Holds w) ∧
      node rules 1 ev (.set default items) ⟨0⟩ r =
        .ok (.array ⟨0⟩)
          { r with store := (r.store.newArray #[.number 1, .text "1"]).2 } := by
  intro rules r ev items values
  have hshown : ∀ member, rules.members.shows "array" member = true := fun _ => rfl
  have hscalar : ∀ v ∈ values, v.isScalar = true := by
    simp [values, Value.isScalar]
  have hitems : Yields ev ⟨0⟩ [] r items values r := by
    have hone : ev (.literal default (.number 1)) ⟨0⟩ r = .ok (.number 1) r := by
      with_unfolding_all rfl
    have htrue : ev (.literal default (.bool true)) ⟨0⟩ r = .ok (.bool true) r := by
      with_unfolding_all rfl
    have htext : ev (.literal default (.text "1")) ⟨0⟩ r = .ok (.text "1") r := by
      with_unfolding_all rfl
    refine .cons hone ?_ (.cons htrue ?_ (.cons htext ?_ .nil))
    all_goals
      intro u _
      exact Store.Leaves.refl _ u
  have hheld : ∀ v ∈ values, ∀ w, r.store.Has v w → r.store.Holds w := by
    intro v hv w hw
    have hw := Store.eq_of_has_scalar (hscalar v hv) hw
    have hscalar := hscalar v hv
    rw [← hw] at hscalar
    cases w with
    | array | map => cases hscalar
    | _ => trivial
  have hfirsts : r.store.firsts values = [.number 1, .text "1"] := by with_unfolding_all rfl
  have hnode : node rules 1 ev (.set default items) ⟨0⟩ r = .ok (.array ⟨0⟩)
      { r with store := (r.store.newArray (r.store.firsts values).toArray).2 } :=
    (set_literal_exact hshown hitems hheld).1
  rw [hfirsts] at hnode
  exact ⟨hshown, hitems, hheld, hnode⟩

end Eval

end ScriptEngine

import ScriptEngine.Proofs.ArrayIndices
import ScriptEngine.Proofs.WordOperators

/-!
# Positions in array methods

The methods of arrays that take a position look at their argument through a signed word:
they round it toward zero.  An access by index does not round, so `items.get(0.5)` is the
first item while `items[0.5]` is nothing.  On integers the two agree.

* `Builtin.element_place`, `Builtin.element_no_place` — the check of a position;
* `Builtin.run_place`, `Builtin.run_no_place` — the methods at a position;
* `Eval.array_methods_round` — what they give and what they change, next to the access by
  index.
-/

namespace ScriptEngine

/-- An integer is its own integer part. -/
theorem Number.towardZero_intCast (m : Int) : (m : Number).towardZero = m := by
  unfold towardZero
  split
  · exact Int.floor_intCast m
  · exact Int.ceil_intCast m

namespace Builtin

/-! ## The check of a position -/

section Positions

variable {s : Store} {method : String} {args : List Value} {place length i : Nat} {n : Number}

/-- The argument is asked for as a word. -/
theorem wordArg_number (hn : args[place]? = some (.number n)) :
    wordArg method args place s = .ok n.clampInt64 s := by
  rw [wordArg, hn]
  rfl

/-- A position that is refused is shown as the argument. -/
theorem outOfBounds_number {α : Type} (n : Number) (length : Nat) (s : Store) :
    (outOfBounds (.number n) length : Action α) s =
      .error (.ofCause (.indexOutOfBounds n.render length)) s := by
  have hshown : s.display (.number n) = n.render := s.plain_number n
  rw [outOfBounds, ContextRef.get_bind, hshown]
  rfl

variable (hn : args[place]? = some (.number n)) (hlength : length < 2 ^ 63)

include hn hlength

/-- **A number that rounds to a place below the length** is accepted as that place. -/
theorem element_place (hi : i < length) (hplace : n.towardZero = i) :
    element method args place length s = .ok i s := by
  have hclamp : n.clampInt64 = i := by
    rw [Number.clampInt64_eq]
    omega
  have hposition : position method args place length s = .ok i s := by
    rw [position, ok_bind (wordArg_number hn), hclamp, if_pos (by omega)]
    rfl
  rw [element, ok_bind hposition, if_pos hi]
  rfl

/-- **Any other number** is refused. -/
theorem element_no_place (hplace : ∀ i < length, n.towardZero ≠ (i : Nat)) :
    element method args place length s =
      .error (.ofCause (.indexOutOfBounds n.render length)) s := by
  have hgiven : args.getD place .nil = .number n := by
    rw [List.getD_eq_getElem?_getD, hn]
    rfl
  -- a number beyond the words is clamped to one that is no place either
  have hclamp : ¬(0 ≤ n.clampInt64 ∧ n.clampInt64 < length) := by
    rintro ⟨hnonneg, hlt⟩
    apply hplace n.clampInt64.toNat (by omega)
    rw [Number.clampInt64_eq] at *
    omega
  rw [element]
  by_cases h : 0 ≤ n.clampInt64 ∧ n.clampInt64 ≤ length
  · have hposition : position method args place length s = .ok n.clampInt64.toNat s := by
      rw [position, ok_bind (wordArg_number hn), if_pos h]
      rfl
    rw [ok_bind hposition, if_neg (by omega), hgiven, outOfBounds_number]
  · have hposition : position method args place length s =
        .error (.ofCause (.indexOutOfBounds n.render length)) s := by
      rw [position, ok_bind (wordArg_number hn), if_neg h, hgiven, outOfBounds_number]
    exact error_bind hposition

end Positions

/-! ## The methods -/

/-- How many arguments follow the position in the methods of arrays that take one. -/
def others? : Builtin → Option Nat
  | arrayGet | arrayRemove => some 0
  | arraySet => some 1
  | _ => none

section Methods

variable {s : Store} {ref : ArrayRef} {n : Number} {others : List Value} {b : Builtin}

theorem run_arrayGet (s : Store) (ref : ArrayRef) (k : Value) :
    arrayGet.run (.array ref) [k] s = (do
      let i ← element "get" [k] 0 (s.items ref).size
      return (s.items ref).getD i .nil : Action Value) s := rfl

theorem run_arraySet (s : Store) (ref : ArrayRef) (k v : Value) :
    arraySet.run (.array ref) [k, v] s = (do
      let i ← element "set" [k, v] 0 (s.items ref).size
      modify fun s => s.modifyItems ref fun items => items.set! i v
      return (s.items ref).getD i .nil : Action Value) s := rfl

theorem run_arrayRemove (s : Store) (ref : ArrayRef) (k : Value) :
    arrayRemove.run (.array ref) [k] s = (do
      let i ← element "remove" [k] 0 (s.items ref).size
      modify fun s => s.modifyItems ref fun items => items.eraseIdxIfInBounds i
      return (s.items ref).getD i .nil : Action Value) s := rfl

/-- **A method at a place of the array** gives the item that is there. -/
theorem run_place {i : Nat} (hothers : b.others? = some others.length)
    (hsize : (s.items ref).size < 2 ^ 63) (hi : i < (s.items ref).size)
    (hplace : n.towardZero = i) :
    ∃ s', b.run (.array ref) (.number n :: others) s = .ok (s.items ref)[i] s' ∧
      b.Effect (.array ref) (.number n :: others) s (s.items ref)[i] s' ∧
      (b.changesReceiver = false → s' = s) := by
  have helement (method : String) :
      element method (.number n :: others) 0 (s.items ref).size s = .ok i s :=
    element_place rfl hsize hi hplace
  have hitem : (s.items ref).getD i .nil = (s.items ref)[i] := by simp [hi]
  have hclamp : n.clampInt64 = i := by
    rw [Number.clampInt64_eq]
    omega
  cases b with
  | arrayGet =>
      obtain rfl := List.length_eq_zero_iff.mp (Option.some.inj hothers).symm
      refine ⟨s, ?_, effect_other rfl (.refl s), fun _ => rfl⟩
      rw [run_arrayGet, ok_bind (helement "get"), hitem]
      rfl
  | arraySet =>
      obtain ⟨v, rfl⟩ := List.length_eq_one_iff.mp (Option.some.inj hothers).symm
      refine ⟨_, ?_, hitem ▸ effect_set hi hclamp v, fun h => absurd h (by decide)⟩
      rw [run_arraySet, ok_bind (helement "set"), hitem]
      rfl
  | arrayRemove =>
      obtain rfl := List.length_eq_zero_iff.mp (Option.some.inj hothers).symm
      refine ⟨_, ?_, hitem ▸ effect_remove hi hclamp, fun h => absurd h (by decide)⟩
      rw [run_arrayRemove, ok_bind (helement "remove"), hitem]
      rfl
  | _ => cases hothers

/-- **A method at no place of the array** fails. -/
theorem run_no_place (hothers : b.others? = some others.length)
    (hsize : (s.items ref).size < 2 ^ 63)
    (hplace : ∀ i < (s.items ref).size, n.towardZero ≠ (i : Nat)) :
    b.run (.array ref) (.number n :: others) s =
      .error (.ofCause (.indexOutOfBounds n.render (s.items ref).size)) s := by
  have helement (method : String) : element method (.number n :: others) 0 (s.items ref).size s =
      .error (.ofCause (.indexOutOfBounds n.render (s.items ref).size)) s :=
    element_no_place rfl hsize hplace
  cases b with
  | arrayGet =>
      obtain rfl := List.length_eq_zero_iff.mp (Option.some.inj hothers).symm
      rw [run_arrayGet, error_bind (helement "get")]
  | arraySet =>
      obtain ⟨v, rfl⟩ := List.length_eq_one_iff.mp (Option.some.inj hothers).symm
      rw [run_arraySet, error_bind (helement "set")]
  | arrayRemove =>
      obtain rfl := List.length_eq_zero_iff.mp (Option.some.inj hothers).symm
      rw [run_arrayRemove, error_bind (helement "remove")]
  | _ => cases hothers

end Methods

end Builtin

namespace Eval

/-- **Methods of arrays round positions toward zero.**  Let `get`, `set` or `remove` be called
on an array, with any number as its first argument.  If the number, rounded toward zero, is a
place of the array, the call gives the item at that place, and does to the array what the
method does; `get` changes nothing at all.  If it is no place, the call finds nothing and
changes nothing: under strict options it fails with the number and the length, and otherwise
it gives nil.

The access by index does not round, and is at one with `get` on integers.  An array has fewer
items than a signed word can count, and its members are shown. -/
theorem array_methods_round {rules : Semantics} {ev : Evaluator} {ctx : ContextRef}
    {object key : Node} {rest : List Node} {name : String} {b : Builtin} {r r₁ r₂ r₃ : Run}
    {ref : ArrayRef} {n : Number} {others : List Value} (fuel : Nat) (span span' : Span)
    (hobject : ev object ctx r = .ok (.array ref) r₁) (hkey : ev key ctx r₁ = .ok (.number n) r₂)
    (hrest : all ev rest ctx r₂ = .ok others r₃) (hb : Builtin.ofArray? name = some b)
    (hothers : b.others? = some others.length)
    (hshown : ∀ member, rules.members.shows "array" member = true)
    (hsize : (r₃.store.items ref).size < 2 ^ 63) :
    let items := r₃.store.items ref
    let call := node rules fuel ev (.methodCall span object name (key :: rest)) ctx r
    (∀ i, ∀ hi : i < items.size, n.towardZero = (i : Nat) →
      ∃ s', call = .ok items[i] { r₃ with store := s' } ∧
        b.Effect (.array ref) (.number n :: others) r₃.store items[i] s' ∧
        (b.changesReceiver = false → s' = r₃.store)) ∧
    ((∀ i < items.size, n.towardZero ≠ (i : Nat)) →
      call = absent (.indexOutOfBounds n.render items.size) .nil r₃) ∧
    (b = .arrayGet → rest = [] → ∀ m : Int, n = (m : Number) →
      call = node rules fuel ev (.index span' object key) ctx r) := by
  intro items call
  have hcall : call = resolve (b.run (.array ref) (.number n :: others)) r₃ :=
    methodCall_builtin fuel span hobject (all_cons hkey hrest) hb (hshown name)
  have hplace : ∀ i, ∀ hi : i < items.size, n.towardZero = (i : Nat) →
      ∃ s', call = .ok items[i] { r₃ with store := s' } ∧
        b.Effect (.array ref) (.number n :: others) r₃.store items[i] s' ∧
        (b.changesReceiver = false → s' = r₃.store) := by
    intro i hi hn
    obtain ⟨s', hrun, heffect⟩ := Builtin.run_place hothers hsize hi hn
    exact ⟨s', hcall.trans (resolve_ok hrun), heffect⟩
  have hno_place : (∀ i < items.size, n.towardZero ≠ (i : Nat)) →
      call = absent (.indexOutOfBounds n.render items.size) .nil r₃ := fun hn =>
    hcall.trans (resolve_absent (Builtin.run_no_place hothers hsize hn) rfl)
  refine ⟨hplace, hno_place, ?_⟩
  rintro rfl rfl m rfl
  obtain rfl : r₃ = r₂ := by
    cases hrest
    rfl
  have hword : items.size ≤ 2 ^ 64 := Nat.le_of_lt (Nat.lt_trans hsize (by decide))
  rw [indexNode_operands span' hobject hkey]
  by_cases h : ∃ i < items.size, m = (i : Nat)
  · obtain ⟨i, hi, rfl⟩ := h
    obtain ⟨s', hget, -, hsame⟩ := hplace i hi (Number.towardZero_intCast i)
    obtain rfl : s' = r₃.store := hsame rfl
    rw [hget]
    exact (readIndex_item (hshown _) hword hi (Int.cast_natCast i)).symm
  · have hnone : ∀ i < items.size, m ≠ (i : Nat) := fun i hi hm => h ⟨i, hi, hm⟩
    rw [hno_place fun i hi hm => hnone i hi ((Number.towardZero_intCast m).symm.trans hm)]
    apply Eq.symm
    apply readIndex_no_item (hshown _)
    intro i hi hm
    exact hnone i hi (Int.cast_injective (hm.trans (Int.cast_natCast i).symm))

/-- The last of two items is removed by a position between the two. -/
theorem last_item_removed :
    let rules : Semantics := ⟨⟨true⟩, ⟨none, .none⟩⟩
    let s : Store :=
      { Store.empty with
        arrays := #[#[.number 10, .number 20]]
        contexts := #[.vars (.ofList [("a", .array ⟨0⟩)]) none] }
    let r : Run := ⟨s, Options.standard, .top 8⟩
    let ev := rules.evaluate 1
    let object : Node := .ident default "a"
    let key : Node := .literal default (.number (3 / 2))
    ev object ⟨0⟩ r = .ok (.array ⟨0⟩) r ∧ ev key ⟨0⟩ r = .ok (.number (3 / 2)) r ∧
      all ev [] ⟨0⟩ r = .ok [] r ∧ Builtin.ofArray? "remove" = some .arrayRemove ∧
      Builtin.arrayRemove.others? = some 0 ∧
      (∀ member, rules.members.shows "array" member = true) ∧ (s.items ⟨0⟩).size < 2 ^ 63 ∧
      ∃ s', node rules 1 ev (.methodCall default object "remove" [key]) ⟨0⟩ r =
          .ok (.number 20) { r with store := s' } ∧
        Builtin.arrayRemove.Effect (.array ⟨0⟩) [.number (3 / 2)] s (.number 20) s' := by
  intro rules s r ev object key
  have hobject : ev object ⟨0⟩ r = .ok (.array ⟨0⟩) r := by with_unfolding_all rfl
  have hkey : ev key ⟨0⟩ r = .ok (.number (3 / 2)) r := by with_unfolding_all rfl
  have hrest : all ev [] ⟨0⟩ r = .ok [] r := rfl
  have hname : Builtin.ofArray? "remove" = some .arrayRemove := rfl
  have hothers : Builtin.arrayRemove.others? = some ([] : List Value).length := rfl
  have hshown : ∀ member, rules.members.shows "array" member = true := fun _ => rfl
  have hsize : (s.items ⟨0⟩).size < 2 ^ 63 := by
    show 2 < 2 ^ 63
    omega
  have hround : Number.towardZero (3 / 2) = (1 : Nat) := by decide +kernel
  obtain ⟨s', hcall, heffect, -⟩ := (array_methods_round 1 default default hobject hkey hrest
    hname hothers hshown hsize).1 1 Nat.one_lt_two hround
  exact ⟨hobject, hkey, hrest, hname, hothers, hshown, hsize, s', hcall, heffect⟩

/-- `[10, 20].get(0.5)` is the first item, and `[10, 20][0.5]` is nil. -/
theorem get_rounds_index_refuses :
    let rules : Semantics := ⟨⟨true⟩, ⟨none, .none⟩⟩
    let array : Node :=
      .array default [.literal default (.number 10), .literal default (.number 20)]
    let half : Node := .literal default (.number (1 / 2))
    let run (tree : Node) := (rules.interpret Options.standard tree ⟨0⟩ Store.empty).1
    run (.methodCall default array "get" [half]) = .value (.number 10) ∧
      run (.index default array half) = .value .nil :=
  ⟨by with_unfolding_all rfl, by with_unfolding_all rfl⟩

end Eval

end ScriptEngine

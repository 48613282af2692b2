import Mathlib.Data.Rat.Lemmas
import ScriptEngine.Proofs.BuiltinEffects
import ScriptEngine.Proofs.Decimal

/-!
# Indices of arrays

An index of an array passes through three hands: the key of an access is first looked at as a
number, then written as a text, which is the name of the member, and then read as a place.
This file says that they agree, so that the access by a number is the access to the item at
that place, and to nothing if the number is no place of the array.

* `Number.toIndex_eq_some`, `Number.indexOfText_toString` — the first look and the last;
* `Eval.readIndex_item`, `Eval.writeIndex_item` — accesses to an item that is there;
* `Eval.readIndex_no_item`, `Eval.writeIndex_no_item` — accesses to one that is not;
* `Eval.array_index_laws` — reading, writing, and reading what was written.
-/

namespace ScriptEngine

namespace Number

/-- **An index is a natural number** that a machine word can hold. -/
theorem toIndex_eq_some {q : Number} {i : Nat} :
    q.toIndex? = some i ↔ q = (i : Number) ∧ i < 2 ^ 64 := by
  have htwoPow : ((twoPow 64 : Nat) : Int) = 2 ^ 64 := rfl
  unfold toIndex?
  constructor
  · intro h
    split at h
    · rename_i hindex
      obtain ⟨hden, hnonneg, hlt⟩ := hindex
      obtain rfl : q.num.toNat = i := Option.some.inj h
      have hnum : ((q.num.toNat : Nat) : Int) = q.num := Int.toNat_of_nonneg hnonneg
      constructor
      · calc q = (q.num : Number) := (Rat.coe_int_num_of_den_eq_one hden).symm
          _ = ((q.num.toNat : Int) : Number) := by rw [hnum]
          _ = (q.num.toNat : Number) := Rat.intCast_natCast _
      · omega
    · cases h
  · rintro ⟨rfl, hi⟩
    have hindex : (i : Number).den = 1 ∧ 0 ≤ (i : Number).num ∧ (i : Number).num < twoPow 64 := by
      rw [Rat.num_natCast, Rat.den_natCast]
      omega
    rw [if_pos hindex, Rat.num_natCast, Int.toNat_natCast]

/-- A natural number is shown in digits. -/
theorem render_natCast (i : Nat) : (i : Number).render = toString i := by
  have hint : (i : Number).isInteger = true := decide_eq_true (Rat.den_natCast i)
  rw [render, if_pos hint, Rat.num_natCast]
  rfl

/-- The digits of an index are read as the index. -/
theorem indexOfText_toString {i : Nat} (hi : i < 2 ^ 64) :
    indexOfText? (toString i) = some i := by
  obtain ⟨hnil, hdigits⟩ := areDigits_toDigits i
  have htext : (toString i).toList = Nat.toDigits 10 i := by
    rw [Nat.toString_eq_ofList_toDigits, String.toList_ofList]
  unfold indexOfText?
  extract_lets digits
  have hsame : digits = Nat.toDigits 10 i := by
    unfold digits
    rw [htext]
    split
    · rename_i rest hplus
      have hdigit : '+'.isDigit = true := hdigits _ (hplus ▸ List.mem_cons_self)
      exact absurd hdigit (by decide)
    · rfl
  have hclean : ((Nat.toDigits 10 i).isEmpty || !(Nat.toDigits 10 i).all Char.isDigit) = false := by
    rw [List.isEmpty_eq_false_iff.mpr hnil, List.all_eq_true.mpr hdigits]
    rfl
  rw [hsame, hclean, if_neg Bool.false_ne_true, digitsValue_toDigits]
  exact if_pos hi

end Number

theorem Value.isNil_array (ref : ArrayRef) : ¬(array ref).isNil = true := Bool.false_ne_true

/-- The text of a number. -/
theorem Store.plain_number (s : Store) (n : Number) : s.plain (.number n) = n.render := by
  unfold plain display displayWithin
  rfl

/-! ## Places of arrays -/

section Places

variable {m : Members} {s : Store} {ref : ArrayRef} {i : Nat}

/-- What is read at a place of an array. -/
theorem Place.read_position (i : Nat) (ref : ArrayRef) (s : Store) :
    (Place.position i).read (.array ref) s =
      match (s.items ref)[i]? with
      | some item => .ok item s
      | none => .error (.ofCause (.indexOutOfBounds (toString i) (s.items ref).size)) s := by
  rw [Place.read, ContextRef.get_bind]
  dsimp only
  cases (s.items ref)[i]? <;> rfl

/-- What is written at a place of an array. -/
theorem Place.write_position (embedder : Embedder) (i : Nat) (ref : ArrayRef) (v : Value)
    (s : Store) :
    (Place.position i).write embedder (.array ref) v s =
      if i < (s.items ref).size then .ok () (s.modifyItems ref (·.setIfInBounds i v))
      else .error (.ofCause (.indexOutOfBounds (toString i) (s.items ref).size)) s := by
  show (if i < (s.items ref).size then
    modify fun s => s.modifyItems ref fun items => items.setIfInBounds i v
    else throw (.ofCause (.indexOutOfBounds (toString i) (s.items ref).size)) : Action Unit) s = _
  split <;> rfl

namespace Members

variable (hshown : m.shows "array" (toString i) = true) (hi : i < 2 ^ 64)

include hshown hi

/-- The digits of an index name the place. -/
theorem readable_index : m.readable? s (.array ref) (toString i) =
    some (.stored (.position i)) := by
  unfold readable?
  rw [if_pos (show m.shows ((Value.array ref).typeName s) _ = true from hshown)]
  dsimp only
  rw [Number.indexOfText_toString hi]

theorem writable_index : m.writable? s (.array ref) (toString i) = some (.position i) := by
  unfold writable?
  rw [if_pos (show m.shows ((Value.array ref).typeName s) _ = true from hshown)]
  dsimp only
  rw [Number.indexOfText_toString hi]
  rfl

theorem readProperty_index : m.readProperty (.array ref) (toString i) s =
    (Place.position i).read (.array ref) s := by
  rw [readProperty, ContextRef.get_bind, readable_index hshown hi]
  rfl

theorem writeProperty_index (v : Value) : m.writeProperty (.array ref) (toString i) v s =
    (Place.position i).write m.embedder (.array ref) v s := by
  rw [writeProperty, ContextRef.get_bind, writable_index hshown hi]

end Members

end Places

/-! ## Accesses by a number -/

namespace Eval

/-- What an action gives is what it gives in a run. -/
theorem resolve_ok {action : Action Value} {r : Run} {v : Value} {s' : Store}
    (h : action r.store = .ok v s') : resolve action r = .ok v { r with store := s' } := by
  obtain ⟨s, options, depth⟩ := r
  have h : action s = .ok v s' := h
  rw [resolve, h]

section Keys

variable {rules : Semantics} {r : Run} {base key : Value}

/-- A key that is not refused at once names a member. -/
theorem readIndex_named (hbase : ¬base.isNil = true)
    (hkey : badIndex? r.store base key = none) :
    readIndex rules base key r =
      resolve (rules.members.readProperty base (r.store.plain key)) r := by
  rw [readIndex, if_neg hbase, look_bind, hkey]
  dsimp only
  rw [look_bind, readMember, if_neg hbase]

theorem writeIndex_named (hbase : ¬base.isNil = true)
    (hkey : badIndex? r.store base key = none) (v : Value) :
    writeIndex rules base key v r = (resolve (do
      rules.members.writeProperty base (r.store.plain key) v
      return .nil) >>= fun _ => pure ()) r := by
  rw [writeIndex, look_bind, hkey]
  dsimp only
  rw [look_bind, writeMember, if_neg hbase]

/-- A key that is refused is a fault. -/
theorem readIndex_refused {length : Nat} (hbase : ¬base.isNil = true)
    (hkey : badIndex? r.store base key = some length) :
    readIndex rules base key r =
      absent (.indexOutOfBounds (r.store.display key) length) .nil r := by
  rw [readIndex, if_neg hbase, look_bind, hkey]
  exact unresolved_absent rfl

theorem writeIndex_refused {length : Nat} (hkey : badIndex? r.store base key = some length)
    (v : Value) : writeIndex rules base key v r =
      absent (.indexOutOfBounds (r.store.display key) length) () r := by
  rw [writeIndex, look_bind, hkey]
  exact bind_absent (unresolved_absent rfl)

/-- A write that ends well. -/
theorem write_ok {write : Action Unit} {s' : Store} (h : write r.store = .ok () s') :
    (resolve (do
      write
      return .nil) >>= fun _ => pure ()) r = .ok () { r with store := s' } := by
  have hwrite : (write >>= fun _ => pure .nil : Action Value) r.store = .ok .nil s' := ok_bind h
  exact ok_bind (resolve_ok hwrite)

/-- A write to what is not there. -/
theorem write_absent {write : Action Unit} {cause : EvalError.Cause}
    (h : write r.store = .error (.ofCause cause) r.store) (hcause : cause.isUnresolved = true) :
    (resolve (do
      write
      return .nil) >>= fun _ => pure ()) r = absent cause () r := by
  have hwrite : (write >>= fun _ => pure .nil : Action Value) r.store =
      .error (.ofCause cause) r.store := error_bind h
  exact bind_absent (resolve_absent hwrite hcause)

end Keys

section Accesses

variable {rules : Semantics} {r : Run} {ref : ArrayRef} {n : Number} {i : Nat}

/-- A key that is an index is not refused at once. -/
theorem badIndex_index (hi : i < 2 ^ 64) :
    badIndex? r.store (.array ref) (.number i) = none := by
  rw [badIndex?, Number.toIndex_eq_some.mpr ⟨rfl, hi⟩]
  rfl

/-- Any other number is refused. -/
theorem badIndex_none (hn : n.toIndex? = none) :
    badIndex? r.store (.array ref) (.number n) = some (r.store.items ref).size := by
  rw [badIndex?, hn]
  rfl

/-- A number is not refused at once, or it is no place of an array. -/
theorem index_or_refused (n : Number) :
    (∃ i : Nat, n = i ∧ i < 2 ^ 64) ∨ n.toIndex? = none := by
  cases h : n.toIndex? with
  | some i => exact .inl ⟨i, Number.toIndex_eq_some.mp h⟩
  | none => exact .inr rfl

variable (hshown : rules.members.shows "array" n.render = true)
  (hsize : (r.store.items ref).size ≤ 2 ^ 64)

include hshown hsize

/-- **Reading an item that is there.** -/
theorem readIndex_item (hi : i < (r.store.items ref).size) (hn : n = (i : Number)) :
    readIndex rules (.array ref) (.number n) r = .ok (r.store.items ref)[i] r := by
  subst hn
  have hword : i < 2 ^ 64 := Nat.lt_of_lt_of_le hi hsize
  rw [readIndex_named (Value.isNil_array ref) (badIndex_index hword), Store.plain_number]
  rw [Number.render_natCast] at hshown ⊢
  apply resolve_ok
  rw [Members.readProperty_index hshown hword, Place.read_position,
    Array.getElem?_eq_getElem hi]

/-- **Writing an item that is there.** -/
theorem writeIndex_item (hi : i < (r.store.items ref).size) (hn : n = (i : Number)) (v : Value) :
    writeIndex rules (.array ref) (.number n) v r =
      .ok () { r with store := r.store.modifyItems ref (·.setIfInBounds i v) } := by
  subst hn
  have hword : i < 2 ^ 64 := Nat.lt_of_lt_of_le hi hsize
  rw [writeIndex_named (Value.isNil_array ref) (badIndex_index hword), Store.plain_number]
  rw [Number.render_natCast] at hshown ⊢
  apply write_ok
  rw [Members.writeProperty_index hshown hword, Place.write_position, if_pos hi]

omit hsize

/-- **Reading an item that is not there.** -/
theorem readIndex_no_item (hn : ∀ i < (r.store.items ref).size, n ≠ ((i : Nat) : Number)) :
    readIndex rules (.array ref) (.number n) r =
      absent (.indexOutOfBounds n.render (r.store.items ref).size) .nil r := by
  rcases index_or_refused n with ⟨i, rfl, hi⟩ | hrefused
  · rw [readIndex_named (Value.isNil_array ref) (badIndex_index hi), Store.plain_number]
    rw [Number.render_natCast] at hshown ⊢
    have hout : (r.store.items ref)[i]? = none := by
      apply Array.getElem?_eq_none
      by_contra hlt
      exact hn i (Nat.lt_of_not_le hlt) rfl
    apply resolve_absent
    · rw [Members.readProperty_index hshown hi, Place.read_position, hout]
    · rfl
  · exact readIndex_refused (Value.isNil_array ref) (badIndex_none hrefused)

/-- **Writing an item that is not there.** -/
theorem writeIndex_no_item (hn : ∀ i < (r.store.items ref).size, n ≠ ((i : Nat) : Number))
    (v : Value) :
    writeIndex rules (.array ref) (.number n) v r =
      absent (.indexOutOfBounds n.render (r.store.items ref).size) () r := by
  rcases index_or_refused n with ⟨i, rfl, hi⟩ | hrefused
  · rw [writeIndex_named (Value.isNil_array ref) (badIndex_index hi), Store.plain_number]
    rw [Number.render_natCast] at hshown ⊢
    apply write_absent
    · rw [Members.writeProperty_index hshown hi, Place.write_position,
        if_neg fun hlt => hn i hlt rfl]
    · rfl
  · exact writeIndex_refused (badIndex_none hrefused) v

end Accesses

/-! ## Accesses in programs -/

section Nodes

variable {rules : Semantics} {fuel : Nat} {ev : Evaluator} {ctx : ContextRef}
  {object key value : Node} {r₀ r r₁ r₂ : Run} {base k v : Value}

/-- Reading by a key, with operands that have their values. -/
theorem indexNode_operands (span : Span) (hobject : ev object ctx r = .ok base r₁)
    (hkey : ev key ctx r₁ = .ok k r₂) :
    node rules fuel ev (.index span object key) ctx r = readIndex rules base k r₂ := by
  rw [node, ok_bind hobject, ok_bind hkey]

/-- An assignment, with the value evaluated. -/
theorem assignNode_value {target : Node} (span : Span) (hvalue : ev value ctx r = .ok v r₁) :
    node rules fuel ev (.assign span target value false) ctx r =
      (assignTo rules ev target v ctx >>= fun _ => pure v) r₁ := by
  show (ev value ctx >>= fun v => assignTo rules ev target v ctx >>= fun _ => pure v) r = _
  rw [ok_bind hvalue]

/-- Writing by a key, with operands that have their values; the value comes first. -/
theorem assignIndex_operands (span span' : Span) (hvalue : ev value ctx r₀ = .ok v r)
    (hobject : ev object ctx r = .ok base r₁) (hkey : ev key ctx r₁ = .ok k r₂) :
    node rules fuel ev (.assign span' (.index span object key) value false) ctx r₀ =
      (writeIndex rules base k v >>= fun _ => pure v) r₂ := by
  rw [assignNode_value span' hvalue]
  apply bind_of_eq
  rw [assignTo, ok_bind hobject, ok_bind hkey]

end Nodes

/-- **Reading and writing items of arrays by number.**  In an assignment to an item and in an
access to one let the object be an array and the key any number.  If the number is a natural
number below the length, the access gives the item at that place.  The assignment gives the
value assigned; it changes nothing but that item of that array, and any later access to the
same place, by whatever expressions, gives the value.  If the number is no such number, then
both find nothing and change nothing: under strict options they fail with the index and the
length, and otherwise the access gives nil, and the assignment the value all the same.

Permissions may hide members of arrays; this is about those they show.  An array has no more
items than a machine word can count. -/
theorem array_index_laws {rules : Semantics} {ev : Evaluator} {ctx : ContextRef}
    {object key value : Node} {r₀ r r₁ r₂ : Run} {ref : ArrayRef} {n : Number} {v : Value}
    (fuel : Nat) (span span' : Span) (hvalue : ev value ctx r₀ = .ok v r)
    (hobject : ev object ctx r = .ok (.array ref) r₁) (hkey : ev key ctx r₁ = .ok (.number n) r₂)
    (hshown : rules.members.shows "array" n.render = true)
    (hsize : (r₂.store.items ref).size ≤ 2 ^ 64) :
    let items := r₂.store.items ref
    let read := node rules fuel ev (.index span object key) ctx r
    let write := node rules fuel ev (.assign span' (.index span object key) value false) ctx r₀
    (∀ i, ∀ hi : i < items.size, n = (i : Number) →
      read = .ok items[i] r₂ ∧
      ∃ s₃, write = .ok v { r₂ with store := s₃ } ∧
        r₂.store.ChangesOnly (some (.array ref)) s₃ ∧
        (s₃.items ref).size = items.size ∧
        (∀ j : Nat, (s₃.items ref)[j]? = if j = i then some v else items[j]?) ∧
        ∀ span other key' ctx' r₃ r₄ r₅, ev other ctx' r₃ = .ok (.array ref) r₄ →
          ev key' ctx' r₄ = .ok (.number n) r₅ → r₅.store.items ref = s₃.items ref →
          node rules fuel ev (.index span other key') ctx' r₃ = .ok v r₅) ∧
    ((∀ i < items.size, n ≠ ((i : Nat) : Number)) →
      read = absent (.indexOutOfBounds n.render items.size) .nil r₂ ∧
      write = absent (.indexOutOfBounds n.render items.size) v r₂) := by
  intro items read write
  have hread : read = readIndex rules (.array ref) (.number n) r₂ :=
    indexNode_operands span hobject hkey
  have hwrite : write = (writeIndex rules (.array ref) (.number n) v >>= fun _ => pure v) r₂ :=
    assignIndex_operands span span' hvalue hobject hkey
  rw [hread, hwrite]
  constructor
  · intro i hi hn
    refine ⟨readIndex_item hshown hsize hi hn, r₂.store.modifyItems ref (·.setIfInBounds i v),
      ok_bind (writeIndex_item hshown hsize hi hn v), r₂.store.changesOnly_modifyItems ref _, ?_⟩
    have hitems : (r₂.store.modifyItems ref (·.setIfInBounds i v)).items ref =
        items.setIfInBounds i v := Store.items_modifyItems (Store.index_lt_of_items hi) _
    rw [hitems]
    refine ⟨Array.size_setIfInBounds, ?_, ?_⟩
    · intro j
      rw [Array.getElem?_setIfInBounds]
      grind
    · intro span other key' ctx' r₃ r₄ r₅ hother hkey' hsame
      have hsize' : (r₅.store.items ref).size = items.size := by
        rw [hsame, Array.size_setIfInBounds]
      have hi' : i < (r₅.store.items ref).size := hsize' ▸ hi
      rw [indexNode_operands span hother hkey', readIndex_item hshown (hsize' ▸ hsize) hi' hn]
      simp [hsame]
  · intro hn
    exact ⟨readIndex_no_item hshown hn, bind_absent (writeIndex_no_item hshown hn v)⟩

/-- The second of two items is read and written. -/
theorem second_item_written :
    let rules : Semantics := ⟨⟨true⟩, ⟨none, .none⟩⟩
    let s : Store :=
      { Store.empty with
        arrays := #[#[.number 10, .number 20]]
        contexts := #[.vars (.ofList [("a", .array ⟨0⟩)]) none] }
    let r : Run := ⟨s, Options.standard, .top 8⟩
    let ev := rules.evaluate 1
    let object : Node := .ident default "a"
    let key : Node := .literal default (.number 1)
    let value : Node := .literal default (.number 7)
    let place : Node := .index default object key
    ev value ⟨0⟩ r = .ok (.number 7) r ∧ ev object ⟨0⟩ r = .ok (.array ⟨0⟩) r ∧
      ev key ⟨0⟩ r = .ok (.number 1) r ∧
      rules.members.shows "array" (1 : Number).render = true ∧ (s.items ⟨0⟩).size ≤ 2 ^ 64 ∧
      node rules 1 ev place ⟨0⟩ r = .ok (.number 20) r ∧
      ∃ s₃, node rules 1 ev (.assign default place value false) ⟨0⟩ r =
          .ok (.number 7) { r with store := s₃ } ∧
        (s₃.items ⟨0⟩)[1]? = some (.number 7) := by
  intro rules s r ev object key value place
  have hvalue : ev value ⟨0⟩ r = .ok (.number 7) r := by with_unfolding_all rfl
  have hobject : ev object ⟨0⟩ r = .ok (.array ⟨0⟩) r := by with_unfolding_all rfl
  have hkey : ev key ⟨0⟩ r = .ok (.number 1) r := by with_unfolding_all rfl
  have hshown : rules.members.shows "array" (1 : Number).render = true := rfl
  have hsize : (s.items ⟨0⟩).size ≤ 2 ^ 64 := by
    show 2 ≤ 2 ^ 64
    omega
  have hitem : 1 < (s.items ⟨0⟩).size := Nat.one_lt_two
  obtain ⟨hread, s₃, hwrite, -, -, hitems, -⟩ := (array_index_laws 1 default default hvalue
    hobject hkey hshown hsize).1 1 hitem Nat.cast_one.symm
  exact ⟨hvalue, hobject, hkey, hshown, hsize, hread, s₃, hwrite, hitems 1⟩

end Eval

end ScriptEngine

import Mathlib.Algebra.Order.Ring.Rat
import Mathlib.Data.String.Basic
import ScriptEngine.Evaluation.Operation
import ScriptEngine.Proofs.Equality

/-!
# The order of values

Texts are ordered among themselves, nil only equals itself, and everything that has a numeric
view is ordered by it, whatever kind of value it is.  Within each of these classes the order
is total, and the operators that ask for it agree with each other and with equality.  Across
classes there is no order, which is an error only if evaluation is strict.

* `Store.Comparable` — the three classes;
* `Store.Compared` — how two values of one class are ordered;
* `Eval.Holds` — an operator between two values answers yes;
* `Eval.order_laws` — the laws of comparison and of the operators.
-/

namespace ScriptEngine

/-! ## Linear orders -/

section Linear

variable {α : Type} [LinearOrder α] [DecidableLT α] [DecidableEq α]

/-- Comparing the other way around gives the opposite. -/
theorem compareOfLessAndEq_swap (x y : α) :
    compareOfLessAndEq y x = (compareOfLessAndEq x y).swap := by
  unfold compareOfLessAndEq
  rcases lt_trichotomy x y with h | rfl | h
  · simp [h, h.not_gt, h.ne']
  · simp
  · simp [h, h.not_gt, h.ne']

/-- Steps that do not go down add up to one, which goes up if one of them does. -/
theorem compareOfLessAndEq_then {x y z : α} (h : (compareOfLessAndEq x y).isLE)
    (h' : (compareOfLessAndEq y z).isLE) :
    compareOfLessAndEq x z = (compareOfLessAndEq x y).then (compareOfLessAndEq y z) := by
  unfold compareOfLessAndEq at *
  rcases lt_trichotomy x y with hxy | rfl | hyx
  · rcases lt_trichotomy y z with hyz | rfl | hzy
    · simp [hxy, hxy.trans hyz]
    · simp [hxy]
    · simp [hzy.not_gt, hzy.ne'] at h'
  · simp
  · simp [hyx.not_gt, hyx.ne'] at h

end Linear

/-! ## Comparison -/

namespace Store

variable (s : Store)

/-- Numbers, truth values and host objects that stand for a number. -/
inductive HasView : Value → Prop
  | number (value : Number) : HasView (.number value)
  | bool (value : Bool) : HasView (.bool value)
  | object {ref : HostRef} (h : (s.host ref).number.isSome) : HasView (.object ref)

/-- The pairs of values that are ordered. -/
inductive Comparable : Value → Value → Prop
  | text (x y : String) : Comparable (.text x) (.text y)
  | nil : Comparable .nil .nil
  | number {a b : Value} (ha : s.HasView a) (hb : s.HasView b) : Comparable a b

/-- How two values are ordered: by the texts, or by the numeric views. -/
inductive Compared : Value → Value → Ordering → Prop
  | text (x y : String) : Compared (.text x) (.text y) (compareOfLessAndEq x y)
  | nil : Compared .nil .nil .eq
  | number {a b : Value} {x y : Number} (ha : s.ordinal a = some x) (hb : s.ordinal b = some y) :
    Compared a b (compareOfLessAndEq x y)

variable {s} {a b c : Value} {order order' : Ordering}

theorem hasView_iff : s.HasView a ↔ ∃ x, s.ordinal a = some x := by
  constructor
  · intro h
    cases h with
    | number value => exact ⟨value, rfl⟩
    | bool value => exact ⟨boolNumber value, rfl⟩
    | object h => exact Option.isSome_iff_exists.mp h
  · rintro ⟨x, hx⟩
    cases a with
    | number value => exact .number value
    | bool value => exact .bool value
    | object ref => exact .object (Option.isSome_iff_exists.mpr ⟨x, hx⟩)
    | _ => cases hx

/-- Comparison is that of the texts or of the numeric views. -/
theorem compare_eq_some : s.compare a b = some order ↔ s.Compared a b order := by
  constructor
  · intro h
    unfold compare at h
    split at h
    · cases h
      exact .text _ _
    · cases h
      exact .nil
    · obtain ⟨x, hx, h⟩ := Option.bind_eq_some_iff.mp h
      obtain ⟨y, hy, h⟩ := Option.bind_eq_some_iff.mp h
      cases h
      exact .number hx hy
  · intro h
    cases h with
    | text x y => rfl
    | nil => rfl
    | number ha hb =>
        unfold compare
        split
        · cases ha
        · cases ha
        · simp [ha, hb]

/-- The pairs that are ordered in some way are the comparable ones. -/
theorem comparable_iff : s.Comparable a b ↔ ∃ order, s.compare a b = some order := by
  constructor
  · intro h
    cases h with
    | text x y => exact ⟨_, compare_eq_some.mpr (.text x y)⟩
    | nil => exact ⟨_, compare_eq_some.mpr .nil⟩
    | number ha hb =>
        obtain ⟨x, hx⟩ := hasView_iff.mp ha
        obtain ⟨y, hy⟩ := hasView_iff.mp hb
        exact ⟨_, compare_eq_some.mpr (.number hx hy)⟩
  · rintro ⟨order, h⟩
    cases compare_eq_some.mp h with
    | text x y => exact .text x y
    | nil => exact .nil
    | number ha hb => exact .number (hasView_iff.mpr ⟨_, ha⟩) (hasView_iff.mpr ⟨_, hb⟩)

/-- Comparing the other way around gives the opposite. -/
theorem Compared.swap (h : s.Compared a b order) : s.Compared b a order.swap := by
  cases h with
  | text x y =>
      rw [← compareOfLessAndEq_swap]
      exact .text y x
  | nil => exact .nil
  | number ha hb =>
      rw [← compareOfLessAndEq_swap]
      exact .number hb ha

/-- The order is transitive. -/
theorem Compared.trans (h : s.Compared a b order) (h' : s.Compared b c order') (hle : order.isLE)
    (hle' : order'.isLE) : s.Compared a c (order.then order') := by
  cases h with
  | text x y =>
      cases h' with
      | text _ z =>
          rw [← compareOfLessAndEq_then hle hle']
          exact .text x z
      | number hb hc => cases hb
  | nil =>
      cases h' with
      | nil => exact .nil
      | number hb hc => cases hb
  | number ha hb =>
      cases h' with
      | text y z => cases hb
      | nil => cases hb
      | number hb' hc =>
          cases hb.symm.trans hb'
          rw [← compareOfLessAndEq_then hle hle']
          exact .number ha hc

/-- Values that are ordered are equal if neither is less. -/
theorem equal_of_compare (h : s.compare a b = some order) : s.equal a b = (order == .eq) := by
  have hleaf : s.equalLeaf a b = some (order == .eq) := by
    unfold equalLeaf
    rw [h]
  unfold equal equalWithin
  rw [hleaf]

end Store

namespace Eval

/-! ## Operators -/

/-- The operators that ask for the order of their operands. -/
def relationalOps : List BinaryOp := [.lt, .ltEq, .gt, .gtEq]

/-- An operator between two values answers yes and changes nothing. -/
def Holds (rules : Semantics) (op : BinaryOp) (a b : Value) (r : Run) : Prop :=
  binary rules op a b r = .ok (.bool true) r

/-- **Operators that agree with an order.**  Each of them gives an answer.  Of `<`, `==` and
`>` exactly one says yes, the one for the order given.  `<=` says what `<` and `==` say
together, and `>=` is `<=` the other way around. -/
structure Ordered (rules : Semantics) (a b : Value) (r : Run) (order : Ordering) : Prop where
  answers : ∀ op ∈ .eq :: relationalOps, ∃ answer, binary rules op a b r = .ok (.bool answer) r
  less : Holds rules .lt a b r ↔ order = .lt
  equal : Holds rules .eq a b r ↔ order = .eq
  greater : Holds rules .gt a b r ↔ order = .gt
  exactlyOne :
    (Holds rules .lt a b r ∧ ¬Holds rules .eq a b r ∧ ¬Holds rules .gt a b r) ∨
      (¬Holds rules .lt a b r ∧ Holds rules .eq a b r ∧ ¬Holds rules .gt a b r) ∨
      (¬Holds rules .lt a b r ∧ ¬Holds rules .eq a b r ∧ Holds rules .gt a b r)
  lessOrEqual : Holds rules .ltEq a b r ↔ Holds rules .lt a b r ∨ Holds rules .eq a b r
  greaterOrEqual : Holds rules .gtEq a b r ↔ Holds rules .ltEq b a r

variable {rules : Semantics} {a b : Value} {r : Run} {op : BinaryOp} {order : Ordering}

/-- The operators look at the order of their operands, each in its own way. -/
theorem binary_relational (hop : op ∈ relationalOps) :
    binary rules op a b r =
      match Arithmetic.compare r.store a b with
      | .ok order => .ok (.bool (holds op order)) r
      | .error e => if r.options.strict then .error (.error e) r else .ok (.bool false) r := by
  have hstep : binary rules op a b r = relational op a b r := by
    simp only [relationalOps, List.mem_cons, List.not_mem_nil, or_false] at hop
    rcases hop with rfl | rfl | rfl | rfl <;> rfl
  rw [hstep]
  let answer (s : Store) : Except EvalError Value :=
    match Arithmetic.compare s a b with
    | .ok order => .ok (.bool (holds op order))
    | .error e => if r.options.strict then .error e else .ok (.bool false)
  show compute answer r = _
  unfold compute
  simp only [answer]
  cases Arithmetic.compare r.store a b with
  | ok order => rfl
  | error e => cases r.options.strict <;> rfl

/-- Such an operator answers yes if the order is one that it asks for. -/
theorem holds_iff (h : r.store.compare a b = some order) (hop : op ∈ relationalOps) :
    Holds rules op a b r ↔ holds op order = true := by
  have hcompare : Arithmetic.compare r.store a b = .ok order := by rw [Arithmetic.compare, h]
  rw [Holds, binary_relational hop, hcompare]
  simp

/-- Equality answers whether two values are ordered as equal. -/
theorem binary_eq (h : r.store.compare a b = some order) :
    binary rules .eq a b r = .ok (.bool (decide (order = .eq))) r := by
  show EStateM.Result.ok (Value.bool (decide (r.store.equal a b = true))) r = _
  rw [Store.equal_of_compare h]
  cases order <;> rfl

theorem holds_eq_iff (h : r.store.compare a b = some order) :
    Holds rules .eq a b r ↔ order = .eq := by
  rw [Holds, binary_eq h]
  simp

section Answers

variable (h : r.store.compare a b = some order)

include h

theorem holds_lt_iff : Holds rules .lt a b r ↔ order = .lt := by
  rw [holds_iff h (by simp [relationalOps])]
  cases order <;> decide

theorem holds_gt_iff : Holds rules .gt a b r ↔ order = .gt := by
  rw [holds_iff h (by simp [relationalOps])]
  cases order <;> decide

theorem holds_ltEq_iff : Holds rules .ltEq a b r ↔ order ≠ .gt := by
  rw [holds_iff h (by simp [relationalOps])]
  cases order <;> decide

theorem holds_gtEq_iff : Holds rules .gtEq a b r ↔ order ≠ .lt := by
  rw [holds_iff h (by simp [relationalOps])]
  cases order <;> decide

/-- The operators between two values that are ordered agree with the order. -/
theorem ordered_of_compare : Ordered rules a b r order where
  answers := by
    intro op hop
    rcases List.mem_cons.mp hop with rfl | hop
    · exact ⟨_, binary_eq h⟩
    · have hcompare : Arithmetic.compare r.store a b = .ok order := by rw [Arithmetic.compare, h]
      rw [binary_relational hop, hcompare]
      exact ⟨_, rfl⟩
  less := holds_lt_iff h
  equal := holds_eq_iff h
  greater := holds_gt_iff h
  exactlyOne := by
    rw [holds_lt_iff h, holds_eq_iff h, holds_gt_iff h]
    cases order <;> decide
  lessOrEqual := by
    rw [holds_ltEq_iff h, holds_lt_iff h, holds_eq_iff h]
    cases order <;> decide
  greaterOrEqual := by
    have hswap : r.store.compare b a = some order.swap :=
      Store.compare_eq_some.mpr (Store.compare_eq_some.mp h).swap
    rw [holds_gtEq_iff h, holds_ltEq_iff hswap]
    cases order <;> decide

end Answers

/-- What comparison gives for two values of the store. -/
theorem compare_ok_iff {s : Store} :
    Arithmetic.compare s a b = .ok order ↔ s.compare a b = some order := by
  unfold Arithmetic.compare
  cases s.compare a b with
  | some order' => simp
  | none => simp [Arithmetic.unsupported]

/-- **The laws of order.**  Comparison gives an order exactly for two texts, for nil and nil,
and for two values with a numeric view.  There it is a total preorder: the other way around
it gives the opposite, and it is transitive.  The operators and equality agree with it and
with each other.  Where there is no order the operators that ask for one all say no, or, if
evaluation is strict, all fail with the same error. -/
theorem order_laws (rules : Semantics) (r : Run) :
    (∀ a b, (∃ order, Arithmetic.compare r.store a b = .ok order) ↔ r.store.Comparable a b) ∧
      (∀ a b order, Arithmetic.compare r.store a b = .ok order →
        Arithmetic.compare r.store b a = .ok order.swap) ∧
      (∀ a b c order order', Arithmetic.compare r.store a b = .ok order →
        Arithmetic.compare r.store b c = .ok order' → order.isLE → order'.isLE →
        Arithmetic.compare r.store a c = .ok (order.then order')) ∧
      (∀ a b order, Arithmetic.compare r.store a b = .ok order → Ordered rules a b r order) ∧
      ∀ a b, ¬r.store.Comparable a b → ∀ op ∈ relationalOps,
        binary rules op a b r =
          if r.options.strict then
            .error (.error (.ofCause (.unsupportedOperand "<=>"
              s!"{a.typeName r.store} and {b.typeName r.store}"))) r
          else .ok (.bool false) r := by
  simp only [compare_ok_iff]
  refine ⟨?_, ?_, ?_, ?_, ?_⟩
  · intro a b
    exact Store.comparable_iff.symm
  · intro a b order h
    exact Store.compare_eq_some.mpr (Store.compare_eq_some.mp h).swap
  · intro a b c order order' h h' hle hle'
    rw [Store.compare_eq_some] at h h' ⊢
    exact h.trans h' hle hle'
  · intro a b order h
    exact ordered_of_compare h
  · intro a b hcomparable op hop
    have hnone : r.store.compare a b = none := by
      rw [Option.eq_none_iff_forall_ne_some]
      intro order h
      exact hcomparable (Store.comparable_iff.mpr ⟨order, h⟩)
    rw [binary_relational hop, Arithmetic.compare, hnone]
    rfl

/-- True counts as one, and the text that looks like one has no order with numbers. -/
example (r : Run) (rules : Semantics) :
    binary rules .ltEq (.bool true) (.int 1) r = .ok (.bool true) r ∧
      binary rules .ltEq (.text "1") (.int 1) ⟨.empty, Options.standard, .top 8⟩ =
        .ok (.bool false) ⟨.empty, Options.standard, .top 8⟩ :=
  ⟨rfl, rfl⟩

end Eval

end ScriptEngine

import ScriptEngine.Evaluation.Signal
import ScriptEngine.Proofs.Territory

/-!
# Relaxed arithmetic

Arithmetic that is not strict accepts more operands than strict arithmetic, and
treats those that both accept in the same way.  `Arithmetic.Kept` relates the
result of an operator to its result under relaxed rules: a value stays, and a
failure may become anything, as long as it is not for a reserved cause, such as
that of a cancelled run, which no operator fails for.

* `Arithmetic.Relaxes` — rules that are strict only where others are;
* `Arithmetic.kept_add`, … — every operator keeps its results.
-/

namespace ScriptEngine.Arithmetic

/-- Rules that are strict only if the others are. -/
def Relaxes (a relaxed : Arithmetic) : Prop := relaxed.strict = true → a.strict = true

/-- A result that relaxed rules keep, and that satisfies `holds`.  A failure is
not for a reserved cause, and its place is still to be found. -/
def Kept {α : Type} (holds : α → Prop) (result relaxed : Checked α) : Prop :=
  match result with
  | .ok value => holds value ∧ relaxed = .ok value
  | .error e => e.cause.isReserved = false ∧ e.span = none

/-- Values that refer to nothing. -/
abbrev Scalar (value : Value) : Prop := value.isScalar = true

section Results

variable {α β : Type} {result relaxed : Checked α} {holds : α → Prop} {holds' : β → Prop}

theorem kept_ok {value : α} (h : holds value) : Kept holds (.ok value) (.ok value) := ⟨h, rfl⟩

/-- A failure for a cause that is not reserved may be replaced by anything. -/
theorem kept_error {cause : EvalError.Cause} (h : cause.isReserved = false) :
    Kept holds (.error (.ofCause cause)) relaxed := ⟨h, rfl⟩

theorem kept_unsupported (s : Store) (operator : String) (left : Value) (right : Option Value) :
    Kept holds (unsupported s operator left right) relaxed :=
  kept_error rfl

/-- What goes on from a result that is kept in a way that is kept is kept. -/
theorem kept_bind {next next' : α → Checked β} (h : Kept holds result relaxed)
    (hnext : ∀ a, holds a → Kept holds' (next a) (next' a)) :
    Kept holds' (result >>= next) (relaxed >>= next') := by
  cases result with
  | ok a =>
      obtain ⟨ha, rfl⟩ : holds a ∧ relaxed = .ok a := h
      exact hnext a ha
  | error e => exact h

theorem kept_map {f : α → β} (h : Kept holds result relaxed) (hf : ∀ a, holds' (f a)) :
    Kept holds' (result.map f) (relaxed.map f) := by
  cases result with
  | ok a =>
      obtain ⟨-, rfl⟩ : holds a ∧ relaxed = .ok a := h
      exact kept_ok (hf a)
  | error e => exact h

end Results

/-- A result without conditions. -/
abbrev Any {α : Type} (_ : α) : Prop := True

variable {a b : Arithmetic} (hab : a.Relaxes b) (s : Store)

include hab

/-- What counts as a number under strict rules counts as the same one under
relaxed rules. -/
theorem Relaxes.numeric {value : Value} {x : Number} (h : a.numeric? s value = some x) :
    b.numeric? s value = some x := by
  cases value with
  | nil =>
      cases ha : a.strict with
      | true => simp [numeric?, ha] at h
      | false =>
          have hb : b.strict = false := by
            cases hb : b.strict with
            | true => simp [hab hb] at ha
            | false => rfl
          simpa [numeric?, ha, hb] using h
  | _ => exact h

theorem Relaxes.toNumber (value : Value) : Kept Any (a.toNumber s value) (b.toNumber s value) := by
  unfold Arithmetic.toNumber
  cases h : a.numeric? s value with
  | some x => rw [hab.numeric s h]; exact kept_ok trivial
  | none => exact kept_error rfl

theorem Relaxes.operands (operator : String) (left right : Value) :
    Kept Any (a.operands s operator left right) (b.operands s operator left right) := by
  unfold Arithmetic.operands
  cases hleft : a.numeric? s left with
  | none => exact kept_unsupported _ _ _ _
  | some x =>
      cases hright : a.numeric? s right with
      | none => exact kept_unsupported _ _ _ _
      | some y => rw [hab.numeric s hleft, hab.numeric s hright]; exact kept_ok trivial

theorem Relaxes.words (operator : String) (left right : Value) :
    Kept Any (a.words s operator left right) (b.words s operator left right) :=
  kept_bind (hab.operands s operator left right) fun _ _ => kept_ok trivial

/-! ## Operators -/

theorem Relaxes.add (left right : Value) :
    Kept Scalar (a.add s left right) (b.add s left right) := by
  unfold Arithmetic.add
  split
  · by_cases ha : (a.strict && (left.isNil || right.isNil)) = true
    · rw [if_pos ha]
      exact kept_unsupported _ _ _ _
    · have hb : ¬(b.strict && (left.isNil || right.isNil)) = true := by
        intro hb
        simp only [Bool.and_eq_true] at ha hb
        exact ha ⟨hab hb.1, hb.2⟩
      rw [if_neg ha, if_neg hb]
      exact kept_ok rfl
  · exact kept_bind (hab.operands s _ _ _) fun _ _ => kept_ok rfl

theorem Relaxes.subtract (left right : Value) :
    Kept Scalar (a.subtract s left right) (b.subtract s left right) :=
  kept_bind (hab.operands s _ _ _) fun _ _ => kept_ok rfl

theorem Relaxes.multiply (left right : Value) :
    Kept Scalar (a.multiply s left right) (b.multiply s left right) :=
  kept_bind (hab.operands s _ _ _) fun _ _ => kept_ok rfl

theorem Relaxes.divide (left right : Value) :
    Kept Scalar (a.divide s left right) (b.divide s left right) := by
  refine kept_bind (hab.operands s _ _ _) fun (x, y) _ => ?_
  dsimp only
  split
  · exact kept_error rfl
  · exact kept_ok rfl

theorem Relaxes.modulo (left right : Value) :
    Kept Scalar (a.modulo s left right) (b.modulo s left right) := by
  refine kept_bind (hab.operands s _ _ _) fun (x, y) _ => ?_
  dsimp only
  split
  · exact kept_error rfl
  · exact kept_ok rfl

theorem Relaxes.negate (value : Value) : Kept Scalar (a.negate s value) (b.negate s value) := by
  unfold Arithmetic.negate
  split
  · exact kept_ok rfl
  · cases h : a.numeric? s value with
    | some x => rw [hab.numeric s h]; exact kept_ok rfl
    | none => exact kept_unsupported _ _ _ _

theorem Relaxes.bitComplement (value : Value) :
    Kept Scalar (a.bitComplement s value) (b.bitComplement s value) := by
  unfold Arithmetic.bitComplement
  split
  · exact kept_ok rfl
  · cases h : a.numeric? s value with
    | some x => rw [hab.numeric s h]; exact kept_ok rfl
    | none => exact kept_unsupported _ _ _ _

theorem Relaxes.bitwise (operator : String) (onBools : Bool → Bool → Bool)
    (onWords : Int → Int → Int) (left right : Value) :
    Kept Scalar (a.bitwise s operator onBools onWords left right)
      (b.bitwise s operator onBools onWords left right) := by
  unfold Arithmetic.bitwise
  split
  · exact kept_ok rfl
  · exact kept_bind (hab.words s _ _ _) fun _ _ => kept_ok rfl

theorem Relaxes.shift (operator : String) (onWords : Int → Int → Int) (left right : Value) :
    Kept Scalar (a.shift s operator onWords left right) (b.shift s operator onWords left right) :=
  kept_bind (hab.words s _ _ _) fun _ _ => kept_ok rfl

/-- A test of nil that strict rules refuse and relaxed rules answer with no. -/
theorem Relaxes.refuseNil (operator : String) (right : Value) :
    Kept Any (if a.strict then unsupported s operator .nil (some right) else .ok false)
      (if b.strict then unsupported s operator .nil (some right) else .ok false) := by
  by_cases ha : a.strict = true
  · rw [if_pos ha]
    exact kept_unsupported _ _ _ _
  · have hb : ¬b.strict = true := fun hb => ha (hab hb)
    rw [if_neg ha, if_neg hb]
    exact kept_ok trivial

theorem Relaxes.startsWith (left right : Value) :
    Kept Any (a.startsWith s left right) (b.startsWith s left right) := by
  cases left with
  | nil => exact hab.refuseNil s _ right
  | _ => exact kept_ok trivial

theorem Relaxes.endsWith (left right : Value) :
    Kept Any (a.endsWith s left right) (b.endsWith s left right) := by
  cases left with
  | nil => exact hab.refuseNil s _ right
  | _ => exact kept_ok trivial

omit hab

/-! ## Operators without rules -/

theorem kept_contains (container item : Value) :
    Kept Any (contains s container item) (contains s container item) := by
  unfold contains
  split
  · split
    · exact kept_ok trivial
    · exact kept_error rfl
  · exact kept_ok trivial
  · exact kept_ok trivial
  · exact kept_ok trivial

theorem kept_size (value : Value) : Kept Any (size s value) (size s value) := by
  unfold size
  split
  · exact kept_ok trivial
  · exact kept_ok trivial
  · exact kept_ok trivial
  · exact kept_ok trivial
  · exact kept_unsupported _ _ _ _

theorem kept_range (first last : Number) : Kept Any (range first last) (range first last) := by
  unfold range
  split
  · split
    · exact kept_ok trivial
    · exact kept_error rfl
  · exact kept_error rfl

/-- A comparison that strict rules refuse fails for a cause of its own. -/
theorem kept_compare (left right : Value) :
    Kept Any (compare s left right) (compare s left right) := by
  unfold compare
  split
  · exact kept_ok trivial
  · exact kept_unsupported _ _ _ _

end ScriptEngine.Arithmetic

namespace ScriptEngine.Semantics

/-- Rules with the same members and relaxed arithmetic. -/
structure Relaxes (rules relaxed : Semantics) : Prop where
  arithmetic : rules.arithmetic.Relaxes relaxed.arithmetic
  members : relaxed.members = rules.members

/-- Rules are relaxed by themselves. -/
theorem Relaxes.refl (rules : Semantics) : rules.Relaxes rules := ⟨fun h => h, rfl⟩

end ScriptEngine.Semantics

import ScriptEngine.Proofs.CoupledNodes

/-!
# Relaxed runs

Two runs of a step side by side, the second one under relaxed options: strict
only where the first is, safe wherever the first is, and with at least as much
depth.  The second run *follows* the first when it ends in the same way, with
the same store, unless the first ends with an error.  The error of a cancelled
run is no exception, because an embedder may turn it into a result.

* `Eval.Follows` — the second run follows the first, within a territory;
* `Eval.follows_bind`, `Eval.follows_entering`, … — the steps of an evaluation.
-/

namespace ScriptEngine

/-- Options under which less is an error. -/
structure Options.Relaxes (o relaxed : Options) : Prop where
  strict : relaxed.strict = true → o.strict = true
  safe : o.safe = true → relaxed.safe = true
  silent : relaxed.silent = o.silent
  cancellable : relaxed.cancellable = o.cancellable
  maxDepth : o.maxDepth ≤ relaxed.maxDepth

/-- The same state under relaxed options. -/
structure Run.Relaxes (r relaxed : Run) : Prop where
  store : relaxed.store = r.store
  options : r.options.Relaxes relaxed.options
  depth : relaxed.depth.depth = r.depth.depth
  limit : r.depth.limit ≤ relaxed.depth.limit

/-- Lenient options stay relaxed when they are made lenient. -/
theorem Options.Relaxes.lenient {o relaxed : Options} (h : o.Relaxes relaxed) :
    o.lenient.Relaxes relaxed.lenient :=
  { h with strict := fun h => h, safe := fun _ => rfl }

/-- The ends of a step that some construct may turn into a result. -/
def Signal.Lasting : Signal → Prop
  | .error e => e.cause = .cancelled
  | .breakLoop | .continueLoop | .returned _ => True
  | .exhausted => False

/-- An end stays of its kind when its error is given a place. -/
theorem Signal.lasting_located {signal : Signal} {span : Span} :
    (signal.located span).Lasting ↔ signal.Lasting := by
  cases signal <;> rfl

/-- Operators and members do not cancel a run. -/
theorem Signal.not_lasting_of_ordinary {e : EvalError} (h : e.cause.isReserved = false) :
    ¬(Signal.error e).Lasting := by
  intro hcancelled
  have hcause : e.cause = .cancelled := hcancelled
  rw [hcause] at h
  cases h

/-- A place is given to errors only. -/
theorem Signal.located_eq_returned {signal : Signal} {span : Span} {v : Value}
    (h : signal.located span = .returned v) : signal = .returned v := by
  cases signal with
  | error e => cases h
  | _ => exact h

namespace Eval

variable {α β : Type} {g : Territory} {holds : α → Prop} {holds' : β → Prop}

/-- How the end of a step under relaxed options has to match the end of the
step itself. -/
inductive Matches (g : Territory) (holds : α → Prop) :
    EStateM.Result Signal Run α → EStateM.Result Signal Run α → Prop
  | ok {a : α} {t t' : Run} : holds a → g.Closed t.store → t.Relaxes t' →
      Matches g holds (.ok a t) (.ok a t')
  | lasting {signal : Signal} {t t' : Run} : signal.Lasting →
      (∀ v, signal = .returned v → g.Holds v) → g.Closed t.store → t.Relaxes t' →
      Matches g holds (.error signal t) (.error signal t')
  | failed {signal : Signal} {t : Run} {other : EStateM.Result Signal Run α} :
      ¬signal.Lasting → Matches g holds (.error signal t) other

/-- **A run that follows another one.**  From the same state under relaxed
options the second step ends as the first one does, unless that fails; the
state stays in the territory and the result satisfies `holds`. -/
def Follows (g : Territory) (holds : α → Prop) (step relaxed : Eval α) : Prop :=
  ∀ r r', g.Closed r.store → r.Relaxes r' → Matches g holds (step r) (relaxed r')

/-! ## Steps -/

/-- What is known of a result may be forgotten. -/
theorem Matches.imp {weaker : α → Prop} {x y : EStateM.Result Signal Run α}
    (h : Matches g holds x y) (himp : ∀ a, holds a → weaker a) : Matches g weaker x y := by
  cases h with
  | ok ha hs ht => exact .ok (himp _ ha) hs ht
  | lasting hsignal hvalue hs ht => exact .lasting hsignal hvalue hs ht
  | failed hsignal => exact .failed hsignal

/-- What is known of a result may be forgotten. -/
theorem Follows.imp {weaker : α → Prop} {step relaxed : Eval α} (h : Follows g holds step relaxed)
    (himp : ∀ a, holds a → weaker a) : Follows g weaker step relaxed :=
  fun r r' hs hr => (h r r' hs hr).imp himp

theorem follows_pure {a : α} (h : holds a) : Follows g holds (pure a) (pure a) :=
  fun _ _ hs hr => .ok h hs hr

/-- A failure other than that of a cancelled run may be replaced by anything. -/
theorem follows_fail {cause : EvalError.Cause} {relaxed : Eval α} (h : cause ≠ .cancelled) :
    Follows g holds (fail cause) relaxed :=
  fun _ _ _ _ => .failed h

/-- The same signal on both sides. -/
theorem follows_throw {signal : Signal} (h : ∀ v, signal = .returned v → g.Holds v) :
    Follows g holds (throw signal) (throw signal) := by
  intro r r' hs hr
  by_cases hsignal : signal.Lasting
  · exact .lasting hsignal h hs hr
  · exact .failed hsignal

/-- Steps one after the other follow each other if each does. -/
theorem follows_bind {step relaxed : Eval α} {next next' : α → Eval β}
    (h : Follows g holds step relaxed)
    (hnext : ∀ a, holds a → Follows g holds' (next a) (next' a)) :
    Follows g holds' (step >>= next) (relaxed >>= next') := by
  intro r r' hs hr
  have hstep := h r r' hs hr
  show Matches g holds' (EStateM.bind step next r) (EStateM.bind relaxed next' r')
  unfold EStateM.bind
  generalize step r = x at hstep
  generalize relaxed r' = y at hstep
  cases hstep with
  | ok ha hs ht => exact hnext _ ha _ _ hs ht
  | lasting hsignal hvalue hs ht => exact .lasting hsignal hvalue hs ht
  | failed hsignal => exact .failed hsignal

/-- Computing something that relaxed rules keep. -/
theorem follows_compute {f f' : Store → Except EvalError α}
    (h : ∀ s, Arithmetic.Kept holds (f s) (f' s)) :
    Follows g holds (compute f) (compute f') := by
  intro r r' hs hr
  have hkept := h r.store
  unfold compute
  rw [hr.store]
  cases hresult : f r.store with
  | ok a =>
      rw [hresult] at hkept
      obtain ⟨ha, hrelaxed⟩ : holds a ∧ f' r.store = .ok a := hkept
      rw [hrelaxed]
      exact .ok ha hs hr
  | error e =>
      rw [hresult] at hkept
      exact .failed (Signal.not_lasting_of_ordinary hkept.1)

/-- An action on the store that stays in the territory. -/
theorem follows_act {action : Action α} (h : g.Keeps holds action) :
    Follows g holds (act action) (act action) := by
  rintro ⟨s, o, d⟩ ⟨s', o', d'⟩ hs hr
  have hstore : s' = s := hr.store
  subst hstore
  have hrelaxes : ∀ t, Run.Relaxes ⟨t, o, d⟩ ⟨t, o', d'⟩ := fun _ => { hr with store := rfl }
  have haction := h s' hs
  unfold act
  dsimp only
  cases hresult : action s' with
  | ok a t =>
      rw [hresult] at haction
      exact .ok haction.1 haction.2 (hrelaxes t)
  | error e t =>
      rw [hresult] at haction
      have hthrow : Follows g holds (throw (.error e)) (throw (.error e)) := follows_throw (by simp)
      exact hthrow _ _ haction.2 (hrelaxes t)

/-- A step that depends on the options in force. -/
theorem follows_options {next next' : Options → Eval β}
    (h : ∀ o o' : Options, o.Relaxes o' → Follows g holds' (next o) (next' o')) :
    Follows g holds' (options >>= next) (options >>= next') :=
  fun r r' hs hr => h _ _ hr.options r r' hs hr

/-- A step under other options. -/
theorem follows_withOptions {inner inner' : Options} {step relaxed : Eval α}
    (hinner : inner.Relaxes inner') (h : Follows g holds step relaxed) :
    Follows g holds (withOptions inner step) (withOptions inner' relaxed) := by
  rintro ⟨s, o, d⟩ ⟨s', o', d'⟩ hs hr
  have hstep := h ⟨s, inner, d⟩ ⟨s', inner', d'⟩ hs { hr with options := hinner }
  unfold withOptions
  dsimp only
  generalize step ⟨s, inner, d⟩ = x at hstep
  generalize relaxed ⟨s', inner', d'⟩ = y at hstep
  cases hstep with
  | ok ha hs ht => exact .ok ha hs { ht with options := hr.options }
  | lasting hsignal hvalue hs ht =>
      exact .lasting hsignal hvalue hs { ht with options := hr.options }
  | failed hsignal => exact .failed hsignal

/-- What is not found is nil on both sides, or an error on the first one. -/
theorem follows_unresolved (e : EvalError) :
    Follows g g.Holds (unresolved e) (unresolved e) := by
  refine follows_options fun o o' ho => ?_
  by_cases hcause : e.cause.isUnresolved = true
  · by_cases hstrict : o.strict = true
    · have hfails : ∀ relaxed : Eval Value, Follows g g.Holds (throw (.error e)) relaxed := by
        refine fun relaxed _ _ _ _ => .failed fun hcancelled => ?_
        have hcancelled : e.cause = .cancelled := hcancelled
        rw [hcancelled] at hcause
        cases hcause
      simpa [hstrict] using hfails _
    · have hstrict' : ¬o'.strict = true := fun h => hstrict (ho.strict h)
      have hnil : Follows g g.Holds (pure .nil) (pure .nil) := follows_pure .nil
      simpa [hstrict, hstrict', hcause] using hnil
  · have hthrow : Follows g g.Holds (throw (.error e)) (throw (.error e)) :=
      follows_throw (by simp)
    simpa [hcause] using hthrow

/-- What an action does not find is nil on both sides, or an error on the first
one. -/
theorem follows_resolve {action : Action Value} (h : g.Keeps g.Holds action) :
    Follows g g.Holds (resolve action) (resolve action) := by
  rintro ⟨s, o, d⟩ ⟨s', o', d'⟩ hs hr
  have hstore : s' = s := hr.store
  subst hstore
  have hrelaxes : ∀ t, Run.Relaxes ⟨t, o, d⟩ ⟨t, o', d'⟩ := fun _ => { hr with store := rfl }
  have haction := h s' hs
  unfold resolve
  dsimp only
  cases hresult : action s' with
  | ok a t =>
      rw [hresult] at haction
      exact .ok haction.1 haction.2 (hrelaxes t)
  | error e t =>
      rw [hresult] at haction
      exact follows_unresolved e _ _ haction.2 (hrelaxes t)

/-- A member of nil is nil on both sides, or an error on the first one. -/
theorem follows_memberOfNil (name : String) :
    Follows g g.Holds (memberOfNil name) (memberOfNil name) := by
  refine follows_options fun o o' ho => ?_
  by_cases hsafe : o.safe = true
  · rw [if_pos hsafe, if_pos (ho.safe hsafe)]
    exact follows_pure .nil
  · rw [if_neg hsafe]
    exact follows_fail (by simp)

/-- One level deeper: where the first run may go, the second one may. -/
theorem follows_entering (span : Span) {step relaxed : Eval α}
    (h : Follows g holds step relaxed) :
    Follows g holds (entering span step) (entering span relaxed) := by
  rintro ⟨s, o, d⟩ ⟨s', o', d'⟩ hs hr
  have hdepth : d'.depth = d.depth := hr.depth
  have hlimit : d.limit ≤ d'.limit := hr.limit
  unfold entering Depth.enter
  dsimp only
  by_cases hfull : d.limit ≤ d.depth
  · rw [if_pos hfull]
    exact .failed fun hcancelled => by cases hcancelled
  · have hfull' : ¬d'.limit ≤ d'.depth := by omega
    rw [if_neg hfull, if_neg hfull']
    have hstep := h ⟨s, o, { d with depth := d.depth + 1 }⟩
      ⟨s', o', { d' with depth := d'.depth + 1 }⟩ hs { hr with depth := by simp [hdepth] }
    dsimp only
    generalize step _ = x at hstep
    generalize relaxed _ = y at hstep
    cases hstep with
    | ok ha hs ht => exact .ok ha hs { ht with depth := by simp [Depth.exit, ht.depth] }
    | lasting hsignal hvalue hs ht =>
        exact .lasting (Signal.lasting_located.mpr hsignal)
          (fun v hv => hvalue v (Signal.located_eq_returned hv)) hs
          { ht with depth := by simp [Depth.exit, ht.depth] }
    | failed hsignal => exact .failed (mt Signal.lasting_located.mp hsignal)

/-- The end of a function catches what is returned on both sides. -/
theorem follows_atFunctionEnd {body relaxed : Eval Value} (h : Follows g g.Holds body relaxed) :
    Follows g g.Holds (atFunctionEnd body) (atFunctionEnd relaxed) := by
  intro r r' hs hr
  have hbody := h r r' hs hr
  unfold atFunctionEnd
  generalize body r = x at hbody
  generalize relaxed r' = y at hbody
  cases hbody with
  | ok ha hs ht => exact .ok ha hs ht
  | @lasting signal t t' hsignal hvalue hs ht =>
      cases signal with
      | returned v => exact .ok (hvalue v rfl) hs ht
      | error e => exact .lasting hsignal hvalue hs ht
      | breakLoop => exact .failed fun h => by cases h
      | continueLoop => exact .failed fun h => by cases h
      | exhausted => exact hsignal.elim
  | @failed signal t other hsignal =>
      cases signal with
      | returned v => exact (hsignal trivial).elim
      | error e => exact .failed hsignal
      | breakLoop => exact (hsignal trivial).elim
      | continueLoop => exact (hsignal trivial).elim
      | exhausted => exact .failed hsignal

/-- An operator that yields a scalar. -/
theorem follows_scalar {f f' : Store → Except EvalError Value}
    (h : ∀ s, Arithmetic.Kept Arithmetic.Scalar (f s) (f' s)) :
    Follows g g.Holds (compute f) (compute f') :=
  (follows_compute h).imp fun _ => Territory.holds_of_scalar

/-- Values that are not comparable are an error on the first side only. -/
theorem follows_relational (op : BinaryOp) (left right : Value) :
    Follows g g.Holds (relational op left right) (relational op left right) := by
  refine follows_options fun o o' ho => follows_scalar fun s => ?_
  have hcompare := Arithmetic.kept_compare s left right
  cases hresult : Arithmetic.compare s left right with
  | ok order => exact Arithmetic.kept_ok rfl
  | error e =>
      rw [hresult] at hcompare
      by_cases hstrict : o.strict = true
      · rw [hstrict]
        exact hcompare
      · have hstrict' : ¬o'.strict = true := fun h => hstrict (ho.strict h)
        dsimp only
        rw [if_neg hstrict, if_neg hstrict']
        exact Arithmetic.kept_ok rfl

/-- A call of nil is nil on both sides, or an error on the first one. -/
theorem follows_callNil :
    Follows g g.Holds (do if (← options).strict then fail (.notCallable "null") else return .nil)
      (do if (← options).strict then fail (.notCallable "null") else return .nil) := by
  refine follows_options fun o o' ho => ?_
  by_cases hstrict : o.strict = true
  · rw [if_pos hstrict]
    exact follows_fail (by simp)
  · have hstrict' : ¬o'.strict = true := fun h => hstrict (ho.strict h)
    rw [if_neg hstrict, if_neg hstrict']
    exact follows_pure .nil

/-- Breaking a loop and going on are ends of its body on both sides. -/
theorem follows_round {body body' : Eval Value} {last : Value}
    (h : Follows g g.Holds body body') (hlast : g.Holds last) :
    Follows g (fun outcome : Bool × Value => g.Holds outcome.2) (round body last)
      (round body' last) := by
  intro r r' hs hr
  have hbody := h r r' hs hr
  unfold round
  generalize body r = x at hbody
  generalize body' r' = y at hbody
  cases hbody with
  | ok hvalue hs ht => exact .ok hvalue hs ht
  | @lasting signal t t' hsignal hvalue hs ht =>
      cases signal with
      | breakLoop => exact .ok hlast hs ht
      | continueLoop => exact .ok hlast hs ht
      | _ => exact .lasting hsignal hvalue hs ht
  | @failed signal t other hsignal =>
      cases signal with
      | breakLoop => exact (hsignal trivial).elim
      | continueLoop => exact (hsignal trivial).elim
      | _ => exact .failed hsignal

end Eval

end ScriptEngine

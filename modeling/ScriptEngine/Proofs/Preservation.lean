import ScriptEngine.Proofs.CoupledNodes
import ScriptEngine.Proofs.Steadiness

/-!
# Evaluations that preserve an invariant

An evaluation that stays in a territory preserves every invariant of stores that the
actions it consists of preserve.  What embedder's code does matters only where the
discipline lets code write.

* `Eval.Preserved`, `Eval.Preserves` — the end of a step, and steps that end so;
* `Semantics.preserving` — preserving an invariant is a coupling;
* `Semantics.preserves_evaluate`, `Semantics.inv_of_call` — whole evaluations, and runs.
-/

namespace ScriptEngine

namespace Eval

variable {α β : Type}

/-- **The end of a step that preserves an invariant.**  The store is closed over the
territory and satisfies `inv`, and what a function returns belongs to the territory. -/
inductive Preserved (t : Territory) (inv : Store → Prop) (holds : α → Prop) :
    EStateM.Result Signal Run α → Prop
  | ok {a : α} {r : Run} : holds a → t.Closed r.store → inv r.store →
      Preserved t inv holds (.ok a r)
  | error {signal : Signal} {r : Run} : (∀ v, signal = .returned v → t.Holds v) →
      t.Closed r.store → inv r.store → Preserved t inv holds (.error signal r)

/-- **A step that preserves an invariant** of the closed stores of a territory. -/
def Preserves (t : Territory) (inv : Store → Prop) (holds : α → Prop) (step : Eval α) : Prop :=
  ∀ r, t.Closed r.store → inv r.store → Preserved t inv holds (step r)

variable {t : Territory} {inv : Store → Prop} {holds : α → Prop} {holds' : β → Prop}
variable {step : Eval α}

/-! ## Steps -/

theorem preserves_pure {a : α} (h : holds a) : Preserves t inv holds (pure a) :=
  fun _ hs hinv => .ok h hs hinv

theorem preserves_throw {signal : Signal} (h : ∀ v, signal = .returned v → t.Holds v) :
    Preserves t inv holds (throw signal) :=
  fun _ hs hinv => .error h hs hinv

theorem preserves_bind {next : α → Eval β} (h : Preserves t inv holds step)
    (hnext : ∀ a, holds a → Preserves t inv holds' (next a)) :
    Preserves t inv holds' (step >>= next) := by
  intro r hs hinv
  have hstep := h r hs hinv
  show Preserved t inv holds' (EStateM.bind step next r)
  unfold EStateM.bind
  generalize step r = ending at hstep
  cases hstep with
  | ok ha hs' hinv' => exact hnext _ ha _ hs' hinv'
  | error hsignal hs' hinv' => exact .error hsignal hs' hinv'

/-- An action that stays in the territory and preserves the invariant. -/
theorem preserves_act {action : Action α} (h : t.Keeps holds action)
    (hinv : ∀ s, t.Closed s → inv s → inv (Action.after action s)) :
    Preserves t inv holds (act action) := by
  rintro ⟨s, o, d⟩ hs hs'
  have haction := h s hs
  have hafter := hinv s hs hs'
  unfold Action.after at hafter
  unfold act
  dsimp only
  generalize action s = ending at haction hafter
  cases ending with
  | ok a s' => exact .ok haction.1 haction.2 hafter
  | error e s' => exact .error nofun haction.2 hafter

theorem preserves_compute {f : Store → Except EvalError α} (h : ∀ s a, f s = .ok a → holds a) :
    Preserves t inv holds (compute f) := by
  intro r hs hinv
  unfold compute
  cases hresult : f r.store with
  | ok a => exact .ok (h _ a hresult) hs hinv
  | error e => exact .error nofun hs hinv

theorem preserves_options {next : Options → Eval α} (h : ∀ o, Preserves t inv holds (next o)) :
    Preserves t inv holds (options >>= next) :=
  fun r hs hinv => h r.options r hs hinv

theorem preserves_withOptions (inner : Options) (h : Preserves t inv holds step) :
    Preserves t inv holds (withOptions inner step) := by
  rintro ⟨s, o, d⟩ hs hinv
  have hstep := h ⟨s, inner, d⟩ hs hinv
  unfold withOptions
  dsimp only
  generalize step ⟨s, inner, d⟩ = ending at hstep
  cases hstep with
  | ok ha hs' hinv' => exact .ok ha hs' hinv'
  | error hsignal hs' hinv' => exact .error hsignal hs' hinv'

theorem preserves_unresolved (e : EvalError) : Preserves t inv t.Holds (unresolved e) := by
  refine preserves_options fun o => ?_
  split
  · exact preserves_pure .nil
  · exact preserves_throw nofun

theorem preserves_resolve {action : Action Value} (h : t.Keeps t.Holds action)
    (hinv : ∀ s, t.Closed s → inv s → inv (Action.after action s)) :
    Preserves t inv t.Holds (resolve action) := by
  rintro ⟨s, o, d⟩ hs hs'
  have haction := h s hs
  have hafter := hinv s hs hs'
  unfold Action.after at hafter
  unfold resolve
  dsimp only
  generalize action s = ending at haction hafter
  cases ending with
  | ok a s' => exact .ok haction.1 haction.2 hafter
  | error e s' => exact preserves_unresolved e ⟨s', o, d⟩ haction.2 hafter

/-- Comparisons yield truth values. -/
theorem preserves_relational (op : BinaryOp) (left right : Value) :
    Preserves t inv t.Holds (relational op left right) := by
  refine preserves_options fun o => preserves_compute fun s v hv => ?_
  split at hv
  · exact Except.ok.inj hv ▸ .bool _
  · split at hv
    · cases hv
    · exact Except.ok.inj hv ▸ .bool _

/-! ## Ends that are caught -/

theorem preserves_atFunctionEnd {body : Eval Value} (h : Preserves t inv t.Holds body) :
    Preserves t inv t.Holds (atFunctionEnd body) := by
  intro r hs hinv
  have hbody := h r hs hinv
  unfold atFunctionEnd
  generalize body r = ending at hbody
  cases hbody with
  | ok ha hs' hinv' => exact .ok ha hs' hinv'
  | @error signal r' hsignal hs' hinv' =>
      cases signal with
      | returned v => exact .ok (hsignal v rfl) hs' hinv'
      | _ => exact .error nofun hs' hinv'

theorem preserves_round {body : Eval Value} {last : Value} (h : Preserves t inv t.Holds body)
    (hlast : t.Holds last) :
    Preserves t inv (fun outcome : Bool × Value => t.Holds outcome.2) (round body last) := by
  intro r hs hinv
  have hbody := h r hs hinv
  unfold round
  generalize body r = ending at hbody
  cases hbody with
  | ok ha hs' hinv' => exact .ok ha hs' hinv'
  | @error signal r' hsignal hs' hinv' =>
      cases signal with
      | breakLoop | continueLoop => exact .ok hlast hs' hinv'
      | _ => exact .error hsignal hs' hinv'

theorem preserves_silently {step : Eval Value} (h : Preserves t inv t.Holds step) :
    Preserves t inv t.Holds (silently step) := by
  intro r hs hinv
  have hstep := h r hs hinv
  unfold silently
  generalize step r = ending at hstep
  cases hstep with
  | ok ha hs' hinv' => exact .ok ha hs' hinv'
  | @error signal r' hsignal hs' hinv' =>
      cases signal with
      | error e =>
          dsimp only
          split
          · exact .error nofun hs' hinv'
          · exact .ok .nil hs' hinv'
      | _ => exact .error hsignal hs' hinv'

theorem preserves_entering (span : Span) (h : Preserves t inv holds step) :
    Preserves t inv holds (entering span step) := by
  rintro ⟨s, o, d⟩ hs hinv
  unfold entering
  dsimp only
  cases d.enter with
  | error limit => exact .error nofun hs hinv
  | ok deeper =>
      have hstep := h ⟨s, o, deeper⟩ hs hinv
      dsimp only
      generalize step ⟨s, o, deeper⟩ = ending at hstep
      cases hstep with
      | ok ha hs' hinv' => exact .ok ha hs' hinv'
      | @error signal r' hsignal hs' hinv' =>
          refine .error (fun v hv => hsignal v ?_) hs' hinv'
          cases signal <;> cases hv
          rfl

end Eval

namespace Semantics

open Eval

/-- **What a discipline asks of an invariant**: everything that evaluations do to the store
preserves it, and so do loops over values that assign their variables. -/
structure Maintains (rules : Semantics) (t : Discipline) (inv : Store → Prop) : Prop where
  contains : t.writes → t.Contains rules.members.embedder
  does : ∀ {α : Type} {action : Action α}, rules.members.Does t.writes action →
    ∀ s, t.Closed s → inv s → inv (Action.after action s)
  assign : ∀ {ctx : ContextRef} {name : String} {value : Value}, t.loopVariables name →
    t.contexts ctx → t.Holds value →
    Preserves t.toTerritory inv (fun _ => True) (act (ctx.assign rules.members name value))

variable {rules : Semantics} {t : Discipline} {inv : Store → Prop}

/-- **Preserving an invariant is a coupling.** -/
def preserving (h : rules.Maintains t inv) : Coupling t rules rules where
  rel _ holds step _ := Preserves t.toTerritory inv holds step
  options _ _ := True
  relaxes := .refl rules
  contains := h.contains
  rel_pure := preserves_pure
  rel_bind := preserves_bind
  rel_throw hpermits _ := preserves_throw fun v hv => by
    rw [hv] at hpermits
    exact hpermits
  rel_act hdoes hkeeps := preserves_act hkeeps (h.does hdoes)
  rel_assign := h.assign
  rel_compute hkept _ := preserves_compute fun s a hresult => by
    have hresult' := hkept s
    rw [hresult] at hresult'
    exact hresult'.1
  rel_resolve hdoes hkeeps := preserves_resolve hkeeps (h.does hdoes)
  rel_unresolved _ _ := preserves_unresolved _
  rel_memberOfNil name := preserves_options fun o => by
    split
    · exact preserves_pure .nil
    · exact preserves_throw nofun
  rel_callNil := preserves_options fun o => by
    split
    · exact preserves_throw nofun
    · exact preserves_pure .nil
  rel_relational := preserves_relational
  rel_options hnext := preserves_options fun o => hnext o o trivial
  rel_withOptions _ hstep := preserves_withOptions _ hstep
  options_lenient _ := trivial
  options_strict _ _ := trivial
  options_safe _ _ := trivial
  rel_atFunctionEnd := preserves_atFunctionEnd
  rel_round := preserves_round
  rel_silently _ := preserves_silently

/-- **A whole evaluation preserves the invariant.** -/
theorem preserves_evaluate (h : rules.Maintains t inv) (n : Nat) :
    (preserving h).Couples (rules.evaluate n) (rules.evaluate n) := by
  induction n with
  | zero =>
      intro inLoop tree ctx _ _
      exact preserves_throw nofun
  | succ n ih =>
      intro inLoop tree ctx htree hctx
      exact preserves_entering _ ((preserving h).rel_node (.inContext ih hctx) (fun _ => rfl) htree)

/-- The store that a run leaves behind satisfies the invariant, whatever its outcome is. -/
theorem inv_of_runStep {options : Options} {step : Eval Value} {s : Store}
    (h : Preserves t.toTerritory inv t.Holds step) (hs : t.Closed s) (hinv : inv s) :
    inv (runStep options step s).2 := by
  have hstep := h ⟨s, options, .top options.maxDepth⟩ hs hinv
  unfold runStep
  generalize step _ = ending at hstep
  cases hstep with
  | ok _ _ hinv' => exact hinv'
  | @error signal r _ _ hinv' => cases signal <;> exact hinv'

/-- **A call preserves the invariant**, whatever its outcome is. -/
theorem inv_of_call (h : rules.Maintains t inv) {options : Options} {closure : Closure Value}
    {args : List Value} {ctx : ContextRef} {s : Store} (hctx : t.contexts ctx)
    (hclosure : t.Holds (.function closure)) (hargs : ∀ v ∈ args, t.Holds v) (hs : t.Closed s)
    (hinv : inv s) : inv (rules.call options closure args ctx s).2 := by
  have hcall : (preserving h).rel false t.Holds
      (callFunction (rules.evaluate plenty) closure args ctx)
      (callFunction (rules.evaluate plenty) closure args ctx) :=
    (preserving h).rel_callFunction (preserves_evaluate h plenty) hctx hclosure hargs
  exact inv_of_runStep hcall hs hinv

end Semantics

end ScriptEngine

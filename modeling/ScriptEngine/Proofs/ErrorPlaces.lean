import ScriptEngine.Proofs.Agreement
import ScriptEngine.Proofs.Conduct

/-!
# The places of errors

Operators, members and the embedder's code fail without a place.  The node whose own
step fails gives the error its place; the nodes around it, and the ends of functions,
pass on what they are given.  So an error with a place is either the node's own, with
the place of the node, or one of those that it was given by the evaluations it asked
for.

Which evaluations a step asks for is not part of its result.  It shows when an answer
is withheld: a step that asks for it is cut short, and one that does not goes on as
before.

* `Evaluator.withholding`, `Eval.Receives` — a step that is given an error;
* `Eval.PassesOn` — a step that fails with an error only if it is given that;
* `Semantics.passing` — passing on is a coupling;
* `Semantics.evaluate_pinned`, `Semantics.errors_pinned` — one node, and whole runs.
-/

namespace ScriptEngine

/-! ## Errors without a place -/

/-- Failing without a place, as a conduct: any change of the store is allowed. -/
def Action.placeless : Action.Conduct where
  changes _ _ := True
  fails e := e.span = none
  refl _ := trivial
  trans _ _ := trivial
  contents _ := trivial
  bindings _ _ _ := trivial
  newContext _ _ := trivial
  fails_ofCause _ := rfl

/-! ## Asking for evaluations -/

/-- An evaluator that does not answer with the error `e`: where it would, the step that
asks is cut short. -/
def Evaluator.withholding (ev : Evaluator) (e : EvalError) : Evaluator := fun tree ctx r =>
  match ev tree ctx r with
  | .error (.error e') r' => .error (if e' = e then .exhausted else .error e') r'
  | answer => answer

namespace Eval

variable {α β : Type}

/-- The end of a step that is cut short. -/
def IsCut (ending : EStateM.Result Signal Run α) : Prop := ∃ r, ending = .error .exhausted r

/-- **A step that is given the error `e`** by an evaluation that it asks for: it is cut
short if these answers are withheld, and only then. -/
def Receives (e : EvalError) (step : Evaluator → Eval α) (ev : Evaluator) (r : Run) : Prop :=
  IsCut (step (ev.withholding e) r) ∧ ¬IsCut (step ev r)

/-- There is an evaluation that fails with an error which a step is given. -/
theorem Receives.exists_failure {e : EvalError} {step : Evaluator → Eval α} {ev : Evaluator}
    {r : Run} (h : Receives e step ev r) :
    ∃ part ctx r₁ r₂, ev part ctx r₁ = .error (.error e) r₂ := by
  by_contra hnone
  have hsame : ev.withholding e = ev := by
    funext part ctx r₁
    unfold Evaluator.withholding
    split
    · rename_i e' r₂ hfails
      have hother : e' ≠ e := by
        rintro rfl
        exact hnone ⟨part, ctx, r₁, r₂, hfails⟩
      rw [if_neg hother, hfails]
    · rfl
  exact h.2 (hsame ▸ h.1)

/-! ## Passing errors on -/

/-- The end of a step that does not fail with `e`, and whose result satisfies `holds` if it
has one. -/
def Spared (e : EvalError) (holds : α → Prop) : EStateM.Result Signal Run α → Prop
  | .ok a _ => holds a
  | .error signal _ => signal ≠ .error e

/-- **A step that fails with `e` only by passing it on**: the same step without those
answers is cut short, or it does the same and there is no such failure. -/
def PassesOn (e : EvalError) (holds : α → Prop) (step step' : Eval α) : Prop :=
  ∀ r, IsCut (step' r) ∨ step' r = step r ∧ Spared e holds (step r)

variable {e : EvalError} {holds : α → Prop} {holds' : β → Prop} {step step' : Eval α}

theorem passesOn_pure {a : α} (h : holds a) : PassesOn e holds (pure a) (pure a) :=
  fun _ => .inr ⟨rfl, h⟩

/-- A signal that is not the error itself. -/
theorem passesOn_throw {signal : Signal} (h : signal ≠ .error e) :
    PassesOn e holds (throw signal) (throw signal) :=
  fun _ => .inr ⟨rfl, h⟩

theorem passesOn_bind {next next' : α → Eval β} (h : PassesOn e holds step step')
    (hnext : ∀ a, holds a → PassesOn e holds' (next a) (next' a)) :
    PassesOn e holds' (step >>= next) (step' >>= next') := by
  intro r
  show IsCut (EStateM.bind step' next' r) ∨
    EStateM.bind step' next' r = EStateM.bind step next r ∧
      Spared e holds' (EStateM.bind step next r)
  unfold EStateM.bind
  rcases h r with ⟨r', hcut⟩ | ⟨hsame, hspared⟩
  · rw [hcut]
    exact .inl ⟨r', rfl⟩
  · rw [hsame]
    cases hstep : step r with
    | ok a r' =>
        rw [hstep] at hspared
        exact hnext a hspared r'
    | error signal r' =>
        rw [hstep] at hspared
        exact .inr ⟨rfl, hspared⟩

/-- A step around another one, which looks at nothing of it but its end, keeps a cut and
does not make the error. -/
theorem passesOn_around {γ : Type} {holds' : γ → Prop} (around : Eval α → Eval γ)
    (enter : Run → Run) (h : PassesOn e holds step step')
    (hends : ∀ (step : Eval α) (r : Run), around step r = around (fun _ => step (enter r)) r)
    (hcut : ∀ r r', IsCut (around (fun _ => .error .exhausted r') r))
    (hspared : ∀ r ending, Spared e holds ending → Spared e holds' (around (fun _ => ending) r)) :
    PassesOn e holds' (around step) (around step') := by
  intro r
  rw [hends step r, hends step' r]
  rcases h (enter r) with ⟨r', hshort⟩ | ⟨hsame, hstep⟩
  · rw [hshort]
    exact .inl (hcut r r')
  · rw [hsame]
    exact .inr ⟨rfl, hspared r _ hstep⟩

theorem passesOn_act {action : Action α} (hplaced : e.span ≠ none)
    (h : ∀ s, Action.Ends Action.placeless s (action s))
    (hholds : ∀ s a s', action s = .ok a s' → holds a) :
    PassesOn e holds (act action) (act action) := by
  rintro ⟨s, o, d⟩
  have hends := h s
  refine .inr ⟨rfl, ?_⟩
  unfold act
  dsimp only
  cases hresult : action s with
  | ok a s' => exact hholds s a s' hresult
  | error e' s' =>
      rw [hresult] at hends
      have hnone : e'.span = none := hends.2
      rintro heq
      cases heq
      exact hplaced hnone

theorem passesOn_compute {f : Store → Except EvalError α}
    (hholds : ∀ s a, f s = .ok a → holds a) (hfails : ∀ s e', f s = .error e' → e' ≠ e) :
    PassesOn e holds (compute f) (compute f) := by
  intro r
  refine .inr ⟨rfl, ?_⟩
  unfold compute
  cases hresult : f r.store with
  | ok a => exact hholds r.store a hresult
  | error e' =>
      intro heq
      cases heq
      exact hfails r.store e hresult rfl

theorem passesOn_options {next next' : Options → Eval α}
    (h : ∀ o, PassesOn e holds (next o) (next' o)) :
    PassesOn e holds (options >>= next) (options >>= next') :=
  fun r => h r.options r

theorem passesOn_withOptions (inner : Options) (h : PassesOn e holds step step') :
    PassesOn e holds (withOptions inner step) (withOptions inner step') := by
  refine passesOn_around (withOptions inner) (fun r => { r with options := inner }) h
    (fun _ _ => rfl) (fun _ _ => ⟨_, rfl⟩) ?_
  intro r ending hending
  cases ending <;> exact hending

/-- An error of a step's own has no place. -/
theorem error_ne {e' : EvalError} (hplaced : e.span ≠ none) (h : e'.span = none) :
    Signal.error e' ≠ .error e := by
  intro heq
  cases heq
  exact hplaced h

theorem passesOn_fail (cause : EvalError.Cause) (hplaced : e.span ≠ none) :
    PassesOn e holds (fail cause) (fail cause) :=
  passesOn_throw (error_ne hplaced rfl)

theorem passesOn_unresolved {holds : Value → Prop} {e' : EvalError} (hplaced : e.span ≠ none)
    (h : e'.span = none) (hholds : ∀ v, holds v) :
    PassesOn e holds (unresolved e') (unresolved e') := by
  refine passesOn_options fun o => ?_
  split
  · exact passesOn_pure (hholds _)
  · exact passesOn_throw (error_ne hplaced h)

theorem passesOn_resolve {holds : Value → Prop} {action : Action Value}
    (hplaced : e.span ≠ none) (h : Action.Obeys Action.placeless action)
    (hholds : ∀ v, holds v) : PassesOn e holds (resolve action) (resolve action) := by
  rintro ⟨s, o, d⟩
  have hends := h s
  unfold resolve
  dsimp only
  cases hresult : action s with
  | ok a s' => exact .inr ⟨rfl, hholds a⟩
  | error e' s' =>
      rw [hresult] at hends
      exact passesOn_unresolved hplaced hends.2 hholds ⟨s', o, d⟩

theorem passesOn_memberOfNil {holds : Value → Prop} (name : String) (hplaced : e.span ≠ none)
    (hholds : ∀ v, holds v) : PassesOn e holds (memberOfNil name) (memberOfNil name) := by
  refine passesOn_options fun o => ?_
  split
  · exact passesOn_pure (hholds _)
  · exact passesOn_fail _ hplaced

theorem passesOn_callNil {holds : Value → Prop} (hplaced : e.span ≠ none)
    (hholds : ∀ v, holds v) :
    PassesOn e holds
      (do if (← options).strict then fail (.notCallable "null") else return .nil)
      (do if (← options).strict then fail (.notCallable "null") else return .nil) := by
  refine passesOn_options fun o => ?_
  split
  · exact passesOn_fail _ hplaced
  · exact passesOn_pure (hholds _)

/-- A comparison fails as the arithmetic does. -/
theorem passesOn_relational {holds : Value → Prop} (op : BinaryOp) (left right : Value)
    (hplaced : e.span ≠ none) (hholds : ∀ v, holds v) :
    PassesOn e holds (relational op left right) (relational op left right) := by
  refine passesOn_options fun o => passesOn_compute (fun _ v _ => hholds v) ?_
  intro s e' hfails
  have hkept := Arithmetic.kept_compare s left right
  cases hcompare : Arithmetic.compare s left right with
  | ok order =>
      rw [hcompare] at hfails
      cases hfails
  | error e'' =>
      rw [hcompare] at hfails hkept
      dsimp only at hfails
      split at hfails
      · cases hfails
        rintro rfl
        exact hplaced hkept.2
      · cases hfails

/-! ## Ends that are caught -/

/-- What a function ends with is passed on, or an exit that becomes an error without a
place. -/
theorem passesOn_atFunctionEnd {holds : Value → Prop} {body body' : Eval Value}
    (hplaced : e.span ≠ none) (h : PassesOn e holds body body') (hholds : ∀ v, holds v) :
    PassesOn e holds (atFunctionEnd body) (atFunctionEnd body') := by
  refine passesOn_around atFunctionEnd id h (fun _ _ => rfl) (fun _ r' => ⟨r', rfl⟩) ?_
  intro r ending hending
  cases ending with
  | ok v r' => exact hending
  | error signal r' =>
      cases signal with
      | error e' => exact hending
      | breakLoop => exact error_ne hplaced rfl
      | continueLoop => exact error_ne hplaced rfl
      | returned v => exact hholds v
      | exhausted => exact hending

theorem passesOn_round {holds : Value → Prop} {body body' : Eval Value} {last : Value}
    (h : PassesOn e holds body body') (hholds : ∀ v, holds v) :
    PassesOn e (fun outcome : Bool × Value => holds outcome.2) (round body last)
      (round body' last) := by
  refine passesOn_around (round · last) id h (fun _ _ => rfl) (fun _ r' => ⟨r', rfl⟩) ?_
  intro r ending hending
  cases ending with
  | ok v r' => exact hending
  | error signal r' =>
      cases signal with
      | breakLoop => exact hholds last
      | continueLoop => exact hholds last
      | error e' => exact hending
      | returned v => exact hending
      | exhausted => exact hending

/-- Silence makes no errors. -/
theorem passesOn_silently {holds : Value → Prop} {step step' : Eval Value}
    (h : PassesOn e holds step step') (hholds : ∀ v, holds v) :
    PassesOn e holds (silently step) (silently step') := by
  refine passesOn_around silently id h (fun _ _ => rfl) (fun _ r' => ⟨r', rfl⟩) ?_
  intro r ending hending
  cases ending with
  | ok v r' => exact hending
  | error signal r' =>
      cases signal with
      | error e' =>
          unfold silently
          dsimp only
          split
          · exact hending
          · exact hholds _
      | breakLoop => exact hending
      | continueLoop => exact hending
      | returned v => exact hending
      | exhausted => exact hending

end Eval

namespace Semantics

open Eval

variable {rules : Semantics}

/-- **Passing on is a coupling**, if the embedder's own code fails without a place. -/
def passing (he : rules.members.embedder.Obeys Action.placeless) {e : EvalError}
    (hplaced : e.span ≠ none) : Coupling .free rules rules where
  rel _ := PassesOn e
  options := Eq
  relaxes := .refl rules
  contains := rules.contains_free
  rel_pure := passesOn_pure
  rel_bind := passesOn_bind
  rel_throw _ hunplaced := passesOn_throw fun heq => by
    rw [heq] at hunplaced
    exact hplaced hunplaced
  rel_act hdoes hkeeps := passesOn_act hplaced (hdoes.obeys he) fun s a s' hresult => by
    have haction := hkeeps s (Discipline.closed_lax s)
    rw [hresult] at haction
    exact haction.1
  rel_assign {_ ctx name value} _ _ _ :=
    passesOn_act hplaced ((Members.Does.assign ctx name value trivial).obeys he)
      fun _ _ _ _ => trivial
  rel_compute h hsame := by
    rw [← hsame rfl]
    refine passesOn_compute (fun s a hresult => ?_) fun s e' hresult => ?_
    · have hkept := h s
      rw [hresult] at hkept
      exact hkept.1
    · have hkept := h s
      rw [hresult] at hkept
      rintro rfl
      exact hplaced hkept.2
  rel_resolve hdoes _ := passesOn_resolve hplaced (hdoes.obeys he) Discipline.holds_lax
  rel_unresolved _ hnone := passesOn_unresolved hplaced hnone Discipline.holds_lax
  rel_memberOfNil name := passesOn_memberOfNil name hplaced Discipline.holds_lax
  rel_callNil := passesOn_callNil hplaced Discipline.holds_lax
  rel_relational op left right := passesOn_relational op left right hplaced Discipline.holds_lax
  rel_options h := passesOn_options fun o => h o o rfl
  rel_withOptions ho h := by
    rw [← ho]
    exact passesOn_withOptions _ h
  options_lenient := congrArg Options.lenient
  options_strict := strict_eq_of_eq
  options_safe := safe_eq_of_eq
  rel_atFunctionEnd h := passesOn_atFunctionEnd hplaced h Discipline.holds_lax
  rel_round h _ := passesOn_round h Discipline.holds_lax
  rel_silently _ h := passesOn_silently h Discipline.holds_lax

/-- An evaluator that withholds an error passes on nothing else. -/
theorem couples_withholding (he : rules.members.embedder.Obeys Action.placeless) {e : EvalError}
    (hplaced : e.span ≠ none) (ev : Evaluator) :
    (passing he hplaced).Couples ev (ev.withholding e) := by
  intro inLoop tree ctx _ _ r
  unfold Evaluator.withholding
  cases hanswer : ev tree ctx r with
  | ok v r' => exact .inr ⟨rfl, Discipline.holds_lax v⟩
  | error signal r' =>
      cases signal with
      | error e' =>
          dsimp only
          by_cases hsame : e' = e
          · rw [if_pos hsame]
            exact .inl ⟨r', rfl⟩
          · rw [if_neg hsame]
            refine .inr ⟨rfl, fun heq => ?_⟩
            cases heq
            exact hsame rfl
      | breakLoop => exact .inr ⟨rfl, nofun⟩
      | continueLoop => exact .inr ⟨rfl, nofun⟩
      | returned v => exact .inr ⟨rfl, nofun⟩
      | exhausted => exact .inr ⟨rfl, nofun⟩

/-- **A node fails with an error that has a place only if it is given it.** -/
theorem node_receives (he : rules.members.embedder.Obeys Action.placeless) {e : EvalError}
    (hplaced : e.span ≠ none) {fuel : Nat} {ev : Evaluator} {tree : Node} {ctx : ContextRef}
    {r r' : Run} (h : Eval.node rules fuel ev tree ctx r = .error (.error e) r') :
    Receives e (fun ev => Eval.node rules fuel ev tree ctx) ev r := by
  have hnode : PassesOn e Discipline.free.Holds (Eval.node rules fuel ev tree ctx)
      (Eval.node rules fuel (ev.withholding e) tree ctx) :=
    (passing he hplaced).rel_node (.inContext (couples_withholding he hplaced ev) trivial)
      (fun _ => rfl) (Discipline.code_free tree)
  rcases hnode r with hcut | ⟨-, hspared⟩
  · refine ⟨hcut, ?_⟩
    rintro ⟨r'', hexhausted⟩
    cases h.symm.trans hexhausted
  · rw [h] at hspared
    exact absurd rfl hspared

/-- A nested evaluation that fails gives its error a place: its own, or the one that came
with the error. -/
theorem evaluate_pinned (he : rules.members.embedder.Obeys Action.placeless) {n : Nat}
    {tree : Node} {ctx : ContextRef} {r r' : Run} {e : EvalError}
    (h : rules.evaluate n tree ctx r = .error (.error e) r') :
    e.span = some tree.span ∨
      e.span ≠ none ∧ ∃ k deeper, n = k + 1 ∧ r.depth.enter = .ok deeper ∧
        Receives e (fun ev => Eval.node rules k ev tree ctx) (rules.evaluate k)
          { r with depth := deeper } := by
  cases n with
  | zero => cases h
  | succ k =>
      obtain ⟨s, o, d⟩ := r
      rw [evaluate] at h
      unfold entering at h
      dsimp only at h
      cases hdepth : d.enter with
      | error limit =>
          rw [hdepth] at h
          cases h
          exact .inl rfl
      | ok deeper =>
          rw [hdepth] at h
          dsimp only at h
          cases hnode : Eval.node rules k (rules.evaluate k) tree ctx ⟨s, o, deeper⟩ with
          | ok v r'' =>
              rw [hnode] at h
              cases h
          | error signal r'' =>
              rw [hnode] at h
              cases signal with
              | error e' =>
                  obtain ⟨cause, span⟩ := e'
                  cases h
                  cases span with
                  | none => exact .inl rfl
                  | some span =>
                      have hplaced : (⟨cause, some span⟩ : EvalError).span ≠ none := nofun
                      exact .inr ⟨hplaced, k, deeper, rfl, rfl, node_receives he hplaced hnode⟩
              | breakLoop => cases h
              | continueLoop => cases h
              | returned v => cases h
              | exhausted => cases h

/-- A run that fails ended with a signal that means its error. -/
theorem signal_of_finish {options : Options} {ending : EStateM.Result Signal Run Value}
    {e : EvalError} {s : Store} (h : finish options ending = (.failure e, s)) :
    ∃ signal r, ending = .error signal r ∧ signal.toError? = some e ∧
      ∀ v, signal ≠ .returned v := by
  have hfirst : (finish options ending).1 = .failure e := congrArg Prod.fst h
  cases ending with
  | ok v r => cases hfirst
  | error signal r =>
      refine ⟨signal, r, rfl, ?_⟩
      cases signal with
      | error e' => exact ⟨congrArg some (eq_of_settle hfirst), nofun⟩
      | breakLoop => exact ⟨congrArg some (eq_of_settle hfirst), nofun⟩
      | continueLoop => exact ⟨congrArg some (eq_of_settle hfirst), nofun⟩
      | returned v => cases hfirst
      | exhausted => cases hfirst

/-- **Errors are pinned to the innermost node that fails**, if the embedder's own code
fails without a place.  A run fails with an error that has a place, unless the tree as a
whole ended with an exit from a loop: there the error is what that exit means, and it
has no place.  A nested evaluation that fails with an error gives it the place of its
node, or was given that very error, place and all, by an evaluation that the node asked
for. -/
theorem errors_pinned (rules : Semantics)
    (he : rules.members.embedder.Obeys Action.placeless) :
    (∀ (options : Options) (tree : Node) (ctx : ContextRef) (s : Store) (e : EvalError)
        (s' : Store), rules.interpret options tree ctx s = (.failure e, s') →
      e.span ≠ none ∨
        ∃ signal r, rules.evaluate plenty tree ctx ⟨s, options, .top options.maxDepth⟩ =
            .error signal r ∧
          (signal = .breakLoop ∨ signal = .continueLoop) ∧ signal.toError? = some e) ∧
    ∀ (n : Nat) (tree : Node) (ctx : ContextRef) (r : Run) (e : EvalError) (r' : Run),
      rules.evaluate n tree ctx r = .error (.error e) r' →
        e.span = some tree.span ∨
          e.span ≠ none ∧ ∃ k deeper, n = k + 1 ∧ r.depth.enter = .ok deeper ∧
            Receives e (fun ev => Eval.node rules k ev tree ctx) (rules.evaluate k)
              { r with depth := deeper } := by
  refine ⟨?_, fun n tree ctx r e r' h => evaluate_pinned he h⟩
  intro options tree ctx s e s' h
  obtain ⟨signal, r, hrun, hmeans, hreturned⟩ := signal_of_finish h
  cases signal with
  | error e' =>
      obtain rfl : e' = e := Option.some.inj hmeans
      rcases evaluate_pinned he hrun with hown | ⟨hplaced, -⟩
      · exact .inl (by rw [hown]; nofun)
      · exact .inl hplaced
  | breakLoop => exact .inr ⟨_, r, hrun, .inl rfl, hmeans⟩
  | continueLoop => exact .inr ⟨_, r, hrun, .inr rfl, hmeans⟩
  | returned v => exact absurd rfl (hreturned v)
  | exhausted => cases hmeans

/-- A quotient by zero inside of a negation: the run fails at the quotient, and the
negation was given that error. -/
theorem errors_pinned_quotient :
    let rules : Semantics := ⟨⟨true⟩, ⟨none, .none⟩⟩
    let quotient : Node := .binary ⟨2, 7⟩ .div (.literal ⟨2, 3⟩ (.number 1))
      (.literal ⟨6, 7⟩ (.number 0))
    let tree : Node := .unary ⟨0, 8⟩ .neg quotient
    let r : Run := ⟨.empty, .standard, .top 2048⟩
    (rules.interpret .standard tree ⟨0⟩ .empty).1 = .failure ⟨.divisionByZero, some ⟨2, 7⟩⟩ ∧
    ∃ deeper, r.depth.enter = .ok deeper ∧
      Receives ⟨.divisionByZero, some ⟨2, 7⟩⟩ (fun ev => Eval.node rules 8 ev tree ⟨0⟩)
        (rules.evaluate 8) { r with depth := deeper } := by
  intro rules quotient tree r
  have he : rules.members.embedder.Obeys Action.placeless :=
    { assign := fun _ _ _ => Action.obeys_pure false
      invoke := fun _ _ _ => Action.obeys_pure Value.nil
      construct := fun _ _ _ hfind => by cases hfind }
  have hrun : (rules.interpret .standard tree ⟨0⟩ .empty).1 =
      .failure ⟨.divisionByZero, some ⟨2, 7⟩⟩ := by with_unfolding_all rfl
  have hfails : rules.evaluate 9 tree ⟨0⟩ r =
      .error (.error ⟨.divisionByZero, some ⟨2, 7⟩⟩) r := by with_unfolding_all rfl
  refine ⟨hrun, ?_⟩
  rcases (errors_pinned rules he).2 9 tree ⟨0⟩ r _ r hfails with hown | ⟨-, k, deeper, hk, h⟩
  · cases hown
  · obtain rfl : k = 8 := by omega
    exact ⟨deeper, h⟩

/-- An exit from a loop that is not in one fails without a place, though it is a node with
a place that ends the run. -/
theorem stray_exit_unplaced :
    let rules : Semantics := ⟨⟨true⟩, ⟨none, .none⟩⟩
    (rules.interpret .standard (.breakLoop ⟨0, 5⟩) ⟨0⟩ .empty).1 =
      .failure ⟨.custom "'break' outside of a loop", none⟩ ∧
    ¬∀ (options : Options) (tree : Node) (ctx : ContextRef) (s : Store) (e : EvalError)
      (s' : Store), options.silent = false →
      rules.interpret options tree ctx s = (.failure e, s') → e.span ≠ none := by
  intro rules
  have hrun : rules.interpret .standard (.breakLoop ⟨0, 5⟩) ⟨0⟩ .empty =
      (.failure ⟨.custom "'break' outside of a loop", none⟩, .empty) := by with_unfolding_all rfl
  refine ⟨congrArg Prod.fst hrun, fun hplaced => ?_⟩
  exact hplaced _ _ _ _ _ _ rfl hrun rfl

end Semantics

end ScriptEngine

import ScriptEngine.Proofs.Cancellation

/-!
# The policy of a run

Two of the options are about failures of a whole run: a silent run ends with nil instead
of an error, and so does a run that is cancelled although it may not be.  The options are
copied wherever a statement or an operand is evaluated under other ones, but these two are
carried along unchanged, and nothing looks at them before the run has ended.

So two runs that differ in their policy only go through the same states, apart from the
policy itself, and one can tell from the end of the first what the end of the second is.

* `Run.policed` — the same state under another policy;
* `Eval.Ignores` — a step that does the same under another policy;
* `Semantics.ignoring` — ignoring the policy is a coupling;
* `Outcome.policed` — what another policy makes of an outcome;
* `Semantics.policy_acts_at_end` — whole runs.
-/

namespace ScriptEngine

/-- The options with another policy for failures of the whole run. -/
def Options.policed (silent cancellable : Bool) (o : Options) : Options :=
  { o with silent := silent, cancellable := cancellable }

/-- The state of a run under another policy. -/
def Run.policed (silent cancellable : Bool) (r : Run) : Run :=
  { r with options := r.options.policed silent cancellable }

namespace Eval

variable {α β : Type}

/-- The end of a step under another policy. -/
def policedEnd (silent cancellable : Bool) :
    EStateM.Result Signal Run α → EStateM.Result Signal Run α
  | .ok a r => .ok a (r.policed silent cancellable)
  | .error signal r => .error signal (r.policed silent cancellable)

/-- **A step that does the same under another policy** as another step under its own, with
results that satisfy `holds`. -/
def Ignores (silent cancellable : Bool) (holds : α → Prop) (step step' : Eval α) : Prop :=
  ∀ r, step' (r.policed silent cancellable) = policedEnd silent cancellable (step r) ∧
    ∀ a r', step r = .ok a r' → holds a

variable {silent cancellable : Bool} {holds : α → Prop} {holds' : β → Prop}
variable {step step' : Eval α}

/-! ## Steps -/

theorem ignores_pure {a : α} (h : holds a) :
    Ignores silent cancellable holds (pure a) (pure a) :=
  fun _ => ⟨rfl, by rintro _ _ ⟨⟩; exact h⟩

theorem ignores_throw (signal : Signal) :
    Ignores silent cancellable holds (throw signal) (throw signal) :=
  fun _ => ⟨rfl, by rintro _ _ ⟨⟩⟩

theorem ignores_bind {next next' : α → Eval β}
    (h : Ignores silent cancellable holds step step')
    (hnext : ∀ a, holds a → Ignores silent cancellable holds' (next a) (next' a)) :
    Ignores silent cancellable holds' (step >>= next) (step' >>= next') := by
  intro r
  obtain ⟨hsame, hresult⟩ := h r
  show EStateM.bind step' next' _ = policedEnd _ _ (EStateM.bind step next r) ∧
    ∀ a r', EStateM.bind step next r = .ok a r' → holds' a
  unfold EStateM.bind
  rw [hsame]
  cases hstep : step r with
  | ok a r' => exact hnext a (hresult a r' hstep) r'
  | error signal r' => exact ⟨rfl, by rintro _ _ ⟨⟩⟩

theorem ignores_act {action : Action α} (h : ∀ s a s', action s = .ok a s' → holds a) :
    Ignores silent cancellable holds (act action) (act action) := by
  rintro ⟨s, o, d⟩
  unfold act Run.policed
  dsimp only
  cases hresult : action s with
  | ok a s' => exact ⟨rfl, by rintro _ _ ⟨⟩; exact h s a s' hresult⟩
  | error e s' => exact ⟨rfl, by rintro _ _ ⟨⟩⟩

theorem ignores_compute {f : Store → Except EvalError α} (h : ∀ s a, f s = .ok a → holds a) :
    Ignores silent cancellable holds (compute f) (compute f) := by
  rintro ⟨s, o, d⟩
  unfold compute Run.policed
  dsimp only
  cases hresult : f s with
  | ok a => exact ⟨rfl, by rintro _ _ ⟨⟩; exact h s a hresult⟩
  | error e => exact ⟨rfl, by rintro _ _ ⟨⟩⟩

/-- A step that depends on the options in force, but not on their policy. -/
theorem ignores_options {next next' : Options → Eval α}
    (h : ∀ o, Ignores silent cancellable holds (next o) (next' (o.policed silent cancellable))) :
    Ignores silent cancellable holds (options >>= next) (options >>= next') :=
  fun r => h r.options r

/-- The policy is that of the start again after a step under other options. -/
theorem ignores_withOptions (inner : Options) (h : Ignores silent cancellable holds step step') :
    Ignores silent cancellable holds (withOptions inner step)
      (withOptions (inner.policed silent cancellable) step') := by
  rintro ⟨s, o, d⟩
  obtain ⟨hsame, hresult⟩ := h ⟨s, inner, d⟩
  have hsame' : step' ⟨s, inner.policed silent cancellable, d⟩ =
      policedEnd silent cancellable (step ⟨s, inner, d⟩) := hsame
  unfold withOptions Run.policed
  dsimp only
  rw [hsame']
  cases hstep : step ⟨s, inner, d⟩ with
  | ok a r' => exact ⟨rfl, by rintro _ _ ⟨⟩; exact hresult a r' hstep⟩
  | error signal r' => exact ⟨rfl, by rintro _ _ ⟨⟩⟩

theorem ignores_unresolved (e : EvalError) {holds : Value → Prop} (hholds : ∀ v, holds v) :
    Ignores silent cancellable holds (unresolved e) (unresolved e) := by
  refine ignores_options fun o => ?_
  show Ignores _ _ holds _ (if !o.strict && e.cause.isUnresolved then _ else _)
  split
  · exact ignores_pure (hholds _)
  · exact ignores_throw _

theorem ignores_resolve {action : Action Value} {holds : Value → Prop} (hholds : ∀ v, holds v) :
    Ignores silent cancellable holds (resolve action) (resolve action) := by
  rintro ⟨s, o, d⟩
  unfold resolve Run.policed
  dsimp only
  cases action s with
  | ok a s' => exact ⟨rfl, fun _ _ _ => hholds _⟩
  | error e s' => exact ignores_unresolved e hholds ⟨s', o, d⟩

theorem ignores_memberOfNil (name : String) {holds : Value → Prop} (hholds : ∀ v, holds v) :
    Ignores silent cancellable holds (memberOfNil name) (memberOfNil name) := by
  refine ignores_options fun o => ?_
  show Ignores _ _ holds _ (if o.safe then _ else _)
  split
  · exact ignores_pure (hholds _)
  · exact ignores_throw _

theorem ignores_callNil {holds : Value → Prop} (hholds : ∀ v, holds v) :
    Ignores silent cancellable holds
      (do if (← options).strict then fail (.notCallable "null") else return .nil)
      (do if (← options).strict then fail (.notCallable "null") else return .nil) := by
  refine ignores_options fun o => ?_
  show Ignores _ _ holds _ (if o.strict then _ else _)
  split
  · exact ignores_throw _
  · exact ignores_pure (hholds _)

/-! ## Ends that are caught -/

theorem ignores_atFunctionEnd {body body' : Eval Value} {holds : Value → Prop}
    (h : Ignores silent cancellable holds body body') (hholds : ∀ v, holds v) :
    Ignores silent cancellable holds (atFunctionEnd body) (atFunctionEnd body') := by
  refine fun r => ⟨?_, fun _ _ _ => hholds _⟩
  unfold atFunctionEnd
  rw [(h r).1]
  rcases body r with ⟨v, r'⟩ | ⟨signal, r'⟩
  · rfl
  · cases signal <;> rfl

theorem ignores_round {body body' : Eval Value} {last : Value} {holds : Value → Prop}
    (h : Ignores silent cancellable holds body body') (hholds : ∀ v, holds v) :
    Ignores silent cancellable (fun outcome : Bool × Value => holds outcome.2)
      (round body last) (round body' last) := by
  refine fun r => ⟨?_, fun _ _ _ => hholds _⟩
  unfold round
  rw [(h r).1]
  rcases body r with ⟨v, r'⟩ | ⟨signal, r'⟩
  · rfl
  · cases signal <;> rfl

/-- What is silent is the annotation here, not the policy. -/
theorem ignores_silently {step step' : Eval Value} {holds : Value → Prop}
    (h : Ignores silent cancellable holds step step') (hholds : ∀ v, holds v) :
    Ignores silent cancellable holds (silently step) (silently step') := by
  refine fun r => ⟨?_, fun _ _ _ => hholds _⟩
  unfold silently
  rw [(h r).1]
  rcases step r with ⟨v, r'⟩ | ⟨signal, r'⟩
  · rfl
  · cases signal with
    | error e =>
        show (if e.cause = .cancelled then _ else _) = policedEnd _ _ (if _ then _ else _)
        split <;> rfl
    | _ => rfl

theorem ignores_entering (span : Span) (h : Ignores silent cancellable holds step step') :
    Ignores silent cancellable holds (entering span step) (entering span step') := by
  rintro ⟨s, o, d⟩
  unfold entering Run.policed
  dsimp only
  cases d.enter with
  | error limit => exact ⟨rfl, by rintro _ _ ⟨⟩⟩
  | ok deeper =>
      obtain ⟨hsame, hresult⟩ := h ⟨s, o, deeper⟩
      have hsame' : step' ⟨s, o.policed silent cancellable, deeper⟩ =
          policedEnd silent cancellable (step ⟨s, o, deeper⟩) := hsame
      dsimp only
      rw [hsame']
      cases hstep : step ⟨s, o, deeper⟩ with
      | ok a r' => exact ⟨rfl, by rintro _ _ ⟨⟩; exact hresult a r' hstep⟩
      | error signal r' => exact ⟨rfl, by rintro _ _ ⟨⟩⟩

end Eval

/-- What another policy makes of the outcome of a run that hides no failure: a
cancellation becomes nil if the run may not be cancelled with an error, and any failure
becomes nil if it is silent. -/
def Outcome.policed (silent cancellable : Bool) : Outcome → Outcome
  | .value v => .value v
  | .failure e =>
    if e.cause = .cancelled ∧ cancellable = false ∨ silent = true then .value .nil
    else .failure e
  | .exhausted => .exhausted

namespace Semantics

open Eval

variable (rules : Semantics) (silent cancellable : Bool)

/-- **Ignoring the policy is a coupling.** -/
def ignoring : Coupling .free rules rules where
  rel _ := Ignores silent cancellable
  options o o' := o' = o.policed silent cancellable
  relaxes := .refl rules
  contains := rules.contains_free
  rel_pure := ignores_pure
  rel_bind := ignores_bind
  rel_throw _ _ := ignores_throw _
  rel_act _ hkeeps := ignores_act fun s a s' hresult => by
    have haction := hkeeps s (Discipline.closed_lax s)
    rw [hresult] at haction
    exact haction.1
  rel_assign _ _ _ := ignores_act fun _ _ _ _ => trivial
  rel_compute h hsame := by
    rw [← hsame rfl]
    refine ignores_compute fun s a hresult => ?_
    have hkept := h s
    rw [hresult] at hkept
    exact hkept.1
  rel_resolve _ _ := ignores_resolve Discipline.holds_lax
  rel_unresolved _ _ := ignores_unresolved _ Discipline.holds_lax
  rel_memberOfNil name := ignores_memberOfNil name Discipline.holds_lax
  rel_callNil := ignores_callNil Discipline.holds_lax
  rel_relational _ _ _ := ignores_options fun _ =>
    ignores_compute fun _ v _ => Discipline.holds_lax v
  rel_options h := ignores_options fun o => h o _ rfl
  rel_withOptions ho h := ho ▸ ignores_withOptions _ h
  options_lenient ho := ho ▸ rfl
  options_strict _ ho := ho ▸ rfl
  options_safe _ ho := ho ▸ rfl
  rel_atFunctionEnd h := ignores_atFunctionEnd h Discipline.holds_lax
  rel_round h _ := ignores_round h Discipline.holds_lax
  rel_silently _ h := ignores_silently h Discipline.holds_lax

/-- A whole evaluation ignores the policy. -/
theorem ignores_evaluate (n : Nat) :
    (rules.ignoring silent cancellable).Couples (rules.evaluate n) (rules.evaluate n) := by
  induction n with
  | zero =>
      intro inLoop tree ctx _ _
      exact ignores_throw _
  | succ n ih =>
      intro inLoop tree ctx _ hctx
      have hnode : Ignores silent cancellable Discipline.free.Holds
          (node rules n (rules.evaluate n) tree ctx) (node rules n (rules.evaluate n) tree ctx) :=
        (rules.ignoring silent cancellable).rel_node (.inContext ih hctx) (fun _ => rfl)
          (Discipline.code_free tree)
      exact ignores_entering tree.span hnode

/-- A run ignores the policy, whether it begins with a tree or with a call. -/
theorem ignores_step (n : Nat) (entry : Entry) (ctx : ContextRef) :
    Ignores silent cancellable Discipline.free.Holds (entry.step (rules.evaluate n) ctx)
      (entry.step (rules.evaluate n) ctx) := by
  cases entry with
  | tree node =>
      exact ignores_evaluate rules silent cancellable n node ctx (Discipline.code_free node) trivial
  | call closure args =>
      have hcall : (rules.ignoring silent cancellable).rel false Discipline.free.Holds
          (callFunction (rules.evaluate n) closure args ctx)
          (callFunction (rules.evaluate n) closure args ctx) :=
        (rules.ignoring silent cancellable).rel_callFunction
          (ignores_evaluate rules silent cancellable n) trivial (Discipline.holds_lax _)
          fun v _ => Discipline.holds_lax v
      exact hcall

variable {silent cancellable} in
/-- The policy is looked at once, when the run has ended. -/
theorem finish_policed {o base : Options} (ho : o.silent = silent ∧ o.cancellable = cancellable)
    (hbase : base.silent = false ∧ base.cancellable = true)
    (ending : EStateM.Result Signal Run Value) :
    finish o (policedEnd silent cancellable ending) =
      ((finish base ending).1.policed silent cancellable, (finish base ending).2) := by
  have hsettle : ∀ e, settle o e = (settle base e).policed silent cancellable := by
    intro e
    unfold settle
    rw [hbase.1, hbase.2, ho.1, ho.2]
    by_cases hcause : e.cause = .cancelled
    · cases cancellable <;> cases silent <;> simp [Outcome.policed, hcause]
    · cases silent <;> simp [Outcome.policed, hcause]
  rcases ending with ⟨v, r⟩ | ⟨signal, r⟩
  · rfl
  · cases signal with
    | returned v => rfl
    | exhausted => rfl
    | error e => exact congrArg (·, r.store) (hsettle e)
    | breakLoop => exact congrArg (·, r.store) (hsettle _)
    | continueLoop => exact congrArg (·, r.store) (hsettle _)

/-- A run under any policy, told from the same run that hides no failure. -/
theorem runStep_policed (o : Options) (entry : Entry) (ctx : ContextRef) (s : Store) :
    runStep o (entry.step (rules.evaluate plenty) ctx) s =
      ((runStep (o.policed false true) (entry.step (rules.evaluate plenty) ctx) s).1.policed
          o.silent o.cancellable,
        (runStep (o.policed false true) (entry.step (rules.evaluate plenty) ctx) s).2) := by
  have hsame := (ignores_step rules o.silent o.cancellable plenty entry ctx
    ⟨s, o.policed false true, .top o.maxDepth⟩).1
  unfold runStep
  rw [← finish_policed ⟨rfl, rfl⟩ ⟨rfl, rfl⟩]
  exact congrArg (finish o) hsame

/-- **Silence and cancellability act only at the end of a run.**  Compare a run, of a tree
or of a call, to the run that is not silent and may be cancelled, and whose other options
are the same.  Both leave the same store, with all variables, collections and host objects
in it.  A value of the second is that of the first.  A failure of the second is the
identical failure of the first, unless it is a cancellation and the first run may not be
cancelled with an error, or the first run is silent: then that ends with nil. -/
theorem policy_acts_at_end (o : Options) (ctx : ContextRef) (s : Store) :
    (∀ tree, rules.interpret o tree ctx s =
      ((rules.interpret (o.policed false true) tree ctx s).1.policed o.silent o.cancellable,
        (rules.interpret (o.policed false true) tree ctx s).2)) ∧
    ∀ closure args, rules.call o closure args ctx s =
      ((rules.call (o.policed false true) closure args ctx s).1.policed o.silent o.cancellable,
        (rules.call (o.policed false true) closure args ctx s).2) :=
  ⟨fun tree => rules.runStep_policed o (.tree tree) ctx s,
    fun closure args => rules.runStep_policed o (.call closure args) ctx s⟩

/-- A silent run that fails ends with nil. -/
example : ((⟨⟨true⟩, ⟨none, .none⟩⟩ : Semantics).interpret
    { Options.standard with silent := true } (.breakLoop default) ⟨0⟩ .empty).1 = .value .nil := by
  rfl

end Semantics

end ScriptEngine

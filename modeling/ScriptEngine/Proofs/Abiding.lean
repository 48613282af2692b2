import ScriptEngine.Proofs.CoupledNodes

/-!
# Evaluations that abide by a discipline

A step that abides by a discipline ends in a way that the discipline permits, and
leaves the options and the depth as it found them, whatever its end is.  Two
evaluators are run side by side, so that one that is cut short in places which
are never reached can be told to be the same.

* `Eval.Ends` — the end of a step, and what it leaves behind;
* `Eval.Abides` — a step that abides, and another one that does the same;
* `Semantics.abiding` — abiding is a coupling, at every depth;
* `Eval.abides_entering` — going one level deeper and coming back.
-/

namespace ScriptEngine

namespace Eval

variable {α β : Type} {t : Discipline} {d : Depth} {inLoop : Bool} {r : Run}
variable {holds : α → Prop} {holds' : β → Prop} {step step' : Eval α}

/-- **The end of a step that a discipline permits.**  The store is closed, a result
satisfies `holds`, and the options and the depth are those of the start. -/
inductive Ends (t : Discipline) (inLoop : Bool) (holds : α → Prop) (r : Run) :
    EStateM.Result Signal Run α → Prop
  | ok {a : α} {r' : Run} : holds a → t.Closed r'.store → r'.options = r.options →
      r'.depth = r.depth → Ends t inLoop holds r (.ok a r')
  | error {signal : Signal} {r' : Run} : t.Permits inLoop signal → t.Closed r'.store →
      r'.options = r.options → r'.depth = r.depth → Ends t inLoop holds r (.error signal r')

/-- **A step that abides by a discipline** at some depth, and another step that does
the same. -/
def Abides (t : Discipline) (d : Depth) (inLoop : Bool) (holds : α → Prop)
    (step step' : Eval α) : Prop :=
  ∀ r, t.Closed r.store → r.depth = d → step' r = step r ∧ Ends t inLoop holds r (step r)

/-! ## Steps -/

theorem abides_pure {a : α} (h : holds a) : Abides t d inLoop holds (pure a) (pure a) :=
  fun _ hs _ => ⟨rfl, .ok h hs rfl rfl⟩

theorem abides_throw {signal : Signal} (h : t.Permits inLoop signal) :
    Abides t d inLoop holds (throw signal) (throw signal) :=
  fun _ hs _ => ⟨rfl, .error h hs rfl rfl⟩

/-- Steps one after the other abide if each does. -/
theorem abides_bind {next next' : α → Eval β} (h : Abides t d inLoop holds step step')
    (hnext : ∀ a, holds a → Abides t d inLoop holds' (next a) (next' a)) :
    Abides t d inLoop holds' (step >>= next) (step' >>= next') := by
  intro r hs hd
  obtain ⟨hsame, hends⟩ := h r hs hd
  show EStateM.bind step' next' r = EStateM.bind step next r ∧
    Ends t inLoop holds' r (EStateM.bind step next r)
  unfold EStateM.bind
  rw [hsame]
  generalize step r = x at hends
  cases hends with
  | ok ha hs' hoptions hdepth =>
      obtain ⟨hsame', hends'⟩ := hnext _ ha _ hs' (hdepth.trans hd)
      refine ⟨hsame', ?_⟩
      dsimp only
      generalize next _ _ = y at hends'
      cases hends' with
      | ok hb hs'' ho hd' => exact .ok hb hs'' (ho.trans hoptions) (hd'.trans hdepth)
      | error hsignal hs'' ho hd' =>
          exact .error hsignal hs'' (ho.trans hoptions) (hd'.trans hdepth)
  | error hsignal hs' hoptions hdepth => exact ⟨rfl, .error hsignal hs' hoptions hdepth⟩

theorem abides_act {action : Action α} (h : t.Keeps holds action) :
    Abides t d inLoop holds (act action) (act action) := by
  rintro ⟨s, o, d'⟩ hs _
  have haction := h s hs
  refine ⟨rfl, ?_⟩
  unfold act
  dsimp only
  cases hresult : action s with
  | ok a s' =>
      rw [hresult] at haction
      exact .ok haction.1 haction.2 rfl rfl
  | error e s' =>
      rw [hresult] at haction
      exact .error haction.1 haction.2 rfl rfl

/-- An operator fails for ordinary causes only. -/
theorem abides_compute {f : Store → Except EvalError α}
    (h : ∀ s, ∃ relaxed, Arithmetic.Kept holds (f s) relaxed) :
    Abides t d inLoop holds (compute f) (compute f) := by
  intro r hs _
  obtain ⟨relaxed, hkept⟩ := h r.store
  refine ⟨rfl, ?_⟩
  unfold compute
  cases hresult : f r.store with
  | ok a =>
      rw [hresult] at hkept
      exact .ok hkept.1 hs rfl rfl
  | error e =>
      rw [hresult] at hkept
      exact .error (t.ordinary hkept.1) hs rfl rfl

/-- A step that depends on the options in force. -/
theorem abides_options {next next' : Options → Eval α}
    (h : ∀ o, Abides t d inLoop holds (next o) (next' o)) :
    Abides t d inLoop holds (options >>= next) (options >>= next') :=
  fun r hs hd => h r.options r hs hd

/-- The options of the start are in force again after a step under other options. -/
theorem abides_withOptions (inner : Options) (h : Abides t d inLoop holds step step') :
    Abides t d inLoop holds (withOptions inner step) (withOptions inner step') := by
  rintro ⟨s, o, d'⟩ hs hd
  obtain ⟨hsame, hends⟩ := h ⟨s, inner, d'⟩ hs hd
  unfold withOptions
  dsimp only
  rw [hsame]
  refine ⟨rfl, ?_⟩
  generalize step ⟨s, inner, d'⟩ = x at hends
  cases hends with
  | ok ha hs' _ hdepth => exact .ok ha hs' rfl hdepth
  | error hsignal hs' _ hdepth => exact .error hsignal hs' rfl hdepth

theorem abides_unresolved {e : EvalError} (h : t.causes e.cause) :
    Abides t d inLoop t.Holds (unresolved e) (unresolved e) := by
  refine abides_options fun o => ?_
  split
  · exact abides_pure .nil
  · exact abides_throw h

theorem abides_resolve {action : Action Value} (h : t.Keeps t.Holds action) :
    Abides t d inLoop t.Holds (resolve action) (resolve action) := by
  rintro ⟨s, o, d'⟩ hs hd
  have haction := h s hs
  refine ⟨rfl, ?_⟩
  unfold resolve
  dsimp only
  cases hresult : action s with
  | ok a s' =>
      rw [hresult] at haction
      exact .ok haction.1 haction.2 rfl rfl
  | error e s' =>
      rw [hresult] at haction
      have hunresolved : Ends t inLoop t.Holds ⟨s', o, d'⟩ (unresolved e ⟨s', o, d'⟩) :=
        (abides_unresolved haction.1 ⟨s', o, d'⟩ haction.2 hd).2
      dsimp only
      generalize unresolved e _ = x at hunresolved
      cases hunresolved with
      | ok ha hs' ho hd' => exact .ok ha hs' ho hd'
      | error hsignal hs' ho hd' => exact .error hsignal hs' ho hd'

theorem abides_memberOfNil (name : String) :
    Abides t d inLoop t.Holds (memberOfNil name) (memberOfNil name) := by
  refine abides_options fun o => ?_
  split
  · exact abides_pure .nil
  · exact abides_throw (t.ordinary rfl)

theorem abides_callNil :
    Abides t d inLoop t.Holds
      (do if (← options).strict then fail (.notCallable "null") else return .nil)
      (do if (← options).strict then fail (.notCallable "null") else return .nil) := by
  refine abides_options fun o => ?_
  split
  · exact abides_throw (t.ordinary rfl)
  · exact abides_pure .nil

theorem abides_relational (op : BinaryOp) (left right : Value) :
    Abides t d inLoop t.Holds (relational op left right) (relational op left right) := by
  refine abides_options fun o => abides_compute fun s => ?_
  have hcompare := Arithmetic.kept_compare s left right
  cases hresult : Arithmetic.compare s left right with
  | ok order => exact ⟨_, Arithmetic.kept_ok (.bool _)⟩
  | error e =>
      rw [hresult] at hcompare
      dsimp only
      split
      · exact ⟨.error e, hcompare⟩
      · exact ⟨_, Arithmetic.kept_ok (.bool _)⟩

/-! ## Ends that are caught -/

/-- Nothing but a failure leaves the body of a function. -/
theorem abides_atFunctionEnd {body body' : Eval Value}
    (h : Abides t d false t.Holds body body') :
    Abides t d inLoop t.Holds (atFunctionEnd body) (atFunctionEnd body') := by
  intro r hs hd
  obtain ⟨hsame, hends⟩ := h r hs hd
  unfold atFunctionEnd
  rw [hsame]
  refine ⟨rfl, ?_⟩
  generalize body r = x at hends
  cases hends with
  | ok ha hs' ho hd' => exact .ok ha hs' ho hd'
  | @error signal r' hsignal hs' ho hd' =>
      cases signal with
      | returned v => exact .ok hsignal hs' ho hd'
      | error e => exact .error hsignal hs' ho hd'
      | breakLoop => exact .error (t.exits_cause hsignal (.inl rfl) rfl) hs' ho hd'
      | continueLoop => exact .error (t.exits_cause hsignal (.inr rfl) rfl) hs' ho hd'
      | exhausted => exact .error hsignal hs' ho hd'

/-- The body of a loop is left to the loop, or as the loop may be. -/
theorem abides_round {body body' : Eval Value} {last : Value}
    (h : Abides t d true t.Holds body body') (hlast : t.Holds last) :
    Abides t d inLoop (fun outcome : Bool × Value => t.Holds outcome.2) (round body last)
      (round body' last) := by
  intro r hs hd
  obtain ⟨hsame, hends⟩ := h r hs hd
  unfold round
  rw [hsame]
  refine ⟨rfl, ?_⟩
  generalize body r = x at hends
  cases hends with
  | ok ha hs' ho hd' => exact .ok ha hs' ho hd'
  | @error signal r' hsignal hs' ho hd' =>
      cases signal with
      | breakLoop => exact .ok hlast hs' ho hd'
      | continueLoop => exact .ok hlast hs' ho hd'
      | returned v => exact .error hsignal hs' ho hd'
      | error e => exact .error hsignal hs' ho hd'
      | exhausted => exact .error hsignal hs' ho hd'

theorem abides_silently {step step' : Eval Value} (h : Abides t d inLoop t.Holds step step') :
    Abides t d inLoop t.Holds (silently step) (silently step') := by
  intro r hs hd
  obtain ⟨hsame, hends⟩ := h r hs hd
  unfold silently
  rw [hsame]
  refine ⟨rfl, ?_⟩
  generalize step r = x at hends
  cases hends with
  | ok ha hs' ho hd' => exact .ok ha hs' ho hd'
  | @error signal r' hsignal hs' ho hd' =>
      cases signal with
      | error e =>
          dsimp only
          split
          · exact .error hsignal hs' ho hd'
          · exact .ok .nil hs' ho hd'
      | _ => exact .error hsignal hs' ho hd'

/-! ## Depth -/

/-- An end stays permitted when its error is given a place. -/
theorem permits_located {signal : Signal} (span : Span) (h : t.Permits inLoop signal) :
    t.Permits inLoop (signal.located span) := by
  cases signal <;> exact h

/-- **One level deeper and back again.**  The step abides at the depth below, if that
may be entered at all. -/
theorem abides_entering (span : Span)
    (hfull : ∀ limit, d.enter = .error limit → t.causes (.stackOverflow limit))
    (h : ∀ deeper, d.enter = .ok deeper → Abides t deeper inLoop holds step step') :
    Abides t d inLoop holds (entering span step) (entering span step') := by
  rintro ⟨s, o, d'⟩ hs hd
  obtain rfl : d' = d := hd
  unfold entering
  dsimp only
  cases henter : d'.enter with
  | error limit => exact ⟨rfl, .error (hfull limit henter) hs rfl rfl⟩
  | ok deeper =>
      obtain ⟨hsame, hends⟩ := h deeper henter ⟨s, o, deeper⟩ hs rfl
      have hexit : deeper.exit = d' := by
        unfold Depth.enter at henter
        split at henter
        · cases henter
        · cases henter
          rfl
      dsimp only
      rw [hsame]
      refine ⟨rfl, ?_⟩
      generalize step ⟨s, o, deeper⟩ = x at hends
      cases hends with
      | ok ha hs' ho hd' =>
          refine .ok ha hs' ho ?_
          dsimp only at hd' ⊢
          rw [hd', hexit]
      | error hsignal hs' ho hd' =>
          refine .error (permits_located span hsignal) hs' ho ?_
          dsimp only at hd' ⊢
          rw [hd', hexit]

end Eval

namespace Semantics

/-- The same options stay the same when they are made strict. -/
theorem strict_eq_of_eq {o o' : Options} (flag : Bool) (h : o = o') :
    { o with strict := flag } = { o' with strict := flag } := h ▸ rfl

/-- The same options stay the same when they are made safe. -/
theorem safe_eq_of_eq {o o' : Options} (flag : Bool) (h : o = o') :
    { o with safe := flag } = { o' with safe := flag } := h ▸ rfl

/-- **Abiding is a coupling**, at every depth. -/
def abiding {t : Discipline} {rules : Semantics} (he : t.Contains rules.members.embedder)
    (d : Depth) : Coupling t rules rules where
  rel := Eval.Abides t d
  options := Eq
  relaxes := .refl rules
  contains _ := he
  rel_pure := Eval.abides_pure
  rel_bind := Eval.abides_bind
  rel_throw hpermits _ := Eval.abides_throw hpermits
  rel_act _ := Eval.abides_act
  rel_assign _ hctx hvalue := Eval.abides_act (he.keeps_assign _ hctx hvalue)
  rel_compute h hsame := by
    rw [← hsame rfl]
    exact Eval.abides_compute fun s => ⟨_, h s⟩
  rel_resolve _ := Eval.abides_resolve
  rel_unresolved hcause _ := Eval.abides_unresolved hcause
  rel_memberOfNil := Eval.abides_memberOfNil
  rel_callNil := Eval.abides_callNil
  rel_relational := Eval.abides_relational
  rel_options h := Eval.abides_options fun o => h o o rfl
  rel_withOptions ho h := by
    rw [← ho]
    exact Eval.abides_withOptions _ h
  options_lenient := congrArg Options.lenient
  options_strict := strict_eq_of_eq
  options_safe := safe_eq_of_eq
  rel_atFunctionEnd := Eval.abides_atFunctionEnd
  rel_round := Eval.abides_round
  rel_silently _ := Eval.abides_silently

/-- **A whole evaluation abides**, at every depth, where overflows are permitted. -/
theorem couples_evaluate {t : Discipline} {rules : Semantics}
    (he : t.Contains rules.members.embedder)
    (hoverflow : ∀ limit, t.causes (.stackOverflow limit)) (hexhausts : t.exhausts) (n : Nat) :
    ∀ d, (abiding he d).Couples (rules.evaluate n) (rules.evaluate n) := by
  induction n with
  | zero =>
      intro d inLoop tree ctx _ _
      exact Eval.abides_throw hexhausts
  | succ n ih =>
      intro d inLoop tree ctx htree hctx
      exact Eval.abides_entering _ (fun limit _ => hoverflow limit) fun deeper _ =>
        (abiding he deeper).rel_node (.inContext (ih deeper) hctx) (fun _ => rfl) htree

/-- A whole run fails with the error that ends it. -/
theorem eq_of_settle {options : Options} {error e : EvalError}
    (h : settle options error = .failure e) : error = e := by
  unfold settle at h
  split at h
  · cases h
  · split at h
    · cases h
    · cases h
      rfl

/-- A run of a step that abides by a discipline fails for causes of it only. -/
theorem causes_of_runStep {t : Discipline} {options : Options} {step : Eval Value} {s : Store}
    {e : EvalError}
    (hstep : Eval.Abides t (.top options.maxDepth) false t.Holds step step) (hs : t.Closed s)
    (hrun : (runStep options step s).1 = .failure e) : t.causes e.cause := by
  have hends := (hstep ⟨s, options, .top options.maxDepth⟩ hs rfl).2
  unfold runStep at hrun
  generalize step _ = x at hends hrun
  cases hends with
  | ok _ _ _ _ => cases hrun
  | @error signal r hsignal _ _ _ =>
      cases signal with
      | error error => exact eq_of_settle hrun ▸ hsignal
      | breakLoop =>
          simp only [finish, Signal.toError?] at hrun
          cases eq_of_settle hrun
          exact t.exits_cause hsignal (.inl rfl) rfl
      | continueLoop =>
          simp only [finish, Signal.toError?] at hrun
          cases eq_of_settle hrun
          exact t.exits_cause hsignal (.inr rfl) rfl
      | returned v => cases hrun
      | exhausted => cases hrun

end Semantics

end ScriptEngine

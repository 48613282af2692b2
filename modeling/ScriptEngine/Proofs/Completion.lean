import ScriptEngine.Proofs.ErrorPlaces

/-!
# Evaluations that complete

An evaluation completes if it neither uses up the steps granted nor is one inside it
entered at the depth limit.  How deep it began is then of no importance: with as much room
below the limit or more, and as many steps or more, it does the same to the store and ends
in the same way.

* `Semantics.bounded` — an evaluator that is cut short at the depth limit;
* `Semantics.Completes` — evaluations that are not cut short;
* `Eval.Repeats` — a step that does at another depth what another one does, unless that is
  cut short;
* `Semantics.couples_bounded` — what is not cut short does the same with more room.
-/

namespace ScriptEngine

/-- The same state at another depth. -/
def Run.atDepth (r : Run) (d : Depth) : Run := { r with depth := d }

namespace Eval

variable {α β : Type}

/-- The same end at another depth. -/
def endAt (d : Depth) : EStateM.Result Signal Run α → EStateM.Result Signal Run α
  | .ok a r => .ok a (r.atDepth d)
  | .error signal r => .error signal (r.atDepth d)

/-- The end of a step that comes back to the depth `d`, with a result that satisfies `holds`
if it has one. -/
def Returns (d : Depth) (holds : α → Prop) : EStateM.Result Signal Run α → Prop
  | .ok a r => holds a ∧ r.depth = d
  | .error _ r => r.depth = d

/-- **A step that does at the depth `d'` what another one does at `d`**, unless that is cut
short. -/
def Repeats (d d' : Depth) (holds : α → Prop) (step step' : Eval α) : Prop :=
  ∀ r, r.depth = d →
    IsCut (step r) ∨ step' (r.atDepth d') = endAt d' (step r) ∧ Returns d holds (step r)

variable {d d' : Depth} {holds : α → Prop} {holds' : β → Prop} {step step' : Eval α}

/-- An end that is cut short is so at every depth. -/
theorem isCut_endAt {ending : EStateM.Result Signal Run α} :
    IsCut (endAt d ending) ↔ IsCut ending := by
  constructor
  · rintro ⟨r, hr⟩
    cases ending with
    | ok a r' => cases hr
    | error signal r' =>
        cases hr
        exact ⟨r', rfl⟩
  · rintro ⟨r, rfl⟩
    exact ⟨r.atDepth d, rfl⟩

/-- An end at the depth that a step comes back to. -/
theorem endAt_of_returns {ending : EStateM.Result Signal Run α} (h : Returns d holds ending) :
    endAt d ending = ending := by
  cases ending with
  | ok a r =>
      obtain ⟨-, rfl⟩ := h
      rfl
  | error signal r =>
      cases h
      rfl

/-- At the same depth a step that repeats another one is the same as that, unless it is cut
short. -/
theorem Repeats.eq {r : Run} (h : Repeats d d holds step step') (hr : r.depth = d)
    (hcut : ¬IsCut (step r)) : step' r = step r ∧ Returns d holds (step r) := by
  obtain ⟨hsame, hreturns⟩ := (h r hr).resolve_left hcut
  have hhere : r.atDepth d = r := by
    rw [← hr]
    rfl
  rw [hhere, endAt_of_returns hreturns] at hsame
  exact ⟨hsame, hreturns⟩

/-! ## Steps -/

theorem repeats_pure {a : α} (h : holds a) : Repeats d d' holds (pure a) (pure a) :=
  fun _ hr => .inr ⟨rfl, h, hr⟩

theorem repeats_throw (signal : Signal) :
    Repeats d d' holds (throw signal) (throw signal) :=
  fun _ hr => .inr ⟨rfl, hr⟩

/-- Steps one after the other: where the first is cut short the second is not begun. -/
theorem repeats_bind {next next' : α → Eval β} (h : Repeats d d' holds step step')
    (hnext : ∀ a, holds a → Repeats d d' holds' (next a) (next' a)) :
    Repeats d d' holds' (step >>= next) (step' >>= next') := by
  intro r hr
  show IsCut (EStateM.bind step next r) ∨
    EStateM.bind step' next' (r.atDepth d') = endAt d' (EStateM.bind step next r) ∧
      Returns d holds' (EStateM.bind step next r)
  unfold EStateM.bind
  rcases h r hr with ⟨r', hcut⟩ | ⟨hsame, hreturns⟩
  · rw [hcut]
    exact .inl ⟨r', rfl⟩
  · rw [hsame]
    cases hstep : step r with
    | ok a r' =>
        rw [hstep] at hreturns
        exact hnext a hreturns.1 r' hreturns.2
    | error signal r' =>
        rw [hstep] at hreturns
        exact .inr ⟨rfl, hreturns⟩

/-- What is done to the store does not depend on the depth. -/
theorem repeats_act {action : Action α} (hholds : ∀ s a s', action s = .ok a s' → holds a) :
    Repeats d d' holds (act action) (act action) := by
  rintro ⟨s, o, _⟩ rfl
  unfold act Run.atDepth
  dsimp only
  cases hresult : action s with
  | ok a s' => exact .inr ⟨rfl, hholds s a s' hresult, rfl⟩
  | error e s' => exact .inr ⟨rfl, rfl⟩

theorem repeats_compute {f : Store → Except EvalError α}
    (hholds : ∀ s a, f s = .ok a → holds a) :
    Repeats d d' holds (compute f) (compute f) := by
  rintro ⟨s, o, _⟩ rfl
  unfold compute Run.atDepth
  dsimp only
  cases hresult : f s with
  | ok a => exact .inr ⟨rfl, hholds s a hresult, rfl⟩
  | error e => exact .inr ⟨rfl, rfl⟩

theorem repeats_poll (ctx : ContextRef) :
    Repeats d d' (fun _ => True) (poll ctx) (poll ctx) := by
  have hlook : Repeats d d' (fun _ => True) (look ctx.isCancelled) (look ctx.isCancelled) :=
    fun _ hr => .inr ⟨rfl, trivial, hr⟩
  apply repeats_bind hlook
  intro cancelled _
  split
  · exact repeats_throw _
  · exact repeats_pure trivial

theorem repeats_options {next next' : Options → Eval α}
    (h : ∀ o, Repeats d d' holds (next o) (next' o)) :
    Repeats d d' holds (options >>= next) (options >>= next') :=
  fun r hr => h r.options r hr

/-- A step around another one, which looks at nothing of it but its end and not at the
depth, does the same at another depth, and is cut short where the other one is. -/
theorem repeats_around (around : Eval α → Eval β) (enter : Run → Run)
    (h : Repeats d d' holds step step')
    (hends : ∀ (step : Eval α) (r : Run), around step r = around (fun _ => step (enter r)) r)
    (hdepth : ∀ (r : Run) (d : Depth), enter (r.atDepth d) = (enter r).atDepth d)
    (hcut : ∀ r r', IsCut (around (fun _ => .error .exhausted r') r))
    (hsame : ∀ (r : Run) (ending : EStateM.Result Signal Run α),
      around (fun _ => endAt d' ending) (r.atDepth d') = endAt d' (around (fun _ => ending) r))
    (hreturns : ∀ (r : Run) (ending : EStateM.Result Signal Run α), Returns d holds ending →
      Returns d holds' (around (fun _ => ending) r)) :
    Repeats d d' holds' (around step) (around step') := by
  intro r hr
  have henter : (enter r).depth = d := by
    have hkeeps := congrArg Run.depth (hdepth r d)
    rwa [show r.atDepth d = r from hr ▸ rfl] at hkeeps
  rw [hends step r, hends step' (r.atDepth d'), hdepth]
  rcases h (enter r) henter with ⟨r', hshort⟩ | ⟨hstep, hending⟩
  · rw [hshort]
    exact .inl (hcut r r')
  · rw [hstep]
    exact .inr ⟨hsame r _, hreturns r _ hending⟩

theorem repeats_withOptions (inner : Options) (h : Repeats d d' holds step step') :
    Repeats d d' holds (withOptions inner step) (withOptions inner step') := by
  apply repeats_around (withOptions inner) (fun r => { r with options := inner }) h
  · intro step r
    rfl
  · intro r d
    rfl
  · intro r r'
    exact ⟨_, rfl⟩
  · intro r ending
    cases ending <;> rfl
  · intro r ending hending
    cases ending <;> exact hending

theorem repeats_unresolved {holds : Value → Prop} (e : EvalError) (hholds : ∀ v, holds v) :
    Repeats d d' holds (unresolved e) (unresolved e) := by
  apply repeats_options
  intro o
  split
  · exact repeats_pure (hholds _)
  · exact repeats_throw _

theorem repeats_resolve {action : Action Value} {holds : Value → Prop} (hholds : ∀ v, holds v) :
    Repeats d d' holds (resolve action) (resolve action) := by
  rintro ⟨s, o, _⟩ rfl
  unfold resolve Run.atDepth
  dsimp only
  cases action s with
  | ok a s' => exact .inr ⟨rfl, hholds a, rfl⟩
  | error e s' => exact repeats_unresolved e hholds ⟨s', o, _⟩ rfl

theorem repeats_memberOfNil (name : String) {holds : Value → Prop} (hholds : ∀ v, holds v) :
    Repeats d d' holds (memberOfNil name) (memberOfNil name) := by
  apply repeats_options
  intro o
  split
  · exact repeats_pure (hholds _)
  · exact repeats_throw _

theorem repeats_callNil {holds : Value → Prop} (hholds : ∀ v, holds v) :
    Repeats d d' holds
      (do if (← options).strict then fail (.notCallable "null") else return .nil)
      (do if (← options).strict then fail (.notCallable "null") else return .nil) := by
  apply repeats_options
  intro o
  split
  · exact repeats_throw _
  · exact repeats_pure (hholds _)

/-! ## Ends that are caught -/

/-- The end of a function lets a cut through. -/
theorem repeats_atFunctionEnd {body body' : Eval Value} {holds : Value → Prop}
    (h : Repeats d d' holds body body') (hholds : ∀ v, holds v) :
    Repeats d d' holds (atFunctionEnd body) (atFunctionEnd body') := by
  apply repeats_around atFunctionEnd id h
  · intro step r
    rfl
  · intro r d
    rfl
  · intro r r'
    exact ⟨r', rfl⟩
  · intro r ending
    cases ending with
    | ok v r' => rfl
    | error signal r' => cases signal <;> rfl
  · intro r ending hending
    cases ending with
    | ok v r' => exact hending
    | error signal r' =>
        cases signal with
        | returned v => exact ⟨hholds v, hending⟩
        | _ => exact hending

/-- A loop lets a cut of its body through. -/
theorem repeats_round {body body' : Eval Value} {last : Value} {holds : Value → Prop}
    (h : Repeats d d' holds body body') (hholds : ∀ v, holds v) :
    Repeats d d' (fun outcome : Bool × Value => holds outcome.2) (round body last)
      (round body' last) := by
  apply repeats_around (round · last) id h
  · intro step r
    rfl
  · intro r d
    rfl
  · intro r r'
    exact ⟨r', rfl⟩
  · intro r ending
    cases ending with
    | ok v r' => rfl
    | error signal r' => cases signal <;> rfl
  · intro r ending hending
    cases ending with
    | ok v r' => exact hending
    | error signal r' =>
        cases signal with
        | breakLoop => exact ⟨hholds last, hending⟩
        | continueLoop => exact ⟨hholds last, hending⟩
        | _ => exact hending

/-- Silence covers errors only. -/
theorem repeats_silently {step step' : Eval Value} {holds : Value → Prop}
    (h : Repeats d d' holds step step') (hholds : ∀ v, holds v) :
    Repeats d d' holds (silently step) (silently step') := by
  apply repeats_around silently id h
  · intro step r
    rfl
  · intro r d
    rfl
  · intro r r'
    exact ⟨r', rfl⟩
  · intro r ending
    cases ending with
    | ok v r' => rfl
    | error signal r' =>
        cases signal with
        | error e =>
            unfold silently endAt
            dsimp only
            split <;> rfl
        | _ => rfl
  · intro r ending hending
    cases ending with
    | ok v r' => exact hending
    | error signal r' =>
        cases signal with
        | error e =>
            unfold silently
            dsimp only
            split
            · exact hending
            · exact ⟨hholds _, hending⟩
        | _ => exact hending

/-- Where both depths leave room, one level deeper is one level deeper on both sides. -/
theorem repeats_entering (span : Span) (hroom : d.depth < d.limit) (hroom' : d'.depth < d'.limit)
    (h : Repeats ⟨d.depth + 1, d.limit⟩ ⟨d'.depth + 1, d'.limit⟩ holds step step') :
    Repeats d d' holds (entering span step) (entering span step') := by
  rintro ⟨s, o, _⟩ rfl
  have henter : ∀ d : Depth, d.depth < d.limit → d.enter = .ok ⟨d.depth + 1, d.limit⟩ :=
    fun d hd => if_neg (Nat.not_le_of_lt hd)
  unfold entering Run.atDepth
  dsimp only
  rw [henter _ hroom, henter _ hroom']
  dsimp only
  rcases h ⟨s, o, _⟩ rfl with ⟨r', hcut⟩ | ⟨hsame, hreturns⟩
  · rw [hcut]
    exact .inl ⟨_, rfl⟩
  · have hsame' : step' ⟨s, o, _⟩ = _ := hsame
    rw [hsame']
    refine .inr ?_
    generalize step ⟨s, o, _⟩ = ending at hreturns
    cases ending with
    | ok a r' =>
        obtain ⟨ha, hdepth⟩ := hreturns
        exact ⟨rfl, ha, congrArg Depth.exit hdepth⟩
    | error signal r' => exact ⟨rfl, congrArg Depth.exit hreturns⟩

end Eval

namespace Semantics

open Eval

variable {rules : Semantics} {d d' : Depth} {ev ev' : Evaluator} {ctx : ContextRef}

/-- **Doing the same at another depth is a coupling.** -/
def repeating (rules : Semantics) (d d' : Depth) : Coupling .free rules rules where
  rel _ := Repeats d d'
  options := Eq
  relaxes := .refl rules
  contains := rules.contains_free
  rel_pure := repeats_pure
  rel_bind := repeats_bind
  rel_throw _ _ := repeats_throw _
  rel_act _ hkeeps := repeats_act fun s a s' hresult => by
    have haction := hkeeps s (Discipline.closed_lax s)
    rw [hresult] at haction
    exact haction.1
  rel_assign _ _ _ := repeats_act fun _ _ _ _ => trivial
  rel_compute h hsame := by
    rw [← hsame rfl]
    refine repeats_compute fun s a hresult => ?_
    have hkept := h s
    rw [hresult] at hkept
    exact hkept.1
  rel_resolve _ _ := repeats_resolve Discipline.holds_lax
  rel_unresolved _ _ := repeats_unresolved _ Discipline.holds_lax
  rel_memberOfNil name := repeats_memberOfNil name Discipline.holds_lax
  rel_callNil := repeats_callNil Discipline.holds_lax
  rel_relational _ _ _ := repeats_options fun _ =>
    repeats_compute fun _ v _ => Discipline.holds_lax v
  rel_options h := repeats_options fun o => h o o rfl
  rel_withOptions ho h := by
    rw [← ho]
    exact repeats_withOptions _ h
  options_lenient := congrArg Options.lenient
  options_strict := strict_eq_of_eq
  options_safe := safe_eq_of_eq
  rel_atFunctionEnd h := repeats_atFunctionEnd h Discipline.holds_lax
  rel_round h _ := repeats_round h Discipline.holds_lax
  rel_silently _ h := repeats_silently h Discipline.holds_lax

/-! ## More rounds -/

/-- A loop that ends within the rounds granted does not need more of them. -/
theorem repeats_rounds {before before' after after' : Eval Bool} {body body' : Eval Value}
    (hbefore : Repeats d d' (fun _ => True) before before')
    (hbody : Repeats d d' Discipline.free.Holds body body')
    (hafter : Repeats d d' (fun _ => True) after after') {fuel fuel' : Nat}
    (hfuel : fuel ≤ fuel') (last : Value) :
    Repeats d d' Discipline.free.Holds (rounds ctx before body after fuel last)
      (rounds ctx before' body' after' fuel' last) := by
  induction fuel generalizing fuel' last with
  | zero => exact fun r _ => .inl ⟨r, rfl⟩
  | succ fuel ih =>
      obtain ⟨fuel', rfl⟩ : ∃ k, fuel' = k + 1 := ⟨fuel' - 1, by omega⟩
      refine repeats_bind (repeats_poll ctx) fun _ _ => ?_
      refine repeats_bind hbefore fun goesOn _ => ?_
      split
      · refine repeats_bind (repeats_round hbody Discipline.holds_lax) fun (goesOn, last) _ => ?_
        dsimp only
        split
        · refine repeats_bind hafter fun again _ => ?_
          split
          · exact ih (Nat.le_of_succ_le_succ hfuel) last
          · exact repeats_pure (Discipline.holds_lax last)
        · exact repeats_pure (Discipline.holds_lax last)
      · exact repeats_pure (Discipline.holds_lax last)

/-- Only open-ended loops look at the number of rounds granted. -/
theorem node_fuel {tree : Node} (h : tree.isOpenEnded = false) (fuel fuel' : Nat) :
    node rules fuel ev tree ctx = node rules fuel' ev tree ctx := by
  cases tree <;> first | rfl | cases h

/-- A node does the same at another depth, and with more rounds granted to its loops, if its
parts do. -/
theorem repeats_node (hev : (repeating rules d d').Couples ev ev') {fuel fuel' : Nat}
    (hfuel : fuel ≤ fuel') (tree : Node) (ctx : ContextRef) :
    Repeats d d' Discipline.free.Holds (node rules fuel ev tree ctx)
      (node rules fuel' ev' tree ctx) := by
  let c := repeating rules d d'
  have hat : c.CouplesAt ev ev' ctx := .inContext hev trivial
  have hpart (part : Node) : c.rel true Discipline.free.Holds (ev part ctx) (ev' part ctx) :=
    hat.part part trivial
  have hoptional (part : Option Node) :
      c.rel true Discipline.free.Holds (optional ev part ctx) (optional ev' part ctx) :=
    c.rel_optional hat fun _ _ => trivial
  have hcondition (part : Option Node) :
      c.rel true (fun _ => True) (condition ev part ctx) (condition ev' part ctx) :=
    c.rel_condition hat fun _ _ => trivial
  have hyes : Repeats d d' (fun _ => True) (pure true) (pure true) := repeats_pure trivial
  cases hopen : tree.isOpenEnded with
  | false =>
      rw [node_fuel hopen fuel' fuel]
      exact c.rel_node hat (fun _ => rfl) (Discipline.code_free tree)
  | true =>
      cases tree with
      | forLoop span init cond step body =>
          refine repeats_bind (hoptional init) fun _ _ => ?_
          have hafter : Repeats d d' (fun _ => True)
              (do let _ ← optional ev step ctx; return true)
              (do let _ ← optional ev' step ctx; return true) :=
            repeats_bind (hoptional step) fun _ _ => hyes
          exact repeats_rounds (hcondition cond) (hpart body) hafter hfuel .nil
      | whileLoop span cond body =>
          exact repeats_rounds (hcondition (some cond)) (hpart body) hyes hfuel .nil
      | doWhile span body cond =>
          exact repeats_rounds hyes (hpart body) (hcondition (some cond)) hfuel .nil
      | _ => cases hopen

/-! ## Completion -/

/-- The evaluator that is cut short. -/
def cutShort : Evaluator := fun _ _ => throw .exhausted

/-- The evaluator that goes at most `n` nodes deep, and is cut short where an evaluation
inside it is entered at the depth limit. -/
def bounded (rules : Semantics) (n : Nat) : Evaluator := rules.guarded cutShort cutShort n

/-- **An evaluation that completes**: it ends within the steps granted, and none inside it is
entered at the depth limit. -/
def Completes (rules : Semantics) (n : Nat) (tree : Node) (ctx : ContextRef) (r : Run) : Prop :=
  ¬IsCut (rules.bounded n tree ctx r)

/-- There is no completing where no room is left. -/
theorem bounded_full {n : Nat} {tree : Node} {r : Run} (h : r.depth.limit ≤ r.depth.depth) :
    IsCut (rules.bounded (n + 1) tree ctx r) := by
  refine ⟨r, ?_⟩
  rw [bounded]
  rcases Nat.lt_or_eq_of_le h with hlt | heq
  · exact guarded_of_gt _ _ _ _ _ _ hlt
  · exact guarded_of_eq _ _ _ _ _ _ heq.symm

/-- **Room is all that matters.**  As long as it is not cut short, an evaluation does the same
with as many steps or more, at a depth that leaves as much room or more, whatever evaluations
that are entered at the limit would be answered with. -/
theorem couples_bounded (full beyond : Evaluator) {n n' : Nat} (hn : n ≤ n') :
    ∀ {d d' : Depth}, d.limit + d'.depth ≤ d'.limit + d.depth →
      (repeating rules d d').Couples (rules.bounded n) (rules.guarded full beyond n') := by
  induction n generalizing n' with
  | zero => exact fun _ _ tree ctx _ _ r _ => .inl ⟨r, rfl⟩
  | succ n ih =>
      intro d d' hroom inLoop tree ctx _ _ r hr
      obtain ⟨n', rfl⟩ : ∃ k, n' = k + 1 := ⟨n' - 1, by omega⟩
      by_cases hd : d.depth < d.limit
      · have hd' : d'.depth < d'.limit := by omega
        have hparts : (repeating rules ⟨d.depth + 1, d.limit⟩ ⟨d'.depth + 1, d'.limit⟩).Couples
            (rules.bounded n) (rules.guarded full beyond n') :=
          ih (Nat.le_of_succ_le_succ hn) (by dsimp only; omega)
        have hnode := repeats_entering tree.span hd hd'
          (repeats_node hparts (Nat.le_of_succ_le_succ hn) tree ctx) r hr
        rw [bounded, guarded_of_lt _ _ _ _ _ _ (hr ▸ hd),
          guarded_of_lt rules full beyond n' tree ctx (r := r.atDepth d') hd']
        exact hnode
      · exact .inl (bounded_full (hr ▸ Nat.not_lt.mp hd))

/-- Evaluations do the same as those that are cut short at the limit. -/
theorem couples_bounded_evaluate (n : Nat) (d : Depth) :
    (repeating rules d d).Couples (rules.bounded n) (rules.evaluate n) := by
  rw [← guarded_overflow]
  exact couples_bounded _ _ (Nat.le_refl n) (Nat.le_refl _)

namespace Completes

variable {n n' : Nat} {tree : Node} {r : Run}

/-- What completes is not concerned with the limit. -/
theorem evaluate_eq (h : rules.Completes n tree ctx r) :
    rules.evaluate n tree ctx r = rules.bounded n tree ctx r := by
  have hsame : (repeating rules r.depth r.depth).rel false Discipline.free.Holds
      (rules.bounded n tree ctx) (rules.evaluate n tree ctx) :=
    couples_bounded_evaluate n r.depth tree ctx trivial trivial
  exact (hsame.eq rfl h).1

/-- There is room for what completes, and a step left for it. -/
theorem room (h : rules.Completes n tree ctx r) :
    r.depth.depth < r.depth.limit ∧ ∃ k, n = k + 1 := by
  cases n with
  | zero => exact absurd ⟨r, rfl⟩ h
  | succ k =>
      refine ⟨?_, k, rfl⟩
      by_contra hfull
      exact h (bounded_full (Nat.not_lt.mp hfull))

end Completes

end Semantics

end ScriptEngine

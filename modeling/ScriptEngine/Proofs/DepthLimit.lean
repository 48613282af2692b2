import ScriptEngine.Proofs.Abiding

/-!
# The depth limit

An evaluation leaves the options and the depth as it found them.  Evaluations
inside one another are counted, and the one that would exceed the limit fails at
once.  Nothing else is a stack overflow, except for what the embedder's own code
fails with.

The evaluations that are entered are told apart by their answers.  In
`Semantics.guarded full beyond` the evaluations that are entered at the limit are
answered by `full`, and those entered beyond it by `beyond`.

* `Discipline.lax` — everything is allowed, except to fail for some causes;
* `Semantics.guarded` — an evaluator that looks at the depth first;
* `Semantics.evaluate_restores_within_limit` — options, depth and limit of every
  evaluation.
-/

namespace ScriptEngine

namespace Discipline

/-- The discipline that allows everything except to fail for some causes, which have
to be stack overflows. -/
def lax (causes : EvalError.Cause → Prop)
    (hcauses : ∀ cause, (∀ limit, cause ≠ .stackOverflow limit) → causes cause) : Discipline where
  arrays _ := True
  maps _ := True
  hosts _ := True
  contexts _ := True
  functions _ := True
  causes := causes
  ordinary h := hcauses _ fun limit heq => by rw [heq] at h; cases h
  code _ _ := True
  exits _ := True
  code_place _ _ := trivial
  code_body _ := trivial
  functions_lambda _ := trivial
  code_break _ := trivial
  code_continue _ := trivial
  exits_cause _ hsignal he := by
    refine hcauses _ fun limit heq => ?_
    rcases hsignal with rfl | rfl <;> cases he <;> cases heq
  code_target _ := .inr (hcauses _ (by simp))
  cancelled := hcauses _ (by simp)

variable {causes : EvalError.Cause → Prop}
  {hcauses : ∀ cause, (∀ limit, cause ≠ .stackOverflow limit) → causes cause}

/-- Every value belongs to where everything is allowed. -/
theorem holds_lax : ∀ v : Value, (lax causes hcauses).Holds v
  | .nil => .nil
  | .bool b => .bool b
  | .number n => .number n
  | .text x => .text x
  | .array _ => .array trivial
  | .map _ => .map trivial
  | .object _ => .object trivial
  | .function closure =>
      .function trivial (fun v hv => by
        have hsmaller : sizeOf v < sizeOf closure.bound := List.sizeOf_lt_of_mem hv
        exact holds_lax v) fun _ _ => trivial
termination_by v => v
decreasing_by
  cases closure
  simp only [Value.function.sizeOf_spec, Closure.mk.sizeOf_spec] at *
  omega

theorem closed_lax (s : Store) : (lax causes hcauses).Closed s where
  items _ v _ := holds_lax v
  entries _ v _ := holds_lax v
  fields _ v _ := holds_lax v
  values _ v _ := holds_lax v
  links _ _ _ := trivial
  freshArray _ _ := trivial
  freshMap _ _ := trivial
  freshHost _ _ := trivial
  freshContext _ _ := trivial

/-- Every embedder stays where everything is allowed, if its failures are. -/
theorem contains_lax {e : Embedder} (he : ∀ cause, e.Raises cause → causes cause) :
    (lax causes hcauses).Contains e where
  assign {ref name value} _ _ s _ := by
    cases hresult : e.assign ref name value s with
    | ok result s' => exact ⟨trivial, closed_lax s'⟩
    | error fault s' => exact ⟨he _ (.assign hresult rfl), closed_lax s'⟩
  invoke {ref index args} _ _ s _ := by
    cases hresult : e.invoke ref index args s with
    | ok result s' => exact ⟨holds_lax result, closed_lax s'⟩
    | error fault s' => exact ⟨he _ (.invoke hresult rfl), closed_lax s'⟩
  construct {name make args} hfind _ s _ := by
    cases hresult : make args s with
    | ok result s' => exact ⟨holds_lax result, closed_lax s'⟩
    | error fault s' => exact ⟨he _ (.construct hfind hresult rfl), closed_lax s'⟩

end Discipline

/-- The state that a step leaves behind. -/
def Eval.after {α : Type} (step : Eval α) (r : Run) : Run :=
  match step r with
  | .ok _ r' | .error _ r' => r'

/-- **Steps that restore what they found**: the options and the depth are the same
afterwards, whatever the end is. -/
def Eval.Restores {α : Type} (step : Eval α) (r : Run) : Prop :=
  (step.after r).options = r.options ∧ (step.after r).depth = r.depth

/-- A step that ends with a stack overflow. -/
def Eval.Overflows {α : Type} (step : Eval α) (r : Run) : Prop :=
  ∃ e r' limit, step r = .error (.error e) r' ∧ e.cause = .stackOverflow limit

namespace Semantics

variable (rules : Semantics)

/-- The answer of an evaluation that may not go deeper: a stack overflow, with the
limit and the place of the node, and nothing else has happened. -/
def overflow : Evaluator := fun tree _ r =>
  .error (.error ⟨.stackOverflow r.depth.limit, some tree.span⟩) r

/-- The evaluator that goes at most `n` nodes deep, but leaves the evaluations that
are entered at the depth limit to `full`, and those entered beyond it to
`beyond`. -/
def guarded (full beyond : Evaluator) : (n : Nat) → Evaluator
  | 0, _, _ => throw .exhausted
  | n + 1, tree, ctx => fun r =>
    if r.depth.depth < r.depth.limit then
      Eval.entering tree.span (Eval.node rules n (guarded full beyond n) tree ctx) r
    else if r.depth.depth = r.depth.limit then full tree ctx r
    else beyond tree ctx r

/-- An evaluation fails with an overflow where it may not go deeper. -/
theorem evaluate_full (n : Nat) (tree : Node) (ctx : ContextRef) {r : Run}
    (h : r.depth.limit ≤ r.depth.depth) :
    rules.evaluate (n + 1) tree ctx r = overflow tree ctx r := by
  obtain ⟨s, o, d⟩ := r
  have henter : d.enter = .error d.limit := if_pos h
  show Eval.entering tree.span _ _ = _
  unfold Eval.entering
  dsimp only
  rw [henter]
  rfl

section Guarded

variable (full beyond : Evaluator) (n : Nat) (tree : Node) (ctx : ContextRef) {r : Run}

theorem guarded_of_lt (h : r.depth.depth < r.depth.limit) :
    rules.guarded full beyond (n + 1) tree ctx r =
      Eval.entering tree.span (Eval.node rules n (rules.guarded full beyond n) tree ctx) r :=
  if_pos h

theorem guarded_of_eq (h : r.depth.depth = r.depth.limit) :
    rules.guarded full beyond (n + 1) tree ctx r = full tree ctx r :=
  (if_neg (Nat.not_lt_of_le (Nat.le_of_eq h.symm))).trans (if_pos h)

theorem guarded_of_gt (h : r.depth.limit < r.depth.depth) :
    rules.guarded full beyond (n + 1) tree ctx r = beyond tree ctx r :=
  (if_neg (Nat.not_lt_of_gt h)).trans (if_neg (Nat.ne_of_gt h))

end Guarded

/-- Overflows are what evaluations that may not go deeper are answered with. -/
theorem guarded_overflow (n : Nat) : rules.guarded overflow overflow n = rules.evaluate n := by
  induction n with
  | zero => rfl
  | succ n ih =>
      funext tree ctx r
      rcases Nat.lt_trichotomy r.depth.depth r.depth.limit with h | h | h
      · rw [guarded_of_lt rules _ _ n tree ctx h, ih]
        rfl
      · rw [guarded_of_eq rules _ _ n tree ctx h,
          evaluate_full rules n tree ctx (Nat.le_of_eq h.symm)]
      · rw [guarded_of_gt rules _ _ n tree ctx h, evaluate_full rules n tree ctx (Nat.le_of_lt h)]

variable {rules} {t : Discipline} {full beyond beyond' : Evaluator} {limit : Nat}

/-- **Evaluations that begin within the limit stay within it.**  What would be answered
beyond the limit makes no difference, and if the answers at the limit abide by a
discipline, so does the whole evaluation. -/
theorem couples_guarded (he : t.Contains rules.members.embedder) (hexhausts : t.exhausts)
    (hfull : (abiding he ⟨limit, limit⟩).Couples full full) (n : Nat) :
    ∀ {depth : Nat}, depth ≤ limit → (abiding he ⟨depth, limit⟩).Couples
      (rules.guarded full beyond n) (rules.guarded full beyond' n) := by
  induction n with
  | zero =>
      intro depth _ inLoop tree ctx _ _
      exact Eval.abides_throw hexhausts
  | succ n ih =>
      intro depth hdepth inLoop tree ctx htree hctx
      by_cases hroom : depth < limit
      · -- one level deeper is still within the limit
        have hnode : Eval.Abides t ⟨depth, limit⟩ inLoop t.Holds
            (Eval.entering tree.span (Eval.node rules n (rules.guarded full beyond n) tree ctx))
            (Eval.entering tree.span
              (Eval.node rules n (rules.guarded full beyond' n) tree ctx)) := by
          have henter : Depth.enter ⟨depth, limit⟩ = .ok ⟨depth + 1, limit⟩ :=
            if_neg (Nat.not_le_of_lt hroom)
          refine Eval.abides_entering _ (fun other h => ?_) fun deeper h => ?_
          · rw [henter] at h
            cases h
          · rw [henter] at h
            cases h
            exact (abiding he _).rel_node (.inContext (ih hroom) hctx) (fun _ => rfl) htree
        intro r hs hd
        have hroom' : r.depth.depth < r.depth.limit := by rw [hd]; exact hroom
        rw [guarded_of_lt _ _ _ _ _ _ hroom', guarded_of_lt _ _ _ _ _ _ hroom']
        exact hnode r hs hd
      · obtain rfl : depth = limit := by omega
        intro r hs hd
        have hfull' : r.depth.depth = r.depth.limit := by rw [hd]
        rw [guarded_of_eq _ _ _ _ _ _ hfull', guarded_of_eq _ _ _ _ _ _ hfull']
        exact hfull tree ctx htree hctx r hs hd

/-- A step that abides by a discipline restores what it found. -/
theorem restores_of_ends {α : Type} {holds : α → Prop} {inLoop : Bool} {step : Eval α} {r : Run}
    (h : Eval.Ends t inLoop holds r (step r)) : step.Restores r := by
  unfold Eval.Restores Eval.after
  generalize step r = x at h
  cases h with
  | ok _ _ hoptions hdepth => exact ⟨hoptions, hdepth⟩
  | error _ _ hoptions hdepth => exact ⟨hoptions, hdepth⟩

/-- Answers that restore what they find abide where everything is allowed, if all of
their failures are. -/
theorem abides_lax {causes : EvalError.Cause → Prop}
    {hcauses : ∀ cause, (∀ limit, cause ≠ .stackOverflow limit) → causes cause} {d : Depth}
    {inLoop : Bool} {step : Eval Value}
    (h : ∀ r, r.depth = d → step.Restores r ∧
      ∀ e r', step r = .error (.error e) r' → causes e.cause) :
    Eval.Abides (Discipline.lax causes hcauses) d inLoop (Discipline.lax causes hcauses).Holds
      step step := by
  intro r _ hd
  obtain ⟨⟨hoptions, hdepth⟩, herror⟩ := h r hd
  refine ⟨rfl, ?_⟩
  unfold Eval.after at hoptions hdepth
  cases hresult : step r with
  | ok v r' =>
      rw [hresult] at hoptions hdepth
      exact .ok (Discipline.holds_lax v) (Discipline.closed_lax _) hoptions hdepth
  | error signal r' =>
      rw [hresult] at hoptions hdepth
      refine .error ?_ (Discipline.closed_lax _) hoptions hdepth
      cases signal with
      | error e => exact herror e r' hresult
      | returned v => exact Discipline.holds_lax v
      | _ => trivial

/-- An evaluation within the limit, where everything is allowed except to fail for
some causes. -/
theorem ends_guarded (full beyond beyond' : Evaluator) (causes : EvalError.Cause → Prop)
    (hcauses : ∀ cause, (∀ limit, cause ≠ .stackOverflow limit) → causes cause)
    (he : ∀ cause, rules.members.embedder.Raises cause → causes cause) {r : Run}
    (hfull : ∀ tree ctx (r' : Run), r'.depth.limit = r.depth.limit →
      (full tree ctx).Restores r' ∧
        ∀ e r'', full tree ctx r' = .error (.error e) r'' → causes e.cause)
    (n : Nat) (tree : Node) (ctx : ContextRef) (h : r.depth.depth ≤ r.depth.limit) :
    rules.guarded full beyond' n tree ctx r = rules.guarded full beyond n tree ctx r ∧
      Eval.Ends (Discipline.lax causes hcauses) false (Discipline.lax causes hcauses).Holds r
        (rules.guarded full beyond n tree ctx r) :=
  couples_guarded (Discipline.contains_lax he) trivial
    (fun tree ctx _ _ => abides_lax fun r' hr' => hfull tree ctx r' (by rw [hr'])) n h
    tree ctx trivial trivial r (Discipline.closed_lax _) rfl

/-- An evaluation that may not go deeper fails, and restores what it found. -/
theorem restores_overflow (tree : Node) (ctx : ContextRef) (r : Run) :
    (overflow tree ctx).Restores r :=
  ⟨rfl, rfl⟩

/-- An evaluation within the limit is not concerned with what would be answered beyond
it, restores what it found, and overflows with this limit. -/
theorem evaluate_ends (beyond : Evaluator) (n : Nat) (tree : Node) (ctx : ContextRef) {r : Run}
    (h : r.depth.depth ≤ r.depth.limit) :
    rules.guarded overflow beyond n tree ctx r = rules.evaluate n tree ctx r ∧
      (rules.evaluate n tree ctx).Restores r ∧
      ∀ e r' limit, rules.evaluate n tree ctx r = .error (.error e) r' →
        e.cause = .stackOverflow limit →
        limit = r.depth.limit ∨ rules.members.embedder.Raises (.stackOverflow limit) := by
  have hends := ends_guarded overflow overflow beyond
    (fun cause => (∀ limit, cause = .stackOverflow limit → limit = r.depth.limit) ∨
      rules.members.embedder.Raises cause)
    (fun cause hother => .inl fun limit hcause => absurd hcause (hother limit))
    (fun cause => .inr)
    (fun tree ctx r' hlimit => ⟨restores_overflow tree ctx r', fun e r'' hresult => by
      cases hresult
      exact .inl fun limit hcause => by cases hcause; exact hlimit⟩)
    n tree ctx h
  rw [guarded_overflow] at hends
  refine ⟨hends.1, restores_of_ends hends.2, fun e r' limit hresult hcause => ?_⟩
  have hpermits := hends.2
  rw [hresult] at hpermits
  cases hpermits with
  | error hpermits _ _ _ =>
      refine hpermits.imp (fun hthis => hthis limit hcause) fun hraises => ?_
      rwa [hcause] at hraises

/-- If the evaluations at the limit are answered without an overflow, there is none. -/
theorem guarded_not_overflows
    (hfull : ∀ tree ctx r, (full tree ctx).Restores r ∧ ¬(full tree ctx).Overflows r)
    {n : Nat} {tree : Node} {ctx : ContextRef} {r : Run} (h : r.depth.depth ≤ r.depth.limit)
    (hoverflows : (rules.guarded full beyond n tree ctx).Overflows r) :
    ∃ limit, rules.members.embedder.Raises (.stackOverflow limit) := by
  obtain ⟨e, r', limit, hresult, hcause⟩ := hoverflows
  have hends := (ends_guarded full beyond beyond
    (fun cause => (∀ limit, cause ≠ .stackOverflow limit) ∨
      rules.members.embedder.Raises cause)
    (fun cause => .inl) (fun cause => .inr)
    (fun tree ctx r' _ => ⟨(hfull tree ctx r').1, fun e r'' hresult => .inl fun limit hcause =>
      (hfull tree ctx r').2 ⟨e, r'', limit, hresult, hcause⟩⟩)
    n tree ctx h).2
  rw [hresult] at hends
  cases hends with
  | error hpermits _ _ _ =>
      rcases hpermits with hother | hraises
      · exact absurd hcause (hother limit)
      · exact ⟨limit, hcause ▸ hraises⟩

/-- **Evaluation restores its own state and respects the depth limit.**  Whatever the
end of an evaluation is, the options and the depth are those of its start, if it
starts within the limit.  What would be answered beyond the limit never matters, so
no evaluation inside it is entered there.  Those that are entered at the limit fail
with a stack overflow of this limit, and were they answered without one, by an
evaluator that restores what it finds, there would be none, except for what the
embedder's own code fails with. -/
theorem evaluate_restores_within_limit (rules : Semantics) (n : Nat) (tree : Node)
    (ctx : ContextRef) (r : Run) (h : r.depth.depth ≤ r.depth.limit) :
    (rules.evaluate n tree ctx).Restores r ∧
    (∀ beyond, rules.guarded overflow beyond n tree ctx r = rules.evaluate n tree ctx r) ∧
    (r.depth.depth = r.depth.limit →
      rules.evaluate (n + 1) tree ctx r = overflow tree ctx r) ∧
    (∀ full beyond : Evaluator,
      (∀ tree ctx r, (full tree ctx).Restores r ∧ ¬(full tree ctx).Overflows r) →
      (rules.guarded full beyond n tree ctx).Overflows r →
      ∃ limit, rules.members.embedder.Raises (.stackOverflow limit)) ∧
    ∀ e r' limit, rules.evaluate n tree ctx r = .error (.error e) r' →
      e.cause = .stackOverflow limit →
      limit = r.depth.limit ∨ rules.members.embedder.Raises (.stackOverflow limit) := by
  obtain ⟨-, hrestores, hlimit⟩ := evaluate_ends overflow n tree ctx h
  refine ⟨hrestores, fun beyond => (evaluate_ends beyond n tree ctx h).1, fun hfull => ?_,
    fun full beyond hfull => guarded_not_overflows hfull h, hlimit⟩
  exact evaluate_full rules n tree ctx (Nat.le_of_eq hfull.symm)

/-- With room for one evaluation, the operand of a negation is one too many, and
options and depth are as they were. -/
theorem evaluate_restores_negation :
    let step := (⟨⟨true⟩, ⟨none, .none⟩⟩ : Semantics).evaluate 2
      (.unary default .not (.literal default (.bool true))) ⟨0⟩
    let start : Run := ⟨.empty, .standard, ⟨0, 1⟩⟩
    step.Restores start ∧ step.Overflows start := by
  intro step start
  have hwithin : start.depth.depth ≤ start.depth.limit := by decide
  exact ⟨(evaluate_restores_within_limit _ 2 _ _ start hwithin).1, _, _, 1, rfl, rfl⟩

end Semantics

end ScriptEngine

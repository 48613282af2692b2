import ScriptEngine.Proofs.Completion
import ScriptEngine.Proofs.Sandbox

/-!
# Steps before and after their target

`++t` reads `t`, adds one, stores the sum and yields it; `t++` does the same and yields what
it has read.  Both evaluate the parts of `t` twice, once to read and once to store, but not at
the same depth: the operation of the first form is an evaluation of its own, and that of the
second one is not.

* `Eval.operands` — what both forms begin with;
* `Semantics.Completes.update` — what both forms do, and how they end;
* `Semantics.Completes.update_before` — the room that the first form needs where the second one
  completes.
-/

namespace ScriptEngine

/-- The tree of an operation whose result goes to its own left operand, as in `t += a`.  A
postfix one, as in `t++`, yields what the target had before. -/
abbrev Node.update (span inner : Span) (op : BinaryOp) (target amount : Node)
    (isPostfix : Bool) : Node :=
  .assign span target (.binary inner op target amount) isPostfix

/-- A signal without the place of its error. -/
def Signal.unplaced : Signal → Signal
  | .error e => .error (.ofCause e.cause)
  | signal => signal

/-- A place is all that is found on the way up. -/
@[simp]
theorem Signal.unplaced_located (signal : Signal) (span : Span) :
    (signal.located span).unplaced = signal.unplaced := by
  cases signal <;> rfl

/-- The state one level deeper. -/
def Run.deeper (r : Run) : Run := r.atDepth ⟨r.depth.depth + 1, r.depth.limit⟩

/-- The state with room for one more level. -/
def Run.wider (r : Run) : Run := r.atDepth ⟨r.depth.depth, r.depth.limit + 1⟩

namespace Eval

variable {α β : Type} (rules : Semantics) (ev : Evaluator)

/-- What an operation on a target begins with: the value that the target has, and the one that
it is to have. -/
def operands (op : BinaryOp) (target amount : Node) (ctx : ContextRef) :
    Eval (Value × Value) := do
  let old ← ev target ctx
  let change ← ev amount ctx
  let new ← binary rules op old change
  return (old, new)

/-- The end of a step one level deeper, for the node at a place. -/
def resurface (span : Span) : EStateM.Result Signal Run α → EStateM.Result Signal Run α
  | .ok a r => .ok a (r.atDepth r.depth.exit)
  | .error signal r => .error (signal.located span) (r.atDepth r.depth.exit)

variable {rules ev} {op : BinaryOp} {target amount : Node} {ctx : ContextRef} {r : Run}

/-- Where there is room, a step is done one level deeper. -/
theorem entering_of_room (span : Span) (step : Eval α) (h : r.depth.depth < r.depth.limit) :
    entering span step r = resurface span (step r.deeper) := by
  obtain ⟨s, o, d⟩ := r
  have henter : d.enter = .ok ⟨d.depth + 1, d.limit⟩ := if_neg (Nat.not_le_of_lt h)
  unfold entering Run.deeper Run.atDepth
  dsimp only
  rw [henter]
  dsimp only
  cases step ⟨s, o, _⟩ <;> rfl

/-- A cut comes from below. -/
theorem isCut_resurface_iff {span : Span} {ending : EStateM.Result Signal Run α} :
    IsCut (resurface span ending) ↔ IsCut ending := by
  constructor
  · rintro ⟨r', hcut⟩
    cases ending with
    | ok a r => cases hcut
    | error signal r =>
        cases signal with
        | exhausted => exact ⟨r, rfl⟩
        | _ => cases hcut
  · rintro ⟨r', rfl⟩
    exact ⟨_, rfl⟩

/-- A step whose first part is cut short is cut short. -/
theorem isCut_bind {step : Eval α} (next : α → Eval β) (h : IsCut (step r)) :
    IsCut ((step >>= next) r) := by
  obtain ⟨r', hcut⟩ := h
  refine ⟨r', ?_⟩
  show EStateM.bind step next r = _
  rw [EStateM.bind, hcut]

/-- Only the first part of a step that yields what is known already may be cut short. -/
theorem isCut_discard {step : Eval α} {b : β} :
    IsCut ((do let _ ← step; return b) r) ↔ IsCut (step r) := by
  constructor
  · rintro ⟨r', hcut⟩
    cases hstep : step r with
    | ok a r₁ => cases (ok_bind hstep).symm.trans hcut
    | error signal r₁ =>
        cases (error_bind hstep).symm.trans hcut
        exact ⟨_, rfl⟩
  · exact isCut_bind _

/-- The value of an operator that evaluates both of its operands. -/
theorem binaryNode_eq (hand : op ≠ .and) (hor : op ≠ .or) :
    binaryNode rules ev op target amount ctx =
      (do let pair ← operands rules ev op target amount ctx; return pair.2) := by
  unfold binaryNode operands
  split
  · exact absurd rfl hand
  · exact absurd rfl hor
  · simp

/-- What a step after its target does. -/
theorem stepAfter_eq : stepAfter rules ev op target target amount ctx =
    (do
      let pair ← operands rules ev op target amount ctx
      assignTo rules ev target pair.2 ctx
      return pair.1) := by
  unfold stepAfter operands
  simp

/-- **How the two forms of a step end.**  What the target has is read and what it is to have
computed, once; that is stored, once; the first form yields what is stored, the second one what
was read.  If one fails so does the other one, at the same point and for the same cause. -/
inductive StepEnds (rules : Semantics) (ev : Evaluator) (op : BinaryOp) (target amount : Node)
    (ctx : ContextRef) (r : Run) : (ending ending' : EStateM.Result Signal Run Value) → Prop
  | stored {old new : Value} {r₁ r₂ : Run} :
      operands rules ev op target amount ctx r = .ok (old, new) r₁ →
      assignTo rules ev target new ctx r₁ = .ok () r₂ →
      StepEnds rules ev op target amount ctx r (.ok new r₂) (.ok old r₂)
  | failed {signal signal' : Signal} {r' : Run} : signal.unplaced = signal'.unplaced →
      StepEnds rules ev op target amount ctx r (.error signal r') (.error signal' r')

/-- Both forms are cut short or none is. -/
theorem StepEnds.isCut_iff {ending ending' : EStateM.Result Signal Run Value}
    (h : StepEnds rules ev op target amount ctx r ending ending') :
    IsCut ending ↔ IsCut ending' := by
  cases h with
  | stored => exact ⟨nofun, nofun⟩
  | @failed signal signal' r' hsame =>
      have hiff : signal = .exhausted ↔ signal' = .exhausted := by
        cases signal <;> cases signal' <;> simp_all [Signal.unplaced]
      constructor
      · rintro ⟨_, hcut⟩
        cases hcut
        exact ⟨r', by rw [hiff.mp rfl]⟩
      · rintro ⟨_, hcut⟩
        cases hcut
        exact ⟨r', by rw [hiff.mpr rfl]⟩

end Eval

namespace Semantics

open Eval

variable {rules : Semantics} {ev ev' : Evaluator} {op : BinaryOp} {target amount : Node}
  {ctx : ContextRef} {span inner : Span} {n : Nat} {r : Run}

/-- The operands of an operation, at another depth. -/
theorem repeats_operands {d d' : Depth} (hev : (repeating rules d d').Couples ev ev') :
    Repeats d d' (fun _ => True) (operands rules ev op target amount ctx)
      (operands rules ev' op target amount ctx) := by
  let c := repeating rules d d'
  have hat : c.CouplesAt ev ev' ctx := .inContext hev trivial
  have htarget : c.rel true Discipline.free.Holds (ev target ctx) (ev' target ctx) :=
    hat.part target trivial
  have hamount : c.rel true Discipline.free.Holds (ev amount ctx) (ev' amount ctx) :=
    hat.part amount trivial
  have hbinary (old change : Value) : c.rel true Discipline.free.Holds
      (binary rules op old change) (binary rules op old change) := c.rel_binary op old change
  refine repeats_bind htarget fun old _ => ?_
  refine repeats_bind hamount fun change _ => ?_
  exact repeats_bind (hbinary old change) fun new _ => repeats_pure trivial

/-- Storing a value, at another depth. -/
theorem repeats_assignTo {d d' : Depth} (hev : (repeating rules d d').Couples ev ev')
    (new : Value) :
    Repeats d d' (fun _ => True) (assignTo rules ev target new ctx)
      (assignTo rules ev' target new ctx) := by
  let c := repeating rules d d'
  have hat : c.CouplesAt ev ev' ctx := .inContext hev trivial
  have hassign : c.rel true (fun _ => True) (assignTo rules ev target new ctx)
      (assignTo rules ev' target new ctx) :=
    c.rel_assignTo hat trivial trivial (.inr trivial) (Discipline.holds_lax new)
  exact hassign

/-- Where there is room, a node is evaluated one level deeper. -/
theorem bounded_of_room (tree : Node) (h : r.depth.depth < r.depth.limit) :
    rules.bounded (n + 1) tree ctx r =
      resurface tree.span (node rules n (rules.bounded n) tree ctx r.deeper) := by
  rw [bounded, guarded_of_lt _ _ _ _ _ _ h, entering_of_room _ _ h]
  rfl

/-- An operation is its operands one level deeper. -/
theorem bounded_binary (inner : Span) (hand : op ≠ .and) (hor : op ≠ .or)
    (h : r.depth.depth < r.depth.limit) :
    rules.bounded (n + 1) (.binary inner op target amount) ctx r =
      resurface inner ((do
        let pair ← Eval.operands rules (rules.bounded n) op target amount ctx
        return pair.2 : Eval Value) r.deeper) := by
  rw [bounded_of_room _ h, ← binaryNode_eq hand hor]
  rfl

/-- The operation of the first form does what the second form begins with, one level deeper. -/
theorem Completes.operands {inner : Span} (hand : op ≠ .and) (hor : op ≠ .or)
    (h : rules.Completes n (.binary inner op target amount) ctx r) :
    ¬IsCut (Eval.operands rules (rules.bounded n) op target amount ctx r) ∧
      match Eval.operands rules (rules.bounded n) op target amount ctx r with
      | .ok pair r₁ => rules.bounded n (.binary inner op target amount) ctx r = .ok pair.2 r₁
      | .error signal r₁ =>
        rules.bounded n (.binary inner op target amount) ctx r =
          .error (signal.located inner) r₁ := by
  obtain ⟨hroom, k, rfl⟩ := h.room
  have hbelow : rules.bounded (k + 1) (.binary inner op target amount) ctx r = _ :=
    bounded_binary inner hand hor hroom
  have hcut : ¬IsCut (Eval.operands rules (rules.bounded k) op target amount ctx r.deeper) := by
    intro hcut
    apply h
    rw [hbelow]
    exact isCut_resurface_iff.mpr (isCut_bind _ hcut)
  -- what is read one level deeper is read here as well
  have hev : (repeating rules r.deeper.depth r.depth).Couples (rules.bounded k)
      (rules.bounded (k + 1)) :=
    couples_bounded _ _ (Nat.le_succ k) (by show r.depth.limit + _ ≤ _ + (_ + 1); omega)
  obtain ⟨hsame, hreturns⟩ := (repeats_operands hev r.deeper rfl).resolve_left hcut
  have hhere : Eval.operands rules (rules.bounded (k + 1)) op target amount ctx r = _ := hsame
  rw [hhere, hbelow]
  refine ⟨fun hcut' => hcut (isCut_endAt.mp hcut'), ?_⟩
  cases hread : Eval.operands rules (rules.bounded k) op target amount ctx r.deeper with
  | ok pair r₁ =>
      rw [hread] at hreturns
      rw [ok_bind hread]
      have hdepth : r₁.depth.exit = r.depth := congrArg Depth.exit hreturns.2
      show EStateM.Result.ok pair.2 (r₁.atDepth r₁.depth.exit) = .ok pair.2 (r₁.atDepth r.depth)
      rw [hdepth]
  | error signal r₁ =>
      rw [hread] at hreturns
      rw [error_bind hread]
      have hdepth : r₁.depth.exit = r.depth := congrArg Depth.exit hreturns
      show EStateM.Result.error (signal.located inner) (r₁.atDepth r₁.depth.exit) =
        .error (signal.located inner) (r₁.atDepth r.depth)
      rw [hdepth]

/-- The two forms of an update with the same evaluator for their parts. -/
theorem node_stepEnds {fuel : Nat} (hand : op ≠ .and) (hor : op ≠ .or)
    (h : ¬IsCut (node rules fuel (rules.bounded n)
      (.update span inner op target amount false) ctx r)) :
    StepEnds rules (rules.bounded n) op target amount ctx r
      (node rules fuel (rules.bounded n) (.update span inner op target amount false) ctx r)
      (node rules fuel (rules.bounded n) (.update span inner op target amount true) ctx r) := by
  have hfirst : node rules fuel (rules.bounded n) (.update span inner op target amount false) ctx =
      (do
        let new ← rules.bounded n (.binary inner op target amount) ctx
        assignTo rules (rules.bounded n) target new ctx
        return new) := rfl
  have hsecond : node rules fuel (rules.bounded n)
      (.update span inner op target amount true) ctx = _ := stepAfter_eq
  rw [hfirst] at h ⊢
  rw [hsecond]
  have hvalue : rules.Completes n (.binary inner op target amount) ctx r :=
    fun hcut => h (isCut_bind _ hcut)
  have hread := (hvalue.operands hand hor).2
  cases hoperands : Eval.operands rules (rules.bounded n) op target amount ctx r with
  | error signal r₁ =>
      rw [hoperands] at hread
      rw [error_bind hread, error_bind hoperands]
      exact .failed (signal.unplaced_located inner)
  | ok pair r₁ =>
      rw [hoperands] at hread
      rw [ok_bind hread, ok_bind hoperands]
      cases hstored : assignTo rules (rules.bounded n) target pair.2 ctx r₁ with
      | error signal r₂ =>
          rw [error_bind hstored, error_bind hstored]
          exact .failed rfl
      | ok _ r₂ =>
          rw [ok_bind hstored, ok_bind hstored]
          exact .stored hoperands hstored

/-- An evaluation whose node is cut short is cut short. -/
theorem Completes.node {tree : Node} (h : rules.Completes (n + 1) tree ctx r) :
    ¬IsCut (Eval.node rules n (rules.bounded n) tree ctx r.deeper) := by
  intro hcut
  apply h
  rw [bounded_of_room tree h.room.1]
  exact isCut_resurface_iff.mpr hcut

/-- What is read and stored in an update that is cut short at the limit is read and stored in
one that is not. -/
theorem stored_of_bounded {old new : Value} {r₁ r₂ : Run}
    (hread : Eval.operands rules (rules.bounded n) op target amount ctx r = .ok (old, new) r₁)
    (hstored : assignTo rules (rules.bounded n) target new ctx r₁ = .ok () r₂) :
    Eval.operands rules (rules.evaluate n) op target amount ctx r = .ok (old, new) r₁ ∧
      assignTo rules (rules.evaluate n) target new ctx r₁ = .ok () r₂ ∧ r₂.depth = r.depth := by
  have hfirst : Repeats r.depth r.depth (fun _ => True)
      (Eval.operands rules (rules.bounded n) op target amount ctx)
      (Eval.operands rules (rules.evaluate n) op target amount ctx) :=
    repeats_operands (couples_bounded_evaluate n r.depth)
  have hsecond : Repeats r.depth r.depth (fun _ => True)
      (assignTo rules (rules.bounded n) target new ctx)
      (assignTo rules (rules.evaluate n) target new ctx) :=
    repeats_assignTo (couples_bounded_evaluate n r.depth) new
  obtain ⟨hread', hreturns⟩ := hfirst.eq rfl (by rw [hread]; exact nofun)
  rw [hread] at hread' hreturns
  obtain ⟨hstored', hreturns'⟩ := hsecond.eq hreturns.2 (by rw [hstored]; exact nofun)
  rw [hstored] at hstored' hreturns'
  exact ⟨hread', hstored', hreturns'.2⟩

/-- **The two forms of an update differ in what they yield.**  Where the first one completes so
does the second one.  Either both store the same, the first yields what is stored and the second
one what the target had; or both fail for the same cause, with the same done before. -/
theorem Completes.update (hand : op ≠ .and) (hor : op ≠ .or)
    (h : rules.Completes (n + 1) (.update span inner op target amount false) ctx r) :
    rules.Completes (n + 1) (.update span inner op target amount true) ctx r ∧
    ((∃ old new r₁ r₂,
      Eval.operands rules (rules.evaluate n) op target amount ctx r.deeper = .ok (old, new) r₁ ∧
      assignTo rules (rules.evaluate n) target new ctx r₁ = .ok () r₂ ∧
      rules.evaluate (n + 1) (.update span inner op target amount false) ctx r =
        .ok new (r₂.atDepth r.depth) ∧
      rules.evaluate (n + 1) (.update span inner op target amount true) ctx r =
        .ok old (r₂.atDepth r.depth)) ∨
    ∃ signal signal' r', signal.unplaced = signal'.unplaced ∧
      rules.evaluate (n + 1) (.update span inner op target amount false) ctx r =
        .error signal r' ∧
      rules.evaluate (n + 1) (.update span inner op target amount true) ctx r =
        .error signal' r') := by
  have hends := node_stepEnds hand hor h.node
  have hsurface (isPostfix : Bool) :
      rules.bounded (n + 1) (.update span inner op target amount isPostfix) ctx r = _ :=
    bounded_of_room (.update span inner op target amount isPostfix) h.room.1
  have hnode := h.node
  have hfirst := hsurface false
  have hsecond := hsurface true
  rw [← h.evaluate_eq] at hfirst
  generalize Eval.node rules n (rules.bounded n)
    (.update span inner op target amount false) ctx r.deeper = ending at hends hfirst hnode
  generalize Eval.node rules n (rules.bounded n)
    (.update span inner op target amount true) ctx r.deeper = ending' at hends hsecond
  have hcompletes : rules.Completes (n + 1) (.update span inner op target amount true) ctx r := by
    unfold Completes
    rw [hsecond]
    exact fun hcut => hnode (hends.isCut_iff.mpr (isCut_resurface_iff.mp hcut))
  refine ⟨hcompletes, ?_⟩
  rw [← hcompletes.evaluate_eq] at hsecond
  rw [hfirst, hsecond]
  cases hends with
  | failed hsame => exact .inr ⟨_, _, _, by simpa using hsame, rfl, rfl⟩
  | @stored old new r₁ r₂ hread hstored =>
      obtain ⟨hread, hstored, hdepth⟩ := stored_of_bounded hread hstored
      have hexit : r₂.depth.exit = r.depth := congrArg Depth.exit hdepth
      refine .inl ⟨old, new, r₁, r₂, hread, hstored, ?_, ?_⟩
      · rw [← hexit]
        rfl
      · rw [← hexit]
        rfl

/-- The operands of an operation, one level deeper in a state with room for one more. -/
theorem operands_wider (h : ¬IsCut (Eval.operands rules (rules.bounded n) op target amount ctx
    r.deeper)) :
    Eval.operands rules (rules.bounded n) op target amount ctx r.wider.deeper.deeper =
        endAt r.wider.deeper.deeper.depth
          (Eval.operands rules (rules.bounded n) op target amount ctx r.deeper) ∧
      Returns r.deeper.depth (fun _ => True)
        (Eval.operands rules (rules.bounded n) op target amount ctx r.deeper) := by
  have hroom : r.deeper.depth.limit + r.wider.deeper.deeper.depth.depth ≤
      r.wider.deeper.deeper.depth.limit + r.deeper.depth.depth := by
    show r.depth.limit + (r.depth.depth + 1 + 1) ≤ r.depth.limit + 1 + (r.depth.depth + 1)
    omega
  have hread : Repeats r.deeper.depth r.wider.deeper.deeper.depth (fun _ => True)
      (Eval.operands rules (rules.bounded n) op target amount ctx)
      (Eval.operands rules (rules.bounded n) op target amount ctx) :=
    repeats_operands (couples_bounded _ _ (Nat.le_refl n) hroom)
  exact (hread r.deeper rfl).resolve_left h

/-- Storing a value in a state with room for one more level. -/
theorem isCut_assignTo_wider {new : Value} {r₁ : Run} (hdepth : r₁.depth = r.deeper.depth)
    (h : ¬IsCut (assignTo rules (rules.bounded n) target new ctx r₁)) :
    ¬IsCut (assignTo rules (rules.bounded (n + 1)) target new ctx
      (r₁.atDepth r.wider.deeper.depth)) := by
  have hroom : r.deeper.depth.limit + r.wider.deeper.depth.depth ≤
      r.wider.deeper.depth.limit + r.deeper.depth.depth := by
    show r.depth.limit + (r.depth.depth + 1) ≤ r.depth.limit + 1 + (r.depth.depth + 1)
    omega
  have hstore : Repeats r.deeper.depth r.wider.deeper.depth (fun _ => True)
      (assignTo rules (rules.bounded n) target new ctx)
      (assignTo rules (rules.bounded (n + 1)) target new ctx) :=
    repeats_assignTo (couples_bounded _ _ (Nat.le_succ n) hroom) new
  rw [((hstore r₁ hdepth).resolve_left h).1, isCut_endAt]
  exact h

/-- **One level more is all that the first form needs.**  Where the second one completes so
does the first one, with one more step and one more level. -/
theorem Completes.update_before (hand : op ≠ .and) (hor : op ≠ .or)
    (h : rules.Completes (n + 1) (.update span inner op target amount true) ctx r) :
    rules.Completes (n + 2) (.update span inner op target amount false) ctx r.wider := by
  have hroom : r.wider.depth.depth < r.wider.depth.limit := Nat.lt_succ_of_lt h.room.1
  have hnode : ¬IsCut ((do
      let pair ← Eval.operands rules (rules.bounded n) op target amount ctx
      assignTo rules (rules.bounded n) target pair.2 ctx
      return pair.1 : Eval Value) r.deeper) := by
    have hsecond : Eval.node rules n (rules.bounded n)
        (.update span inner op target amount true) ctx = _ := stepAfter_eq
    rw [← hsecond]
    exact h.node
  have hfirst : Eval.node rules (n + 1) (rules.bounded (n + 1))
      (.update span inner op target amount false) ctx =
      (do
        let new ← rules.bounded (n + 1) (.binary inner op target amount) ctx
        assignTo rules (rules.bounded (n + 1)) target new ctx
        return new) := rfl
  have hbinary : rules.bounded (n + 1) (.binary inner op target amount) ctx r.wider.deeper = _ :=
    bounded_binary inner hand hor (Nat.succ_lt_succ h.room.1)
  have hcut : ¬IsCut (Eval.operands rules (rules.bounded n) op target amount ctx r.deeper) :=
    fun hcut => hnode (isCut_bind _ hcut)
  obtain ⟨hread, hreturns⟩ := operands_wider hcut
  unfold Completes
  rw [bounded_of_room _ hroom, isCut_resurface_iff, hfirst]
  cases hoperands : Eval.operands rules (rules.bounded n) op target amount ctx r.deeper with
  | error signal r₁ =>
      rw [hoperands] at hread hcut
      rw [error_bind hread] at hbinary
      rw [error_bind hbinary]
      rintro ⟨r', hcut'⟩
      have hbelow : IsCut (resurface inner
          (.error signal (r₁.atDepth r.wider.deeper.deeper.depth) :
            EStateM.Result Signal Run Value)) := ⟨_, hcut'⟩
      obtain ⟨r'', hcut''⟩ := isCut_resurface_iff.mp hbelow
      cases hcut''
      exact hcut ⟨r₁, rfl⟩
  | ok pair r₁ =>
      rw [hoperands] at hread hreturns
      rw [ok_bind hread] at hbinary
      rw [ok_bind hoperands, isCut_discard] at hnode
      rw [ok_bind hbinary, isCut_discard]
      show ¬IsCut (assignTo rules (rules.bounded (n + 1)) target pair.2 ctx
        (r₁.atDepth r.wider.deeper.depth))
      exact isCut_assignTo_wider hreturns.2 hnode

end Semantics

end ScriptEngine

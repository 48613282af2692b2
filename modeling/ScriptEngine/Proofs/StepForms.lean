import ScriptEngine.Proofs.EndTokens
import ScriptEngine.Proofs.LocalTargets
import ScriptEngine.Proofs.Steps

/-!
# The forms of a step

A step by one is written before its target or after it, or as a compound assignment.  Written
before it, it is the same tree as the compound assignment.

* `Step` — the two steps with their signs;
* `Grammar.conditionalLevel_of_unaryLevel`, `Grammar.assignmentLevel_of_unaryLevel` — what
  is read at the level of operands is read at the levels above, where nothing goes on with it;
* `Step.reads_before`, `Step.reads_after`, `Step.reads_compound` — the trees of the three forms;
* `Step.forms_differ_in_value` — the trees of the forms and what they do.
-/

namespace ScriptEngine

open Parse Grammar Seen

/-! ## Steps by one -/

/-- A step by one. -/
inductive Step where
  | increment
  | decrement
  deriving DecidableEq, Repr

namespace Step

/-- The operation that a step applies. -/
def op : Step → BinaryOp
  | increment => .add
  | decrement => .sub

/-- The sign of a step, before its target or after it. -/
def sign : Step → Symbol
  | increment => .plusPlus
  | decrement => .minusMinus

/-- The sign of the compound assignment. -/
def compound : Step → Symbol
  | increment => .plusEq
  | decrement => .minusEq

/-- What a step computes. -/
def compute (step : Step) (a : Arithmetic) : Store → Value → Value → Except EvalError Value :=
  match step with
  | increment => a.add
  | decrement => a.subtract

/-- The tree of a step of a target. -/
abbrev node (step : Step) (span inner place : Span) (target : Node) (isPostfix : Bool) : Node :=
  .update span inner step.op target (.literal place (.number 1)) isPostfix

end Step

/-- The token of a symbol. -/
def Symbol.token (sign : Symbol) (span : Span) : Token := ⟨.symbol sign, span, sign.spelling⟩

/-! ## What a step computes -/

namespace Eval

variable {rules : Semantics} {ctx : ContextRef} {r : Run} {n : Nat}

/-- A literal is evaluated to its value, and nothing else happens. -/
theorem evaluate_literal {place : Span} {literal : Literal} {value : Value} {r' : Run}
    (h : rules.evaluate n (.literal place literal) ctx r = .ok value r') :
    value = literal.toValue ∧ r' = r := by
  cases n with
  | zero => cases h
  | succ n =>
      by_cases hroom : r.depth.depth < r.depth.limit
      · have hvalue : rules.evaluate (n + 1) (.literal place literal) ctx r =
            resurface place (.ok literal.toValue r.deeper) := entering_of_room place _ hroom
        rw [hvalue] at h
        cases h
        exact ⟨rfl, rfl⟩
      · rw [rules.evaluate_full n _ ctx (Nat.not_lt.mp hroom)] at h
        cases h

/-- The operands of a step: the target has a value, from which the new one is computed. -/
theorem operands_step {step : Step} {target : Node} {place : Span} {old new : Value} {r₁ : Run}
    (h : operands rules (rules.evaluate n) step.op target (.literal place (.number 1)) ctx r =
      .ok (old, new) r₁) :
    rules.evaluate n target ctx r = .ok old r₁ ∧
      step.compute rules.arithmetic r₁.store old (.number 1) = .ok new := by
  have hbinary (value : Value) : binary rules step.op value (.number 1) =
      Eval.compute fun s => step.compute rules.arithmetic s value (.number 1) := by
    cases step <;> rfl
  unfold operands at h
  obtain ⟨value, r', htarget, hrest⟩ := exists_of_bind h
  obtain ⟨amount, r'', hamount, hrest'⟩ := exists_of_bind hrest
  obtain ⟨rfl, rfl⟩ := evaluate_literal hamount
  obtain ⟨result, r₂, hresult, hlast⟩ := exists_of_bind hrest'
  cases hlast
  have hcomputed : Eval.compute (fun s => step.compute rules.arithmetic s old (.number 1)) r'' =
      .ok new r₁ := (congrFun (hbinary old) r'').symm.trans hresult
  unfold Eval.compute at hcomputed
  split at hcomputed
  · rename_i hnew
    cases hcomputed
    exact ⟨htarget, hnew⟩
  · cases hcomputed

end Eval

/-! ## Where nothing goes on -/

/-- Whether an operand ends at a cursor: no operator goes on there but a compound assignment. -/
def Cursor.EndsOperand (c : Cursor) : Prop :=
  c.currentKind = .eof ∨ ∃ (step : Step) (span : Span), c.current = step.compound.token span

namespace Cursor.EndsOperand

variable {c : Cursor} (h : c.EndsOperand)

include h

theorem operatorAt_cases : operatorAt Operator.afterOperand? c = none ∨
    ∃ step : Step, operatorAt Operator.afterOperand? c =
      some (.ofCompound step.compound.spelling step.op) := by
  unfold operatorAt
  rcases h with hend | ⟨step, span, hcurrent⟩
  · rw [hend]
    exact .inl rfl
  · refine .inr ⟨step, ?_⟩
    unfold Cursor.currentKind
    rw [hcurrent]
    cases step <;> rfl

theorem currentKind_endsTarget : c.currentKind.endsTarget = true := by
  rcases h with hend | ⟨step, span, hcurrent⟩
  · rw [hend]
    rfl
  · unfold Cursor.currentKind
    rw [hcurrent]
    cases step <;> rfl

end Cursor.EndsOperand

namespace Grammar

variable {g : Grammar} {d : Dialect} {s : Progress}

theorem afterOperand_bind (next : Option Operator.Row → Parse Node) (d : Dialect) (s : Progress) :
    (afterOperand >>= next) d s = next (operatorAt Operator.afterOperand? s.cursor) d s := rfl

theorem beforeOperand_bind (next : Option Operator.Row → Parse Node) (d : Dialect) (s : Progress) :
    (beforeOperand >>= next) d s = next (operatorAt Operator.beforeOperand? s.cursor) d s := rfl

/-- What comes second leaves things as they are. -/
theorem bind_eq_first {first : Parse Node} {next : Node → Parse Node}
    (h : ∀ node t, first d s = .ok (node, t) → next node d t = .ok (node, t)) :
    (first >>= next) d s = first d s := by
  show (first d s >>= fun r => next r.1 d r.2) = _
  cases hfirst : first d s with
  | error e => rfl
  | ok r => exact h r.1 r.2 hfirst

theorem conditionalLevel_of_unaryLevel
    (h : ∀ node t, g.unaryLevel d s = .ok (node, t) → t.cursor.EndsOperand) :
    g.conditionalLevel d s = g.unaryLevel d s := by
  have hbinary : g.binaryLevel Binding.disjunction d s = g.unaryLevel d s := by
    unfold binaryLevel
    rw [currentSpan_bind]
    refine bind_eq_first fun node t hfirst => ?_
    unfold climb
    rw [afterOperand_bind]
    rcases (h node t hfirst).operatorAt_cases with hrow | ⟨step, hrow⟩
    · rw [hrow]
      rfl
    · rw [hrow]
      rfl
  unfold conditionalLevel
  rw [currentSpan_bind, ← hbinary]
  refine bind_eq_first fun node t hfirst => ?_
  have hends := (h node t (hbinary.symm.trans hfirst)).currentKind_endsTarget
  rw [currentKind_bind]
  rcases TokenKind.endsTarget_cases hends with heof | hplus | hminus
  · rw [heof]
    rfl
  · rw [hplus]
    rfl
  · rw [hminus]
    rfl

theorem assignmentLevel_of_unaryLevel
    (h : ∀ node t, g.unaryLevel d s = .ok (node, t) → t.cursor.currentKind = .eof) :
    g.assignmentLevel d s = g.unaryLevel d s := by
  have hconditional : g.conditionalLevel d s = g.unaryLevel d s :=
    conditionalLevel_of_unaryLevel fun node t hfirst => .inl (h node t hfirst)
  unfold assignmentLevel
  rw [currentSpan_bind, ← hconditional]
  refine bind_eq_first fun node t hfirst => ?_
  rw [afterOperand_bind]
  unfold operatorAt
  rw [h node t (hconditional.symm.trans hfirst)]
  rfl

end Grammar

/-! ## Sources of targets -/

namespace Parse

variable {d : Dialect} {s t : Progress}

theorem semicolons_passed {n : Nat} {a : Unit} (hrun : semicolons n d s = .ok (a, t)) :
    ∃ passed, s.cursor.after = passed ++ t.cursor.after ∧
      ∀ token ∈ passed, token.kind = .symbol .semicolon := by
  induction n generalizing s with
  | zero =>
      cases hrun
      exact ⟨[], rfl, nofun⟩
  | succ n ih =>
      unfold semicolons at hrun
      rw [eat_bind] at hrun
      split at hrun
      · rename_i hfound
        obtain ⟨passed, hpassed, hall⟩ := ih hrun
        obtain ⟨⟨before, after⟩, loops, scopes, pragmas⟩ := s
        rcases after with _ | ⟨token, after⟩
        · cases hfound
        · refine ⟨token :: passed, congrArg (token :: ·) hpassed, ?_⟩
          rintro other (_ | ⟨_, hother⟩)
          · exact of_decide_eq_true hfound
          · exact hall other hother
      · cases hrun
        exact ⟨[], rfl, nofun⟩

theorem expectEnd_run (d : Dialect) (s : Progress) :
    expectEnd d s = if s.cursor.isAtEnd = true then .ok ((), s) else
      .error ⟨.trailing s.cursor.currentKind, s.cursor.currentSpan⟩ := by
  show (if s.cursor.isAtEnd = true then pure () else do
    let found ← currentKind
    let span ← currentSpan
    fail (.trailing found) span : Parse Unit) d s = _
  split <;> rfl

/-- Where only end tokens are left the input has ended. -/
theorem currentKind_of_ended (h : ∀ token ∈ s.cursor.after, token.kind = .eof) :
    s.cursor.currentKind = .eof := by
  cases hafter : s.cursor.after with
  | nil => exact Sequel.currentKind_nil hafter
  | cons token tokens =>
      unfold Cursor.currentKind Cursor.current
      rw [hafter]
      exact h token (hafter ▸ List.mem_cons_self)

/-- Where the input has ended nothing is left but end tokens. -/
theorem after_eq_nil_of_end (hend : s.cursor.currentKind = .eof)
    (hunended : ∀ token ∈ s.cursor.after, token.kind ≠ .eof) : s.cursor.after = [] := by
  cases hafter : s.cursor.after with
  | nil => rfl
  | cons token tokens =>
      refine absurd ?_ (hunended token (hafter ▸ List.mem_cons_self))
      unfold Cursor.currentKind Cursor.current at hend
      rw [hafter] at hend
      exact hend

/-- Passing a token that is there. -/
theorem passes_of_after {token : Token} {tokens : List Token} (h : s.cursor.after = token :: tokens) :
    s.cursor.current = token ∧ s.advance.cursor.after = tokens := by
  unfold Cursor.current Progress.advance Cursor.advance
  rw [h]
  exact ⟨rfl, rfl⟩

end Parse

/-- **What an expression is read from**: it is read at the level of assignments, and nothing but
semicolons comes after it. -/
theorem Node.ofExpression_ok {d : Dialect} {source : List Token} {node : Node}
    (h : Node.ofExpression d source = .ok node) : Token.firstError? source = none ∧
      ∃ (t v : Progress) (passed : List Token),
        (upTo (source.length + 1)).assignmentLevel d (Parse.start source) = .ok (node, t) ∧
        t.cursor.after = passed ++ v.cursor.after ∧
        (∀ token ∈ passed, token.kind = .symbol .semicolon) ∧ v.cursor.currentKind = .eof := by
  unfold Node.ofExpression Node.ofTokens at h
  split at h
  · cases h
  rename_i hnone
  refine ⟨hnone, ?_⟩
  cases hrun : wholeExpression (source.length + 2) d (Parse.start source) with
  | error e =>
      rw [hrun] at h
      cases h
  | ok r =>
      obtain ⟨tree, w⟩ := r
      rw [hrun] at h
      obtain rfl : tree = node := Except.ok.inj h
      obtain ⟨⟨tree', t⟩, hexpr, hrest⟩ := bind_eq_ok.mp hrun
      obtain ⟨⟨a, v⟩, hsemicolons, hrest⟩ := bind_eq_ok.mp hrest
      obtain ⟨⟨b, w'⟩, hend, hlast⟩ := bind_eq_ok.mp hrest
      cases hlast
      obtain ⟨passed, hpassed, hall⟩ := semicolons_passed hsemicolons
      refine ⟨t, v, passed, hexpr, hpassed, hall, ?_⟩
      rw [expectEnd_run] at hend
      split at hend
      · rename_i hatEnd
        exact of_decide_eq_true hatEnd
      · cases hend

/-- **A source that is read as a target**, up to its last token, which is no end and no
semicolon. -/
structure TargetSource (d : Dialect) (source : List Token) (target : Node) : Prop where
  read : Node.ofExpression d source = .ok target
  assignable : target.isAssignable = true
  unended : ∀ token ∈ source, token.kind ≠ .eof
  unseparated : ∀ token ∈ source.getLast?, token.kind ≠ .symbol .semicolon

namespace TargetSource

variable {d : Dialect} {source rest : List Token} {target : Node}
  (h : TargetSource d source target)

include h

theorem firstError_eq : Token.firstError? source = none :=
  (Node.ofExpression_ok h.read).1

theorem ne_nil : source ≠ [] := by
  rintro rfl
  cases h.read

/-- The target is read at the level of operands, up to the end. -/
theorem unaryLevel_eq : ∃ t, (upTo (source.length + 1)).unaryLevel d (Parse.start source) =
    .ok (target, t) ∧ t.cursor.after = [] := by
  obtain ⟨-, t, v, passed, hlevel, hpassed, hall, hend⟩ := Node.ofExpression_ok h.read
  refine ⟨t, unaryLevel_of_assignmentLevel hlevel h.assignable, ?_⟩
  have hsuffix : t.cursor.after <:+ source := by
    have hlocal := local_assignmentLevel (local_upTo (d := d) (Nat.le_refl (source.length + 1)))
    exact (hlocal [] _ _ detached_nil (.refl _) target t hlevel).1
  have hv : v.cursor.after = [] := by
    refine after_eq_nil_of_end hend fun token htoken => h.unended token (hsuffix.subset ?_)
    rw [hpassed]
    exact List.mem_append_right _ htoken
  rw [hv, List.append_nil] at hpassed
  rw [hpassed]
  -- the last token is no semicolon, so none was passed
  cases hlast : passed.getLast? with
  | none => exact List.getLast?_eq_none_iff.mp hlast
  | some token =>
      obtain ⟨before, hbefore⟩ := hsuffix
      have hlast' : source.getLast? = some token := by
        rw [← hbefore, List.getLast?_append, hpassed, hlast]
        rfl
      exact absurd (hall token (List.mem_of_getLast? hlast)) (h.unseparated token hlast')

/-- In a longer source the accesses go on where the target ends. -/
theorem stands (hrest : Detached rest) {m : Nat} (hm : source.length + 1 ≤ m) {s' : Progress}
    (hafter : s'.cursor.after = source ++ rest) (hloops : s'.loopDepth = 0)
    (hscopes : s'.scopes = [⟨[], true⟩]) : Stands d rest target s' (upTo m).unaryLevel := by
  obtain ⟨t, hrun, hend⟩ := h.unaryLevel_eq
  have hs : Longer rest (Parse.start source) s' :=
    ⟨⟨hafter, hloops, hscopes⟩, fun hnil => absurd hnil h.ne_nil⟩
  exact held_unaryLevel hrest hm hs target t hrun hend h.assignable

end TargetSource

/-! ## The trees of the forms -/

/-- **What a source with a step in it is read as**: a tree, up to places, if the language has side
effects, and else it is refused for the lack of them. -/
def Node.ReadsAs (d : Dialect) (tokens : List Token) (node : Node) : Prop :=
  if d.features.has .sideEffect = true then
    ∃ tree, Node.ofExpression d tokens = .ok tree ∧ tree.Alike node
  else ∃ span, Node.ofExpression d tokens = .error ⟨.disabled .sideEffect, span⟩

namespace Step

variable {step : Step} {d : Dialect} {source closing tokens : List Token} {target node tree : Node}
  {span : Span} {s t : Progress}

/-- A step of a target at the end of what is read. -/
theorem stepAssign_run (htarget : target.isAssignable = true) (isPostfix : Bool) (s : Progress) :
    stepAssign target step.op isPostfix span d s =
      if d.features.has .sideEffect = true then
        .ok (step.node span span span target isPostfix, s)
      else .error ⟨.disabled .sideEffect, span⟩ := by
  unfold stepAssign
  rw [require_bind, htarget]
  rfl

/-- A source that is read to its end as a step, where the language has side effects. -/
theorem readsAs_of_assignmentLevel (hnone : Token.firstError? tokens = none)
    (hrun : (upTo (tokens.length + 1)).assignmentLevel d (Parse.start tokens) =
      if d.features.has .sideEffect = true then .ok (tree, t)
      else .error ⟨.disabled .sideEffect, span⟩)
    (hend : t.cursor.currentKind = .eof) (hlike : tree.Alike node) :
    Node.ReadsAs d tokens node := by
  have hwhole : wholeExpression (tokens.length + 2) d (Parse.start tokens) =
      if d.features.has .sideEffect = true then .ok (tree, t)
      else .error ⟨.disabled .sideEffect, span⟩ := by
    rw [← hrun]
    refine bind_eq_first fun tree' t' hrun' => ?_
    have hsame := hrun.symm.trans hrun'
    obtain rfl : t = t' := by
      split at hsame
      · cases hsame
        rfl
      · cases hsame
    have hcheck : t.cursor.check (.symbol .semicolon) = false := by
      unfold Cursor.check
      rw [hend]
      rfl
    have hatEnd : t.cursor.isAtEnd = true := decide_eq_true hend
    refine bind_eq_ok.mpr ⟨((), t), ?_, bind_eq_ok.mpr ⟨((), t), ?_, rfl⟩⟩
    · unfold semicolons
      rw [eat_bind, hcheck]
      rfl
    · rw [expectEnd_run, if_pos hatEnd]
  unfold Node.ReadsAs Node.ofExpression Node.ofTokens
  rw [hnone]
  dsimp only
  rw [hwhole]
  split
  · exact ⟨tree, rfl, hlike⟩
  · exact ⟨span, rfl⟩

/-- A step that is read at the level of operands, up to the end. -/
theorem readsAs_of_unaryLevel (hnone : Token.firstError? tokens = none)
    (hrun : (upTo (tokens.length + 1)).unaryLevel d (Parse.start tokens) =
      if d.features.has .sideEffect = true then .ok (tree, t)
      else .error ⟨.disabled .sideEffect, span⟩)
    (hend : t.cursor.currentKind = .eof) (hlike : tree.Alike node) :
    Node.ReadsAs d tokens node := by
  have hlevel : (upTo (tokens.length + 1)).assignmentLevel d (Parse.start tokens) =
      (upTo (tokens.length + 1)).unaryLevel d (Parse.start tokens) := by
    refine assignmentLevel_of_unaryLevel fun tree' t' hrun' => ?_
    have hsame := hrun.symm.trans hrun'
    split at hsame
    · cases hsame
      exact hend
    · cases hsame
  exact readsAs_of_assignmentLevel hnone (hlevel.trans hrun) hend hlike

/-- A step before what is read at the level of operands. -/
theorem unaryLevel_step {g : Grammar} {op : BinaryOp} {symbol : String} {arity power : Nat}
    (hrow : operatorAt Operator.beforeOperand? s.cursor = some ⟨symbol, arity, power, .step op⟩)
    (hoperand : g.unary d s.advance = .ok (tree, t)) : g.unaryLevel d s =
      stepAssign tree op false (s.cursor.currentSpan.merge t.cursor.previousSpan) d t := by
  unfold unaryLevel
  rw [currentSpan_bind, beforeOperand_bind, hrow]
  have hrest : (do
      let operand ← g.unary
      stepAssign operand op false (← spanFrom s.cursor.currentSpan) : Parse Node) d s.advance = _ :=
    bind_of_ok hoperand
  exact hrest

/-- A step after an operand. -/
theorem accessTail_step {g : Grammar} (start : Span)
    (hkind : s.cursor.currentKind = .symbol step.sign) (htarget : tree.isAssignable = true) :
    g.accessTail start tree d s =
      stepAssign tree step.op true (start.merge s.advance.cursor.previousSpan) d s.advance := by
  unfold accessTail
  rw [currentKind_bind, hkind]
  cases step with
  | increment =>
      show (if tree.isAssignable = true then _ else pure tree : Parse Node) d s = _
      rw [if_pos htarget]
      rfl
  | decrement =>
      show (if tree.isAssignable = true then _ else pure tree : Parse Node) d s = _
      rw [if_pos htarget]
      rfl

/-- A compound assignment to what is read at the level of conditions. -/
theorem assignmentLevel_compound {g : Grammar} {op : BinaryOp} {symbol : String} {right : Node}
    {u : Progress} (hleft : g.conditionalLevel d s = .ok (tree, t))
    (hrow : operatorAt Operator.afterOperand? t.cursor = some (.ofCompound symbol op))
    (htarget : tree.isAssignable = true) (hright : g.assignment d t.advance = .ok (right, u)) :
    g.assignmentLevel d s =
      let span := s.cursor.currentSpan.merge u.cursor.previousSpan
      if d.features.has .sideEffect = true then .ok (.update span span op tree right false, u)
      else .error ⟨.disabled .sideEffect, t.cursor.currentSpan⟩ := by
  unfold assignmentLevel
  rw [currentSpan_bind, bind_of_ok hleft, afterOperand_bind, hrow]
  show g.assignmentTail s.cursor.currentSpan tree (some op) d t = _
  unfold assignmentTail
  rw [currentSpan_bind, require_bind, htarget]
  split
  · have hrest : (do
        let right ← g.assignment
        let span ← spanFrom s.cursor.currentSpan
        return .update span span op tree right false : Parse Node) d t.advance = _ :=
      bind_of_ok hright
    exact hrest
  · rfl

/-- The last token of a compound assignment. -/
theorem unaryLevel_number {g : Grammar} {value : Number} {place : Span} {text : String}
    (hcurrent : s.cursor.current = ⟨.number value, place, text⟩)
    (hend : s.advance.cursor.currentKind = .eof) :
    g.unaryLevel d s = .ok (.literal place (.number value), s.advance) := by
  have hrow : operatorAt Operator.beforeOperand? s.cursor = none := by
    unfold operatorAt Cursor.currentKind
    rw [hcurrent]
  have hprimary : g.primary d s = .ok (.literal place (.number value), s.advance) := by
    unfold primary
    rw [cursor_bind, hcurrent]
    show Except.ok (Node.literal s.cursor.current.span _, s.advance) = _
    rw [hcurrent]
  unfold unaryLevel
  rw [currentSpan_bind, beforeOperand_bind, hrow]
  show g.chain d s = _
  unfold chain
  rw [currentSpan_bind, bind_of_ok hprimary]
  exact accessTail_end _ _ (hend ▸ rfl)

theorem isDetached_sign (step : Step) : (TokenKind.symbol step.sign).isDetached = true := by
  cases step <;> rfl

theorem isDetached_compound (step : Step) :
    (TokenKind.symbol step.compound).isDetached = true := by
  cases step <;> rfl

theorem like_node (step : Step) (span span' : Span) (isPostfix : Bool)
    (h : Like target tree) :
    (step.node span span span' tree isPostfix).Alike
      (step.node .none .none .none target isPostfix) := by
  show Like (step.node span span span' tree isPostfix) (step.node .none .none .none target isPostfix)
  simp [Like, h]

section

variable (h : TargetSource d source target) (hclosing : ∀ token ∈ closing, token.kind = .eof)

include hclosing

theorem firstError_closing : Token.firstError? closing = none := by
  refine List.findSome?_eq_none_iff.mpr fun token htoken => ?_
  unfold Token.lexError?
  rw [hclosing token htoken]
  rfl

theorem detached_closing : Detached closing := by
  intro token htoken
  rw [hclosing token (List.mem_of_mem_head? htoken)]
  rfl

include h

/-- Neither the source nor what closes it has a token that cannot be read. -/
theorem firstError_around (middle : List Token) :
    Token.firstError? (source ++ (middle ++ closing)) = Token.firstError? middle := by
  rw [Token.firstError_append, Token.firstError_append, h.firstError_eq,
    firstError_closing hclosing, Option.none_or, Option.or_none]

/-- **A step before its target.** -/
theorem reads_before (step : Step) (span : Span) :
    Node.ReadsAs d (step.sign.token span :: (source ++ closing))
      (step.node .none .none .none target false) := by
  set tokens := step.sign.token span :: (source ++ closing) with htokens
  have hnone : Token.firstError? tokens = none := by
    show Token.firstError? ([step.sign.token span] ++ (source ++ ([] ++ closing))) = none
    rw [Token.firstError_append, firstError_around h hclosing []]
    rfl
  have hlength : source.length + 1 ≤ tokens.length := by simp [htokens]
  have hstands : Stands d closing target (Parse.start tokens).advance
      (upTo tokens.length).unaryLevel :=
    h.stands (detached_closing hclosing) hlength rfl rfl rfl
  obtain ⟨k, start, tree, t, hrun, hlike, hafter⟩ := hstands
  have hend : t.cursor.currentKind = .eof := currentKind_of_ended (hafter ▸ hclosing)
  rw [accessTail_end _ _ (hend ▸ rfl)] at hrun
  have hassignable : tree.isAssignable = true :=
    (isAssignable_eq_of_like hlike).trans h.assignable
  have hrow : operatorAt Operator.beforeOperand? (Parse.start tokens).cursor =
      some ⟨step.sign.spelling, 1, Binding.unary, .step step.op⟩ := by
    cases step <;> rfl
  have hlevel : (upTo (tokens.length + 1)).unaryLevel d (Parse.start tokens) = _ :=
    (unaryLevel_step hrow hrun).trans (stepAssign_run hassignable false t)
  exact readsAs_of_unaryLevel hnone hlevel hend (like_node step _ _ false hlike)

/-- **A step after its target.** -/
theorem reads_after (step : Step) (span : Span) :
    Node.ReadsAs d (source ++ step.sign.token span :: closing)
      (step.node .none .none .none target true) := by
  set tokens := source ++ step.sign.token span :: closing with htokens
  have hnone : Token.firstError? tokens = none :=
    firstError_around h hclosing [step.sign.token span]
  have hlength : source.length + 1 ≤ tokens.length + 1 := by simp [htokens]
  have hdetached : Detached (step.sign.token span :: closing) := by
    rintro token ⟨⟩
    exact isDetached_sign step
  have hstands : Stands d _ target (Parse.start tokens) (upTo (tokens.length + 1)).unaryLevel :=
    h.stands hdetached hlength rfl rfl rfl
  obtain ⟨k, start, tree, t, hrun, hlike, hafter⟩ := hstands
  have hassignable : tree.isAssignable = true :=
    (isAssignable_eq_of_like hlike).trans h.assignable
  obtain ⟨hcurrent, hrest⟩ := passes_of_after hafter
  have hkind : t.cursor.currentKind = .symbol step.sign := congrArg Token.kind hcurrent
  have hlevel := (hrun.trans (accessTail_step start hkind hassignable)).trans
    (stepAssign_run hassignable true t.advance)
  have hend : t.advance.cursor.currentKind = .eof := currentKind_of_ended (hrest ▸ hclosing)
  exact readsAs_of_unaryLevel hnone hlevel hend (like_node step _ _ true hlike)

/-- **A compound assignment of one.** -/
theorem reads_compound (step : Step) (span place : Span) (text : String) :
    Node.ReadsAs d (source ++ step.compound.token span :: ⟨.number 1, place, text⟩ :: closing)
      (step.node .none .none .none target false) := by
  set tokens := source ++ step.compound.token span :: ⟨.number 1, place, text⟩ :: closing
    with htokens
  have hnone : Token.firstError? tokens = none :=
    firstError_around h hclosing [step.compound.token span, ⟨.number 1, place, text⟩]
  have hlength : source.length + 1 ≤ tokens.length + 1 := by simp [htokens]
  have hdetached : Detached (step.compound.token span :: ⟨.number 1, place, text⟩ :: closing) := by
    rintro token ⟨⟩
    exact isDetached_compound step
  have hstands : Stands d _ target (Parse.start tokens) (upTo (tokens.length + 1)).unaryLevel :=
    h.stands hdetached hlength rfl rfl rfl
  obtain ⟨k, start, tree, t, hrun, hlike, hafter⟩ := hstands
  have hassignable : tree.isAssignable = true :=
    (isAssignable_eq_of_like hlike).trans h.assignable
  obtain ⟨hcurrent, hafter'⟩ := passes_of_after hafter
  obtain ⟨hamount, hrest⟩ := passes_of_after hafter'
  have hends : t.cursor.EndsOperand := .inr ⟨step, span, hcurrent⟩
  rw [accessTail_end _ _ hends.currentKind_endsTarget] at hrun
  have hleft : (upTo (tokens.length + 1)).conditionalLevel d (Parse.start tokens) =
      .ok (tree, t) := by
    rw [← hrun]
    refine conditionalLevel_of_unaryLevel fun tree' t' hrun' => ?_
    cases hrun.symm.trans hrun'
    exact hends
  have hrow : operatorAt Operator.afterOperand? t.cursor =
      some (.ofCompound step.compound.spelling step.op) := by
    unfold operatorAt Cursor.currentKind
    rw [hcurrent]
    cases step <;> rfl
  have hend : t.advance.advance.cursor.currentKind = .eof :=
    currentKind_of_ended (hrest ▸ hclosing)
  have hright : (upTo (tokens.length + 1)).assignment d t.advance =
      .ok (.literal place (.number 1), t.advance.advance) := by
    show (upTo tokens.length).assignmentLevel d t.advance = _
    have hnumber : (upTo tokens.length).unaryLevel d t.advance = _ :=
      unaryLevel_number hamount hend
    rw [← hnumber]
    refine assignmentLevel_of_unaryLevel fun tree' t' hrun' => ?_
    cases hnumber.symm.trans hrun'
    exact hend
  have hlevel := assignmentLevel_compound hleft hrow hassignable hright
  exact readsAs_of_assignmentLevel hnone hlevel hend (like_node step _ _ false hlike)

end

/-! ## What the forms have in common -/

/-- **The forms of a step differ in the value that they yield.**  Where a step before its target
completes so does the step after it.  Either both read the target, compute the new value from the
old one and one, and store it, so that the same is left behind; the first form yields the new
value and the second one the old.  Or both fail for the same cause, with the same left behind.

A step before its target is read as the same tree as the compound assignment of one, whatever
the target is, or none of the forms is allowed. -/
theorem forms_differ_in_value (step : Step) :
    (∀ (rules : Semantics) (target : Node) (span inner place : Span) (ctx : ContextRef) (r : Run)
      (n : Nat), target.isAssignable = true →
      rules.Completes (n + 1) (step.node span inner place target false) ctx r →
      rules.Completes (n + 1) (step.node span inner place target true) ctx r ∧
      ((∃ old new r₁ r₂,
        rules.evaluate n target ctx r.deeper = .ok old r₁ ∧
        step.compute rules.arithmetic r₁.store old (.number 1) = .ok new ∧
        Eval.assignTo rules (rules.evaluate n) target new ctx r₁ = .ok () r₂ ∧
        rules.evaluate (n + 1) (step.node span inner place target false) ctx r =
          .ok new (r₂.atDepth r.depth) ∧
        rules.evaluate (n + 1) (step.node span inner place target true) ctx r =
          .ok old (r₂.atDepth r.depth)) ∨
      ∃ signal signal' r', signal.unplaced = signal'.unplaced ∧
        rules.evaluate (n + 1) (step.node span inner place target false) ctx r =
          .error signal r' ∧
        rules.evaluate (n + 1) (step.node span inner place target true) ctx r =
          .error signal' r')) ∧
    ∀ (d : Dialect) (source closing : List Token) (target : Node) (span place : Span)
      (text : String), TargetSource d source target →
      (∀ token ∈ closing, token.kind = .eof) →
      let before := Node.ofExpression d (step.sign.token span :: (source ++ closing))
      let after := Node.ofExpression d (source ++ step.sign.token span :: closing)
      let compound := Node.ofExpression d
        (source ++ step.compound.token span :: ⟨.number 1, place, text⟩ :: closing)
      if d.features.has .sideEffect = true then
        ∃ tree tree' tree'', before = .ok tree ∧ compound = .ok tree' ∧ after = .ok tree'' ∧
          tree.Alike tree' ∧ tree.Alike (step.node .none .none .none target false) ∧
          tree''.Alike (step.node .none .none .none target true)
      else ∃ place place' place'', before = .error ⟨.disabled .sideEffect, place⟩ ∧
        compound = .error ⟨.disabled .sideEffect, place'⟩ ∧
        after = .error ⟨.disabled .sideEffect, place''⟩ := by
  constructor
  · intro rules target span inner place ctx r n _ hcompletes
    have hand : step.op ≠ .and := by cases step <;> exact nofun
    have hor : step.op ≠ .or := by cases step <;> exact nofun
    obtain ⟨hcompletes', hends⟩ := hcompletes.update hand hor
    refine ⟨hcompletes', hends.imp_left ?_⟩
    rintro ⟨old, new, r₁, r₂, hoperands, hstored, hbefore, hafter⟩
    obtain ⟨hold, hnew⟩ := Eval.operands_step hoperands
    exact ⟨old, new, r₁, r₂, hold, hnew, hstored, hbefore, hafter⟩
  · intro d source closing target span place text hsource hclosing before after compound
    have hbefore := reads_before hsource hclosing step span
    have hafter := reads_after hsource hclosing step span
    have hcompound := reads_compound hsource hclosing step span place text
    unfold Node.ReadsAs at hbefore hafter hcompound
    split
    · rename_i hfeature
      rw [if_pos hfeature] at hbefore hafter hcompound
      obtain ⟨tree, hread, hlike⟩ := hbefore
      obtain ⟨tree', hread', hlike'⟩ := hcompound
      obtain ⟨tree'', hread'', hlike''⟩ := hafter
      exact ⟨tree, tree', tree'', hread, hread', hread'', hlike.trans hlike'.symm, hlike, hlike''⟩
    · rename_i hfeature
      rw [if_neg hfeature] at hbefore hafter hcompound
      obtain ⟨place, hread⟩ := hbefore
      obtain ⟨place', hread'⟩ := hcompound
      obtain ⟨place'', hread''⟩ := hafter
      exact ⟨place, place', place'', hread, hread', hread''⟩

/-- Where a variable holds one, a step before it yields two and a step after it one, and the
variable holds two after either of them. -/
theorem forms_differ_in_value_variable :
    let rules : Semantics := ⟨⟨true⟩, ⟨none, .none⟩⟩
    let run (value : Value) : Run :=
      ⟨{ Store.empty with contexts := #[.vars (OrderedMap.empty.insert "x" value) none] },
        .standard, .top 8⟩
    let d : Dialect := ⟨.standard, 0⟩
    let x : Token := ⟨.ident "x", .none, "x"⟩
    let target : Node := .ident .none "x"
    let form (isPostfix : Bool) : Node := increment.node .none .none .none target isPostfix
    rules.Completes 3 (form false) ⟨0⟩ (run (.number 1)) ∧
      rules.evaluate 3 (form false) ⟨0⟩ (run (.number 1)) = .ok (.number 2) (run (.number 2)) ∧
      rules.evaluate 3 (form true) ⟨0⟩ (run (.number 1)) = .ok (.number 1) (run (.number 2)) ∧
      TargetSource d [x] target ∧
      ∃ tree, Node.ofExpression d [increment.sign.token .none, x] = .ok tree ∧
        tree.Alike (form false) := by
  intro rules run d x target form
  have hcompletes : rules.Completes 3 (form false) ⟨0⟩ (run (.number 1)) := by
    have hends : rules.bounded 3 (form false) ⟨0⟩ (run (.number 1)) =
        .ok (.number 2) (run (.number 2)) := by
      with_unfolding_all rfl
    unfold Semantics.Completes
    rw [hends]
    rintro ⟨_, ⟨⟩⟩
  have hsource : TargetSource d [x] target := by
    refine ⟨by with_unfolding_all rfl, rfl, ?_, ?_⟩
    · rintro token (_ | ⟨_, ⟨⟩⟩)
      exact nofun
    · rintro token ⟨⟩
      exact nofun
  have hbefore : rules.evaluate 3 (form false) ⟨0⟩ (run (.number 1)) =
      .ok (.number 2) (run (.number 2)) := by
    with_unfolding_all rfl
  have hold : rules.evaluate 2 target ⟨0⟩ (run (.number 1)).deeper =
      .ok (.number 1) (run (.number 1)).deeper := by
    with_unfolding_all rfl
  have hafter : rules.evaluate 3 (form true) ⟨0⟩ (run (.number 1)) =
      .ok (.number 1) (run (.number 2)) := by
    have hends := ((forms_differ_in_value increment).1 rules target .none .none .none ⟨0⟩
      (run (.number 1)) 2 rfl hcompletes).2
    rcases hends with ⟨old, new, r₁, r₂, hold', -, -, hbefore', hafter'⟩ | ⟨_, _, _, -, hfails, -⟩
    · cases hold.symm.trans hold'
      have hsame := hbefore.symm.trans hbefore'
      injection hsame with _ hrun
      rw [hafter', ← hrun]
    · cases hbefore.symm.trans hfails
  have hread := (forms_differ_in_value increment).2 d [x] [] target .none .none "1" hsource nofun
  have hfeature : d.features.has .sideEffect = true := rfl
  dsimp only at hread
  rw [if_pos hfeature] at hread
  obtain ⟨tree, -, -, htree, -, -, -, hlike, -⟩ := hread
  exact ⟨hcompletes, hbefore, hafter, hsource, tree, htree, hlike⟩

end Step

end ScriptEngine

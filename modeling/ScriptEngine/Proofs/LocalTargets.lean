import ScriptEngine.Proofs.LocalPrograms

/-!
# Targets at the end of a source

An expression that can be assigned to is an operand with accesses after it, and nothing else.
So where a source ends with one, a longer source is read along it to the very end: there the
accesses go on with what follows.

* `Parse.NoTarget` — steps that read nothing that can be assigned to;
* `Grammar.unaryLevel_of_assignmentLevel` — what can be assigned to is read at the level of
  operands;
* `Parse.Stands`, `Parse.HeldAt` — the second reading gets to where the target ends;
* `Parse.held_chain`, `Parse.held_unaryLevel` — operands.
-/

namespace ScriptEngine

open Parse Grammar Seen

/-! ## What cannot be assigned to -/

namespace Parse

/-- A step that reads nothing that can be assigned to. -/
def NoTarget (step : Parse Node) : Prop :=
  ∀ d s node t, step d s = .ok (node, t) → node.isAssignable = false

variable {α β : Type}

theorem noTarget_pure {node : Node} (h : node.isAssignable = false) : NoTarget (pure node) := by
  intro d s node' t hrun
  cases hrun
  exact h

theorem noTarget_fail (cause : ParseError.Cause) (span : Span) : NoTarget (fail cause span) :=
  fun _ _ _ _ hrun => nomatch hrun

/-- What comes last has to read the result. -/
theorem noTarget_bind {step : Parse α} {next : α → Parse Node} (h : ∀ a, NoTarget (next a)) :
    NoTarget (step >>= next) := by
  intro d s node t hrun
  obtain ⟨⟨a, u⟩, -, hnext⟩ := bind_eq_ok.mp hrun
  exact h a d u node t hnext

section

variable (g : Grammar)

theorem noTarget_literal (value : Literal) : NoTarget (literal value) :=
  noTarget_bind fun _ => noTarget_pure rfl

theorem noTarget_lambda : NoTarget g.lambda := by
  apply noTarget_bind
  intro start
  apply noTarget_bind
  intro _
  apply noTarget_bind
  intro c
  apply noTarget_bind
  intro params
  apply noTarget_bind
  intro arrow
  have hbody (start : Span) (position : Nat) (body : Parse Node) : NoTarget (do
      let body ← body
      return Node.lambda (← spanFrom start) ⟨(← read).unit, position⟩ params body) :=
    noTarget_bind fun _ => noTarget_bind fun _ => noTarget_bind fun _ => noTarget_pure rfl
  cases arrow with
  | true => exact hbody _ _ _
  | false => exact noTarget_bind fun _ => hbody _ _ _

theorem noTarget_construct : NoTarget g.construct := by
  apply noTarget_bind
  intro start
  apply noTarget_bind
  intro _
  apply noTarget_bind
  intro _
  apply noTarget_bind
  intro args
  cases args with
  | nil => exact noTarget_bind fun _ => noTarget_fail _ _
  | cons className args => exact noTarget_bind fun _ => noTarget_pure rfl

theorem noTarget_array : NoTarget g.array :=
  noTarget_bind fun _ => noTarget_bind fun _ => noTarget_bind fun _ => noTarget_bind fun _ =>
    noTarget_bind fun _ => noTarget_bind fun _ => noTarget_pure rfl

theorem noTarget_bracesTail (start : Span) (first : Node) : NoTarget (g.bracesTail start first) := by
  apply noTarget_bind
  intro colon
  cases colon with
  | true =>
      apply noTarget_bind
      intro _
      apply noTarget_bind
      intro _
      apply noTarget_bind
      intro _
      apply noTarget_bind
      intro _
      exact noTarget_pure rfl
  | false =>
      apply noTarget_bind
      intro _
      apply noTarget_bind
      intro _
      apply noTarget_bind
      intro _
      exact noTarget_pure rfl

theorem noTarget_braces : NoTarget g.braces := by
  have hempty (start : Span) : NoTarget (do return Node.map (← spanFrom start) []) :=
    noTarget_bind fun _ => noTarget_pure rfl
  apply noTarget_bind
  intro start
  apply noTarget_bind
  intro _
  apply noTarget_bind
  intro _
  apply noTarget_bind
  intro empty
  cases empty with
  | true => exact hempty start
  | false =>
      apply noTarget_bind
      intro colon
      apply noTarget_bind
      intro following
      split
      · apply noTarget_bind
        intro _
        apply noTarget_bind
        intro _
        exact hempty start
      · apply noTarget_bind
        intro first
        exact noTarget_bracesTail g start first

theorem noTarget_stepAssign (target : Node) (op : BinaryOp) (isPostfix : Bool) (span : Span) :
    NoTarget (stepAssign target op isPostfix span) := by
  apply noTarget_bind
  intro _
  split
  · exact noTarget_pure rfl
  · apply noTarget_bind
    intro _
    exact noTarget_pure rfl

/-- A step after an operand, or an operand that takes none. -/
theorem noTarget_stepAfter (start : Span) (object : Node) (op : BinaryOp) :
    NoTarget (if object.isAssignable = true then do
      let _ ← advance
      stepAssign object op true (← spanFrom start)
      else pure object) := by
  split
  · apply noTarget_bind
    intro _
    apply noTarget_bind
    intro _
    exact noTarget_stepAssign _ _ _ _
  · rename_i hplain
    exact noTarget_pure (Bool.eq_false_iff.mpr hplain)

theorem noTarget_assignmentTail (start : Span) (target : Node) (base? : Option BinaryOp) :
    NoTarget (g.assignmentTail start target base?) := by
  apply noTarget_bind
  intro _
  apply noTarget_bind
  intro _
  by_cases hassignable : target.isAssignable = true
  · simp only [hassignable, if_true]
    apply noTarget_bind
    intro _
    apply noTarget_bind
    intro _
    apply noTarget_bind
    intro _
    exact noTarget_pure rfl
  · simp only [hassignable]
    exact fun _ _ _ _ hrun => nomatch hrun

theorem isAssignable_binaryNode (span : Span) (op : BinaryOp) (left right : Node) :
    (binaryNode span op left right).isAssignable = false := by
  unfold binaryNode
  split <;> rfl

/-- More operators after an operation. -/
theorem noTarget_binaryTail (n least : Nat) (start : Span) {left : Node}
    (hleft : left.isAssignable = false) : NoTarget ((upTo n).binaryTail least start left) := by
  induction n generalizing left with
  | zero => exact fun _ _ _ _ hrun => nomatch hrun
  | succ n ih =>
      have hrest (precedence : Nat) (op : BinaryOp) : NoTarget (do
          let _ ← advance
          let right ← (upTo n).binary (precedence + 1)
          (upTo n).binaryTail least start (binaryNode (← spanFrom start) op left right)) :=
        noTarget_bind fun _ => noTarget_bind fun _ => noTarget_bind fun _ =>
          ih (isAssignable_binaryNode _ _ _ _)
      apply noTarget_bind
      intro row
      split
      · split
        · exact noTarget_pure hleft
        · apply noTarget_bind
          intro kind
          split
          · apply noTarget_bind
            intro _
            apply noTarget_bind
            intro _
            exact hrest _ _
          · exact hrest _ _
      · exact noTarget_pure hleft

end

end Parse

/-! ## Targets by their levels -/

namespace Parse

variable {α : Type} {step first : Parse Node} {node : Node}

/-- A step after a node that leaves the state and the node as they are, or reads nothing that
can be assigned to. -/
def LeavesTarget (node : Node) (step : Parse Node) : Prop :=
  ∀ d s node' t, step d s = .ok (node', t) → node'.isAssignable = true → node' = node ∧ t = s

theorem leavesTarget_pure : LeavesTarget node (pure node) := by
  intro d s node' t hrun _
  cases hrun
  exact ⟨rfl, rfl⟩

theorem NoTarget.leavesTarget (h : NoTarget step) : LeavesTarget node step :=
  fun d s node' t hrun htarget => Bool.noConfusion (htarget.symm.trans (h d s node' t hrun))

theorem leavesTarget_afterOperand {next : Option Operator.Row → Parse Node}
    (h : ∀ row, LeavesTarget node (next row)) : LeavesTarget node (afterOperand >>= next) :=
  fun d s node' t hrun => h _ d s node' t hrun

theorem leavesTarget_currentKind {next : TokenKind → Parse Node}
    (h : ∀ kind, LeavesTarget node (next kind)) : LeavesTarget node (currentKind >>= next) :=
  fun d s node' t hrun => h _ d s node' t hrun

/-- What can be assigned to is read by the first of two steps. -/
theorem first_of_leavesTarget {next : Node → Parse Node} (h : ∀ node, LeavesTarget node (next node))
    {d : Dialect} {s t : Progress} (hrun : (first >>= next) d s = .ok (node, t))
    (htarget : node.isAssignable = true) : first d s = .ok (node, t) := by
  obtain ⟨⟨node', u⟩, hfirst, hnext⟩ := bind_eq_ok.mp hrun
  obtain ⟨rfl, rfl⟩ := h node' d u node t hnext htarget
  exact hfirst

end Parse

namespace Grammar

variable (g : Grammar) {n : Nat} {node : Node}

theorem leavesTarget_climb (n least : Nat) (start : Span) (node : Node) :
    LeavesTarget node ((upTo n).climb least start node) := by
  have hrest (precedence : Nat) (op : BinaryOp) : NoTarget (do
      let _ ← advance
      let right ← (upTo n).binary (precedence + 1)
      (upTo n).binaryTail least start (binaryNode (← spanFrom start) op node right)) :=
    noTarget_bind fun _ => noTarget_bind fun _ => noTarget_bind fun _ =>
      noTarget_binaryTail n least start (isAssignable_binaryNode _ _ _ _)
  apply leavesTarget_afterOperand
  intro row
  split
  · split
    · exact leavesTarget_pure
    · apply NoTarget.leavesTarget
      apply noTarget_bind
      intro kind
      split
      · apply noTarget_bind
        intro _
        apply noTarget_bind
        intro _
        exact hrest _ _
      · exact hrest _ _
  · exact leavesTarget_pure

/-- **What can be assigned to is read at the level of operands.** -/
theorem unaryLevel_of_assignmentLevel {d : Dialect} {s t : Progress}
    (hrun : (upTo n).assignmentLevel d s = .ok (node, t)) (htarget : node.isAssignable = true) :
    (upTo n).unaryLevel d s = .ok (node, t) := by
  have hconditional : (upTo n).conditionalLevel d s = .ok (node, t) := by
    unfold assignmentLevel at hrun
    rw [currentSpan_bind] at hrun
    refine first_of_leavesTarget (fun node => ?_) hrun htarget
    apply leavesTarget_afterOperand
    intro row
    split
    · exact (noTarget_assignmentTail _ _ _ _).leavesTarget
    · exact (noTarget_assignmentTail _ _ _ _).leavesTarget
    · exact leavesTarget_pure
  have hbinary : (upTo n).binaryLevel Binding.disjunction d s = .ok (node, t) := by
    unfold conditionalLevel at hconditional
    rw [currentSpan_bind] at hconditional
    refine first_of_leavesTarget (fun node => ?_) hconditional htarget
    apply leavesTarget_currentKind
    intro kind
    split
    · apply NoTarget.leavesTarget
      apply noTarget_bind
      intro _
      apply noTarget_bind
      intro colon
      cases colon with
      | true => exact noTarget_bind fun _ => noTarget_bind fun _ => noTarget_pure rfl
      | false =>
          apply noTarget_bind
          intro _
          apply noTarget_bind
          intro _
          apply noTarget_bind
          intro _
          apply noTarget_bind
          intro _
          exact noTarget_pure rfl
    · apply NoTarget.leavesTarget
      apply noTarget_bind
      intro _
      apply noTarget_bind
      intro _
      apply noTarget_bind
      intro _
      exact noTarget_pure rfl
    · exact leavesTarget_pure
  unfold binaryLevel at hbinary
  rw [currentSpan_bind] at hbinary
  exact first_of_leavesTarget (fun node => leavesTarget_climb n _ _ node) hbinary htarget

end Grammar

/-! ## Up to the end of a source -/

/-- Whether nothing goes on with a target at a token of this kind. -/
def TokenKind.endsTarget : TokenKind → Bool
  | .eof | .symbol .plusEq | .symbol .minusEq => true
  | _ => false

theorem TokenKind.endsTarget_cases {kind : TokenKind} (h : kind.endsTarget = true) :
    kind = .eof ∨ kind = .symbol .plusEq ∨ kind = .symbol .minusEq := by
  unfold endsTarget at h
  split at h
  · exact .inl rfl
  · exact .inr (.inl rfl)
  · exact .inr (.inr rfl)
  · cases h

/-- No access goes on there. -/
theorem Grammar.accessTail_end {g : Grammar} {d : Dialect} {s : Progress} (start : Span)
    (object : Node) (hkind : s.cursor.currentKind.endsTarget = true) :
    g.accessTail start object d s = .ok (object, s) := by
  unfold accessTail
  rw [currentKind_bind]
  rcases TokenKind.endsTarget_cases hkind with heof | hplus | hminus
  · rw [heof]
    rfl
  · rw [hplus]
    rfl
  · rw [hminus]
    rfl

/-- At the end of a source no access goes on. -/
theorem Grammar.accesses_nil {n : Nat} {d : Dialect} {s t : Progress} {start : Span}
    {object node : Node} (hrun : (upTo n).accesses start object d s = .ok (node, t))
    (hend : s.cursor.after = []) : node = object := by
  cases n with
  | zero => cases hrun
  | succ n =>
      have hkind : s.cursor.currentKind.endsTarget = true := by
        rw [Sequel.currentKind_nil hend]
        rfl
      have hlast := (accessTail_end start object hkind).symm.trans hrun
      cases hlast
      rfl

namespace Parse

variable {α : Type} [Seen α] {d : Dialect} {rest : List Token} {s s' : Progress}

/-- The second reading gets to where the target ends: with the same target it goes on there
with the accesses after it. -/
def Stands (d : Dialect) (rest : List Token) (node : Node) (s' : Progress) (step' : Parse Node) :
    Prop :=
  ∃ k start node' t', step' d s' = (upTo k).accessTail start node' d t' ∧ Like node node' ∧
    t'.cursor.after = rest

/-- **Two steps of which the second gets to where a target ends**, if the first one reads it and
ends at the end of the source. -/
def HeldAt (d : Dialect) (rest : List Token) (s s' : Progress) (step step' : Parse Node) : Prop :=
  ∀ node t, step d s = .ok (node, t) → t.cursor.after = [] → node.isAssignable = true →
    Stands d rest node s' step'

/-- Two steps of which the second reads the same, if the first one reads what can be assigned
to. -/
def KeptAt (d : Dialect) (rest : List Token) (s s' : Progress) (step step' : Parse Node) : Prop :=
  ∀ node t, step d s = .ok (node, t) → node.isAssignable = true →
    ∃ node' t', step' d s' = .ok (node', t') ∧ Like node node' ∧ Ahead rest t t'

theorem NoTarget.keptAt {step step' : Parse Node} (h : NoTarget step) :
    KeptAt d rest s s' step step' :=
  fun node t hrun htarget => Bool.noConfusion (htarget.symm.trans (h d s node t hrun))

theorem NoTarget.heldAt {step step' : Parse Node} (h : NoTarget step) :
    HeldAt d rest s s' step step' :=
  fun node t hrun _ htarget => Bool.noConfusion (htarget.symm.trans (h d s node t hrun))

theorem held_currentKind {next next' : TokenKind → Parse Node} (hs : Longer rest s s')
    (h : HeldAt d rest s s' (next s.cursor.currentKind) (next' s.cursor.currentKind)) :
    HeldAt d rest s s' (currentKind >>= next) (currentKind >>= next') := by
  show HeldAt d rest s s' (next s.cursor.currentKind) (next' s'.cursor.currentKind)
  rw [hs.currentKind_eq]
  exact h

theorem held_beforeOperand {next next' : Option Operator.Row → Parse Node} (hs : Longer rest s s')
    (h : ∀ row, HeldAt d rest s s' (next row) (next' row)) :
    HeldAt d rest s s' (beforeOperand >>= next) (beforeOperand >>= next') := by
  show HeldAt d rest s s' (next (operatorAt Operator.beforeOperand? s.cursor))
    (next' (operatorAt Operator.beforeOperand? s'.cursor))
  rw [hs.operatorAt_eq]
  exact h _

theorem held_advance {next next' : Token → Parse Node} (hs : Longer rest s s')
    (h : ∀ token, HeldAt d rest s.advance s'.advance (next token) (next' token)) :
    HeldAt d rest s s' (advance >>= next) (advance >>= next') := by
  show HeldAt d rest s.advance s'.advance (next s.cursor.current) (next' s'.cursor.current)
  rw [hs.current_eq]
  exact h _

theorem held_spanFrom {start start' : Span} {next next' : Span → Parse Node}
    (h : ∀ span span', HeldAt d rest s s' (next span) (next' span')) :
    HeldAt d rest s s' (spanFrom start >>= next) (spanFrom start' >>= next') := h _ _

theorem held_require {f : Feature} {span span' : Span} {next next' : Unit → Parse Node}
    (h : HeldAt d rest s s' (next ()) (next' ())) :
    HeldAt d rest s s' (require f span >>= next) (require f span' >>= next') := by
  intro node t hrun hend htarget
  rw [require_bind] at hrun
  unfold Stands
  rw [require_bind]
  split at hrun
  · rename_i hfeature
    rw [if_pos hfeature]
    exact h node t hrun hend htarget
  · cases hrun

/-- A token that is passed is there. -/
theorem after_ne_nil_of_expect {β : Type} {kind : TokenKind} {next : Token → Parse β}
    {r : β × Progress} (hrun : (expect kind >>= next) d s = .ok r) (hkind : kind ≠ .eof) :
    s.cursor.after ≠ [] := by
  intro hend
  rw [expect_bind, Sequel.check_nil hend hkind] at hrun
  cases hrun

/-- A token that is passed, and what comes then. -/
theorem held_expect {kind : TokenKind} {next next' : Token → Parse Node} (hs : Ahead rest s s')
    (hkind : kind ≠ .eof)
    (h : ∀ token, Ahead rest s.advance s'.advance →
      HeldAt d rest s.advance s'.advance (next token) (next' token)) :
    HeldAt d rest s s' (expect kind >>= next) (expect kind >>= next') := by
  intro node t hrun hend htarget
  rw [expect_bind] at hrun
  unfold Stands
  rw [expect_bind]
  split at hrun
  · rename_i hfound
    have hthere : s.cursor.currentKind = kind := of_decide_eq_true hfound
    have hs : Longer rest s s' := hs.longer (Sequel.after_ne_nil_of_kind (hthere ▸ hkind))
    have hfound' : s'.cursor.check kind = true := by
      unfold Cursor.check
      rw [hs.currentKind_eq]
      exact hfound
    rw [if_pos hfound', hs.current_eq]
    exact h s.cursor.current hs.advance node t hrun hend htarget
  · cases hrun

/-- Whether a token of some kind is there shows where the source ends as well. -/
theorem held_check {kind : TokenKind} {next next' : Bool → Parse Node} (hrest : Detached rest)
    (hs : Ahead rest s s') (hkind : kind.isDetached = false)
    (h : ∀ found, (found = true → s.cursor.after ≠ []) →
      HeldAt d rest s s' (next found) (next' found)) :
    HeldAt d rest s s' (check kind >>= next) (check kind >>= next') := by
  show HeldAt d rest s s' (next (s.cursor.check kind)) (next' (s'.cursor.check kind))
  have hne : kind ≠ .eof := by
    rintro rfl
    cases hkind
  by_cases hend : s.cursor.after = []
  · have hnone : s.cursor.check kind = false := Sequel.check_nil hend hne
    have hnone' : s'.cursor.check kind = false := by
      have hafter : s'.cursor.after = rest := by
        rw [hs.after, hend, List.nil_append]
      refine decide_eq_false fun hthere => ?_
      unfold Cursor.currentKind Cursor.current at hthere
      rw [hafter] at hthere
      cases rest with
      | nil => exact hne hthere.symm
      | cons token rest =>
          have hdetached := hrest token rfl
          rw [show token.kind = kind from hthere, hkind] at hdetached
          cases hdetached
    rw [hnone, hnone']
    exact h false nofun
  · have hsame : s'.cursor.check kind = s.cursor.check kind := by
      unfold Cursor.check
      rw [(hs.longer hend).currentKind_eq]
    rw [hsame]
    exact h _ fun _ => hend

theorem held_memberName {next next' : String × Span → Parse Node} (hs : Ahead rest s s')
    (h : ∀ member, Ahead rest s.advance s'.advance →
      HeldAt d rest s.advance s'.advance (next member) (next' member)) :
    HeldAt d rest s s' (memberName >>= next) (memberName >>= next') := by
  intro node t hrun hend htarget
  unfold Stands
  cases hname : memberName? s.cursor.current with
  | none =>
      have hfault : memberName d s =
          .error ⟨.unexpected s.cursor.currentKind "property name", s.cursor.currentSpan⟩ := by
        rw [memberName, cursor_bind, hname]
        rfl
      obtain ⟨r, hfirst, -⟩ := bind_eq_ok.mp hrun
      rw [hfault] at hfirst
      cases hfirst
  | some name =>
      have htaken {s : Progress} (hname : memberName? s.cursor.current = some name) :
          (memberName >>= next) d s = next (name, s.cursor.current.span) d s.advance ∧
          (memberName >>= next') d s = next' (name, s.cursor.current.span) d s.advance := by
        have hstep : memberName d s = .ok ((name, s.cursor.current.span), s.advance) := by
          rw [memberName, cursor_bind, hname]
          rfl
        have hbind (next : String × Span → Parse Node) : (memberName >>= next) d s =
            (memberName d s >>= fun r => next r.1 d r.2) := rfl
        rw [hbind, hbind, hstep]
        exact ⟨rfl, rfl⟩
      have hs : Longer rest s s' := hs.longer (Reading.after_ne_nil_of_name rfl hname)
      rw [(htaken hname).1] at hrun
      rw [(htaken (hs.current_eq ▸ hname)).2, hs.current_eq]
      exact h _ hs.advance node t hrun hend htarget

/-- A step that reads locally, after which the source cannot end with a target. -/
theorem held_bind {step step' : Parse α} {next next' : α → Parse Node} (h : Local d step step')
    (hrest : Detached rest) (hs : Longer rest s s')
    (hlast : ∀ a u node t, next a d u = .ok (node, t) → u.cursor.after = [] →
      node.isAssignable = false)
    (hnext : ∀ a a' u u', Like a a' → Longer rest u u' →
      HeldAt d rest u u' (next a) (next' a')) :
    HeldAt d rest s s' (step >>= next) (step' >>= next') := by
  intro node t hrun hend htarget
  obtain ⟨⟨a, u⟩, hfirst, hsecond⟩ := bind_eq_ok.mp hrun
  have hinside : u.cursor.after = [] → rest = [] := fun hnil =>
    Bool.noConfusion (htarget.symm.trans (hlast a u node t hsecond hnil))
  obtain ⟨a', u', hfirst', hsame, hu⟩ := (h rest s s' hrest hs a u hfirst).2 hinside
  obtain ⟨k, start, node', t', hrun', hnode, hafter⟩ :=
    hnext a a' u u' hsame hu node t hsecond hend htarget
  exact ⟨k, start, node', t', (bind_of_ok hfirst').trans hrun', hnode, hafter⟩

end Parse

namespace Grammar

variable {n m : Nat} {d : Dialect} {rest : List Token} {s s' : Progress}

/-- The accesses of a longer source get to where the target ends. -/
theorem held_accesses (hrest : Detached rest) (hle : n ≤ m) {start start' : Span}
    {object object' : Node} (hobject : Like object object') (hs : Ahead rest s s') :
    HeldAt d rest s s' ((upTo n).accesses start object) ((upTo m).accesses start' object') := by
  induction n generalizing m object object' s s' with
  | zero => exact fun _ _ hrun => nomatch hrun
  | succ n ih =>
      obtain ⟨m, rfl⟩ : ∃ k, m = k + 1 := ⟨m - 1, by omega⟩
      have hle : n ≤ m := Nat.le_of_succ_le_succ hle
      have hg : Grammar.Local d (upTo n) (upTo m) := local_upTo hle
      by_cases hend : s.cursor.after = []
      -- the target ends here
      · intro node t hrun _ _
        obtain rfl : node = object := accesses_nil hrun hend
        exact ⟨m, start', object', s', rfl, hobject, by rw [hs.after, hend, List.nil_append]⟩
      have hs : Longer rest s s' := hs.longer hend
      -- a call is no target, so that the source goes on after it
      have hcall {u u' : Progress} (hu : Longer rest u u') {step step' : Parse (List Node)}
          (hstep : Parse.Local d step step') {call call' : Span → List Node → Node}
          (hlike : ∀ span span' args args', Like args args' →
            Like (call span args) (call' span' args'))
          (hplain : ∀ span args, (call span args).isAssignable = false) :
          HeldAt d rest u u' (do
            let args ← step
            (upTo n).accesses start (call (← spanFrom start) args)) (do
            let args ← step'
            (upTo m).accesses start' (call' (← spanFrom start') args)) := by
        refine held_bind hstep hrest hu (fun args v node t hrun hnil => ?_) ?_
        · rw [accesses_nil hrun hnil]
          exact hplain _ _
        · intro args args' v v' hargs hv
          apply held_spanFrom
          intro span span'
          exact ih hle (hlike span span' args args' hargs) hv.toAhead
      apply held_currentKind hs
      split
      · apply held_advance hs
        intro _
        apply held_memberName hs.advance
        intro member hu
        apply held_check hrest hu rfl
        intro found hfound
        split
        · exact held_require (hcall (hu.longer (hfound ‹_›)) (local_callArguments hg)
            (fun _ _ _ _ hargs => by simp [Like, hobject, hargs]) fun _ _ => rfl)
        · apply held_spanFrom
          intro span span'
          exact ih hle (by simp [Like, hobject]) hu
      · rw [← bind_assoc, ← bind_assoc]
        refine held_bind (local_advance fun _ => hg.expr) hrest hs ?_ ?_
        · intro key u node t hrun hnil
          exact absurd hnil (after_ne_nil_of_expect hrun nofun)
        · intro key key' u u' hkey hu
          refine held_expect hu.toAhead nofun fun _ hv => ?_
          apply held_spanFrom
          intro span span'
          exact ih hle (by simp [Like, hobject, hkey]) hv
      · exact hcall hs (local_callArguments hg) (fun _ _ _ _ hargs => by
          simp [Like, hobject, hargs]) fun _ _ => rfl
      · exact (noTarget_stepAfter start object .add).heldAt
      · exact (noTarget_stepAfter start object .sub).heldAt
      · intro node t hrun hnil _
        cases hrun
        exact absurd hnil hend

/-- What is between brackets is read locally, since its own bracket comes after it. -/
theorem kept_inBrackets {g g' : Grammar} (hg : Grammar.Local d g g') (hrest : Detached rest)
    (hs : Longer rest s s') : KeptAt d rest s s'
      (do
        let _ ← advance
        let inner ← g.expr
        let _ ← expect (.symbol .rparen)
        return inner)
      (do
        let _ ← advance
        let inner ← g'.expr
        let _ ← expect (.symbol .rparen)
        return inner) := by
  rw [← bind_assoc, ← bind_assoc]
  intro node t hrun _
  obtain ⟨⟨inner, u⟩, hinner, hlast⟩ := bind_eq_ok.mp hrun
  have hinside : u.cursor.after = [] → rest = [] := fun hnil =>
    absurd hnil (after_ne_nil_of_expect hlast nofun)
  obtain ⟨inner', u', hinner', hsame, hu⟩ :=
    (local_advance (fun _ => hg.expr) rest s s' hrest hs inner u hinner).2 hinside
  rw [expect_bind] at hlast
  split at hlast
  · rename_i hfound
    cases hlast
    refine ⟨inner', u'.advance, bind_eq_ok.mpr ⟨(inner', u'), hinner', ?_⟩, hsame, hu.advance⟩
    rw [expect_bind]
    unfold Cursor.check at hfound ⊢
    rw [hu.currentKind_eq, if_pos hfound]
    rfl
  · cases hlast

/-- **An operand that can be assigned to is read locally to the very end**: it ends with the
token that it is or with its own bracket. -/
theorem kept_primary {g g' : Grammar} (hg : Grammar.Local d g g') (hrest : Detached rest)
    (hs : Longer rest s s') : KeptAt d rest s s' g.primary g'.primary := by
  have hlook {next next' : Cursor → Parse Node}
      (h : KeptAt d rest s s' (next s.cursor) (next' s'.cursor)) :
      KeptAt d rest s s' (cursor >>= next) (cursor >>= next') := h
  apply hlook
  dsimp only
  rw [hs.current_eq]
  split
  · exact (noTarget_literal _).keptAt
  · exact (noTarget_literal _).keptAt
  · exact (noTarget_literal _).keptAt
  · exact (noTarget_literal _).keptAt
  · exact (noTarget_literal _).keptAt
  · have hpeek {next next' : TokenKind → Parse Node}
        (h : KeptAt d rest s s' (next (s.cursor.peek 1)) (next' (s'.cursor.peek 1))) :
        KeptAt d rest s s' (peek 1 >>= next) (peek 1 >>= next') := h
    apply hpeek
    have hparen : s'.cursor.peek 1 = .symbol .lparen ↔ s.cursor.peek 1 = .symbol .lparen :=
      hs.peek_iff hrest rfl
    have harrow : s'.cursor.peek 1 = .symbol .arrow ↔ s.cursor.peek 1 = .symbol .arrow :=
      hs.peek_iff hrest rfl
    have hfat : s'.cursor.peek 1 = .symbol .fatArrow ↔ s.cursor.peek 1 = .symbol .fatArrow :=
      hs.peek_iff hrest rfl
    simp only [hparen, harrow, hfat]
    split
    · exact (noTarget_construct g).keptAt
    · split
      · exact (noTarget_lambda g).keptAt
      · intro node t hrun _
        cases hrun
        exact ⟨_, s'.advance, rfl, by simp [Like], hs.advance⟩
  · apply hlook
    rw [hs.lambdaAhead_eq hrest]
    split
    · exact (noTarget_lambda g).keptAt
    · exact kept_inBrackets hg hrest hs
  · exact (noTarget_array g).keptAt
  · exact (noTarget_braces g).keptAt
  · apply NoTarget.keptAt
    apply noTarget_bind
    intro span
    exact noTarget_fail _ span

/-- **An operand of a longer source gets to where the target ends.** -/
theorem held_chain (hrest : Detached rest) (hle : n ≤ m) (hs : Longer rest s s') :
    HeldAt d rest s s' (upTo n).chain (upTo m).chain := by
  have hg : Grammar.Local d (upTo n) (upTo m) := local_upTo hle
  intro node t hrun hend htarget
  unfold chain at hrun
  rw [currentSpan_bind] at hrun
  obtain ⟨⟨object, u⟩, hobject, haccess⟩ := bind_eq_ok.mp hrun
  unfold Stands chain
  rw [currentSpan_bind]
  by_cases hnil : u.cursor.after = []
  · obtain rfl : node = object := accesses_nil (n := n + 1) haccess hnil
    obtain ⟨object', u', hobject', hsame, hu⟩ :=
      kept_primary hg hrest hs _ u hobject htarget
    exact ⟨m, _, object', u', bind_of_ok hobject', hsame, by rw [hu.after, hnil, List.nil_append]⟩
  · obtain ⟨object', u', hobject', hsame, hu⟩ := (local_primary hg rest s s' hrest hs object u
      hobject).2 fun h => absurd h hnil
    rw [bind_of_ok hobject']
    exact held_accesses (n := n + 1) (m := m + 1) hrest (Nat.succ_le_succ hle) hsame hu.toAhead
      node t haccess hend htarget

/-- **An operand of a longer source gets to where the target ends**, at the level of operators
before operands. -/
theorem held_unaryLevel (hrest : Detached rest) (hle : n ≤ m) (hs : Longer rest s s') :
    HeldAt d rest s s' (upTo n).unaryLevel (upTo m).unaryLevel := by
  have hstart {next next' : Span → Parse Node}
      (h : ∀ span span', HeldAt d rest s s' (next span) (next' span')) :
      HeldAt d rest s s' (currentSpan >>= next) (currentSpan >>= next') := h _ _
  refine hstart fun start start' => held_beforeOperand hs fun row => ?_
  split
  · apply NoTarget.heldAt
    apply noTarget_bind
    intro named
    have hoperand (op : UnaryOp) : NoTarget (do
        let _ ← advance
        let operand ← (upTo n).unary
        return Node.unary (← spanFrom start) op operand) :=
      noTarget_bind fun _ => noTarget_bind fun _ => noTarget_bind fun _ => noTarget_pure rfl
    split
    · apply noTarget_bind
      intro _
      exact hoperand _
    · exact hoperand _
  · apply NoTarget.heldAt
    apply noTarget_bind
    intro _
    apply noTarget_bind
    intro _
    apply noTarget_bind
    intro _
    exact noTarget_stepAssign _ _ _ _
  · exact held_chain hrest hle hs

end Grammar

end ScriptEngine

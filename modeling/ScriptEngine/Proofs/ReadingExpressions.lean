import ScriptEngine.Proofs.ReadingOperands

/-!
# What is spelled is read

Every spelling of an expression is read, up to the words that end it, and gives
back the tree that was spelled, up to places.

* `reads_unary`, `reads_binary`, `reads_conditional`, `reads_assignment` — one
  level of binding power after the other;
* `complete` — as many nested requests as there are words are enough;
* `ofExpression_of_spells` — a token list that spells an expression is read as
  that expression.
-/

namespace ScriptEngine.Grammar

open Word

section Levels

variable {σ : Frame} {L : List Word → Node → Prop} {n : Nat} {ws rest : List Word} {t : Node}

/-! ## From one level to the next -/

/-- An operand that nothing goes on with is a chain. -/
theorem reads_chain_of_primary
    (h : Reads σ (upTo n).primary ws rest (Node.Alike · t))
    (hrest : Stops Binding.postfixChain rest) :
    Reads σ (upTo n).chain ws rest (Node.Alike · t) := by
  unfold chain
  refine reads_bind reads_currentSpan fun start _ => ?_
  refine reads_bind h fun object hobject => ?_
  refine (reads_accessTail_stop hrest).imp fun found hfound => ?_
  rw [hfound]
  exact hobject

/-- A chain that starts with no operator is an operand of a binary operator. -/
theorem reads_unary_of_chain {holds : Node → Prop} (hbefore : (ws.headD final).before? = none)
    (h : Reads σ (upTo n).chain ws rest holds) : Reads σ (upTo n).unaryLevel ws rest holds := by
  unfold unaryLevel
  refine reads_bind reads_currentSpan fun start _ => ?_
  refine reads_bind reads_beforeOperand fun row hrow => ?_
  obtain rfl : row = none := hrow.trans hbefore
  exact h

/-- Where nothing binds tightly enough, no binary operator is passed. -/
theorem reads_climb_stop {least : Nat} {start : Span} {left : Node} (hrest : Stops least rest) :
    Reads σ ((upTo n).climb least start left) rest rest (· = left) := by
  unfold climb
  refine reads_bind reads_afterOperand fun row hrow => ?_
  split
  case h_1 symbol arity precedence op =>
    have hlt : precedence < least := hrest.precedence_lt hrow.symm
    rw [if_pos hlt]
    exact reads_pure rfl
  case h_2 => exact reads_pure rfl

/-- What is read as an operand, with nothing after it that binds it, is read with
the binary operators. -/
theorem reads_binary_of_unary {least : Nat}
    (h : Reads σ (upTo n).unaryLevel ws rest (Node.Alike · t)) (hrest : Stops least rest) :
    Reads σ ((upTo n).binaryLevel least) ws rest (Node.Alike · t) := by
  unfold binaryLevel
  refine reads_bind reads_currentSpan fun start _ => ?_
  refine reads_bind h fun left hleft => ?_
  refine (reads_climb_stop hrest).imp fun found hfound => ?_
  rw [hfound]
  exact hleft

/-- What is read with the binary operators, with no question mark after it, is read
with the conditional forms. -/
theorem reads_conditional_of_binary
    (h : Reads σ ((upTo n).binaryLevel Binding.disjunction) ws rest (Node.Alike · t))
    (hrest : Stops Binding.conditional rest) :
    Reads σ (upTo n).conditionalLevel ws rest (Node.Alike · t) := by
  obtain ⟨hquestion, hcoalesce⟩ := hrest.headKind_ne_question
  unfold conditionalLevel
  refine reads_bind reads_currentSpan fun start _ => ?_
  refine reads_bind h fun cond hcond => ?_
  refine reads_bind reads_currentKind fun kind hkind => ?_
  subst hkind
  split <;> first | contradiction | exact reads_pure hcond

/-- What is read with the conditional forms, with no operator after it, is read
with the assignments. -/
theorem reads_assignment_of_conditional
    (h : Reads σ (upTo n).conditionalLevel ws rest (Node.Alike · t))
    (hrest : Stops Binding.assignment rest) :
    Reads σ (upTo n).assignmentLevel ws rest (Node.Alike · t) := by
  unfold assignmentLevel
  refine reads_bind reads_currentSpan fun start _ => ?_
  refine reads_bind h fun target htarget => ?_
  refine reads_bind reads_afterOperand fun row hrow => ?_
  obtain rfl : row = none := hrow.trans hrest.after_eq_none
  exact reads_pure htarget

/-! ## The levels -/

/-- An operand of a binary operator is read. -/
theorem reads_unary (hL : Lambdas L) (hc : ∀ m ≤ n, Complete σ L m)
    (h : Spells L Binding.unary ws t) (hrest : Stops Binding.unary rest)
    (hlen : ws.length + rest.length ≤ n + 1) :
    Reads σ (upTo n).unaryLevel (ws ++ rest) rest (Node.Alike · t) := by
  have hrest' : Stops Binding.postfixChain rest := hrest.mono (by decide)
  have hchain : Spells L Binding.postfixChain ws t →
      Reads σ (upTo n).unaryLevel (ws ++ rest) rest (Node.Alike · t) := by
    intro h
    have hopens := h.opens hL.opens
    refine reads_unary_of_chain (hopens.before_eq_none (Nat.le_refl _) rest) ?_
    refine reads_chain hL hc h (.inr hrest'.headKind_ne_access.2.2.1)
      (hrest'.mono (by decide)) hlen fun m start object hm _ hobject => ?_
    refine (reads_accessTail_stop hrest').imp fun found hfound => ?_
    rw [hfound]
    exact hobject
  cases h with
  | atom _ h => exact hchain (.atom (by decide) h)
  | access _ h => exact hchain (.access (by decide) h)
  | @step _ ws s op span inner place target old _ hs htarget hassignable hold =>
      have hopens := htarget.opens hL.opens
      have hnext : headKind (sign s :: rest) ≠ .symbol .lparen ∧
          Stops Binding.atom (sign s :: rest) := by
        rcases Symbol.eq_of_step? hs with rfl | rfl
        · exact ⟨nofun, rfl, by decide⟩
        · exact ⟨nofun, rfl, by decide⟩
      simp only [List.length_append, List.length_cons, List.length_nil] at hlen
      rw [List.append_assoc]
      refine reads_unary_of_chain (hopens.before_eq_none (Nat.le_refl _) _) ?_
      exact reads_chain hL hc htarget (.inr hnext.1) hnext.2 (by simp; omega)
        fun m start object hm _ hobject => reads_accessTail_step hs hobject hassignable hold
  | @unary _ ws w symbol arity power span op operand _ hs hw hoperand =>
      unfold unaryLevel
      refine reads_bind reads_currentSpan fun start _ => ?_
      refine reads_bind reads_beforeOperand fun row hrow => ?_
      obtain rfl : row = some ⟨symbol, arity, power, .unary op⟩ := hrow.trans hw
      simp only [List.length_cons] at hlen
      have happly : Reads σ (do
          let _ ← Parse.advance
          let operand ← (upTo n).unary
          return .unary (← Parse.spanFrom start) op operand) (w :: ws ++ rest) rest
          (Node.Alike · (.unary span op operand)) := by
        refine reads_bind reads_advance fun _ _ => ?_
        refine reads_bind ((hc n (Nat.le_refl n)).unary hoperand hrest (by omega))
          fun operand' hoperand' => ?_
        refine reads_bind (reads_spanFrom start) fun _ _ => reads_pure ?_
        simp_all only [Node.Alike, Node.erase]
      refine reads_bind (reads_check _) fun yes _ => ?_
      split
      · exact reads_bind (reads_require rfl start) fun _ _ => happly
      · exact happly
  | @binary _ _ _ _ _ _ _ op _ _ hlevel =>
      have hsmall : op.precedence < Binding.unary := by cases op <;> decide
      exact absurd hlevel (Nat.not_le_of_lt hsmall)
  | ternary hlevel => exact absurd hlevel (by decide)
  | elvis hlevel => exact absurd hlevel (by decide)
  | coalesce hlevel => exact absurd hlevel (by decide)
  | assign hlevel => exact absurd hlevel (by decide)
  | lambda hlevel => exact absurd hlevel (by decide)

/-- From any tree alike to `t` the binary operators go on to what `holds`. -/
def Climbs (σ : Frame) (n least : Nat) (rest rest' : List Word) (holds : Node → Prop)
    (t : Node) : Prop :=
  ∀ m start left, m ≤ n → rest.length ≤ m + 1 → left.Alike t →
    Reads σ ((upTo m).climb least start left) rest rest' holds

/-- Before a binary operator that binds tightly enough the climb stands at its left
operand. -/
theorem Climbs.binary (hL : Lambdas L) (hc : ∀ m ≤ n, Complete σ L m) {least : Nat}
    {us rest' : List Word} {w : Word} {holds : Node → Prop} {symbol : String} {arity : Nat}
    {op : BinaryOp} {left right : Node} {span : Span}
    (h : Climbs σ n least rest rest' holds (binaryNode span op left right))
    (hw : w.after? = some ⟨symbol, arity, op.precedence, .binary op⟩)
    (hleast : least ≤ op.precedence) (hright : Spells L (op.precedence + 1) us right)
    (hrest : Stops (op.precedence + 1) rest) :
    Climbs σ n least (w :: (us ++ rest)) rest' holds left := by
  intro m start left' hm hlen hleft
  have hlow : Binding.disjunction ≤ op.precedence + 1 := by cases op <;> decide
  have hhigh : op.precedence + 1 ≤ Binding.unary := by cases op <;> decide
  have hpos := (hright.opens hL.opens).length_pos
  simp only [List.length_cons, List.length_append] at hlen
  have happly : Reads σ (do
      let _ ← Parse.advance
      let right ← (upTo m).binary (op.precedence + 1)
      (upTo m).binaryTail least start (binaryNode (← Parse.spanFrom start) op left' right))
      (w :: (us ++ rest)) rest' holds := by
    refine reads_bind reads_advance fun _ _ => ?_
    refine reads_bind ((hc m hm).binary hlow hhigh hright hrest (by omega))
      fun right' hright' => ?_
    refine reads_bind (reads_spanFrom start) fun span' _ => ?_
    obtain ⟨m, rfl⟩ : ∃ j, m = j + 1 := ⟨m - 1, by omega⟩
    refine h m start _ (by omega) (by omega) ?_
    by_cases hrange : op = .range
    · simp_all only [binaryNode, Node.Alike, Node.erase, if_true]
    · simp_all only [binaryNode, Node.Alike, Node.erase, if_false]
  unfold climb
  refine reads_bind reads_afterOperand fun row hrow => ?_
  obtain rfl : row = some ⟨symbol, arity, op.precedence, .binary op⟩ := hrow.trans hw
  dsimp only
  rw [if_neg (Nat.not_lt_of_le hleast)]
  refine reads_bind reads_currentKind fun kind _ => ?_
  split
  · refine reads_bind reads_currentSpan fun span' _ => ?_
    exact reads_bind (reads_require rfl span') fun _ _ => happly
  · exact happly

/-- **Binary operators are read.**  What comes after the operation spelled is left
to the climb. -/
theorem reads_climb (hL : Lambdas L) (hc : ∀ m ≤ n, Complete σ L m) {least level : Nat}
    {rest' : List Word} {holds : Node → Prop} (h : Spells L level ws t)
    (hlow : Binding.disjunction ≤ level) (hhigh : level ≤ Binding.unary) (hleast : least ≤ level)
    (hrest : Stops (level + 1) rest) (hrest' : Stops Binding.unary rest)
    (hlen : ws.length + rest.length ≤ n + 1) (htail : Climbs σ n least rest rest' holds t) :
    Reads σ ((upTo n).binaryLevel least) (ws ++ rest) rest' holds := by
  induction hk : ws.length using Nat.strongRecOn generalizing ws rest t level with
  | _ k ih =>
    have hunary : Spells L Binding.unary ws t →
        Reads σ ((upTo n).binaryLevel least) (ws ++ rest) rest' holds := by
      intro h
      unfold binaryLevel
      refine reads_bind reads_currentSpan fun start _ => ?_
      refine reads_bind (reads_unary hL hc h hrest' hlen) fun left hleft => ?_
      exact htail n start left (Nat.le_refl n) (by omega) hleft
    cases h with
    | atom _ h => exact hunary (.atom (by decide) h)
    | access _ h => exact hunary (.access (by decide) h)
    | step _ hs htarget hassignable hold =>
        exact hunary (.step (Nat.le_refl _) hs htarget hassignable hold)
    | unary _ hs hw hoperand => exact hunary (.unary (Nat.le_refl _) hs hw hoperand)
    | @binary _ ws us w symbol arity span op left right hlevel hs hw hleft hright =>
        have hbinary : Binding.disjunction ≤ op.precedence ∧ op.precedence < Binding.unary := by
          cases op <;> decide
        have hreach : w.reach = op.precedence := reach_of_after hs hw
        have hnext : Stops (op.precedence + 1) rest := hrest.mono (Nat.succ_le_succ hlevel)
        simp only [List.length_append, List.length_cons] at hk hlen
        rw [List.append_assoc]
        exact ih ws.length (by omega) hleft hbinary.1 (Nat.le_of_lt hbinary.2)
          (Nat.le_trans hleast hlevel) ⟨hs, by omega⟩ ⟨hs, by omega⟩
          (by simp only [List.length_append, List.length_cons, List.cons_append]; omega)
          (htail.binary hL hc hw (Nat.le_trans hleast hlevel) hright hnext) rfl
    | ternary hlevel => exact absurd (Nat.le_trans hlow hlevel) (by decide)
    | elvis hlevel => exact absurd (Nat.le_trans hlow hlevel) (by decide)
    | coalesce hlevel => exact absurd (Nat.le_trans hlow hlevel) (by decide)
    | assign hlevel => exact absurd (Nat.le_trans hlow hlevel) (by decide)
    | lambda hlevel => exact absurd (Nat.le_trans hlow hlevel) (by decide)

/-- Binary operators from some binding power on are read. -/
theorem reads_binary (hL : Lambdas L) (hc : ∀ m ≤ n, Complete σ L m) {least : Nat}
    (hlow : Binding.disjunction ≤ least) (hhigh : least ≤ Binding.unary)
    (h : Spells L least ws t) (hrest : Stops least rest)
    (hlen : ws.length + rest.length ≤ n + 1) :
    Reads σ ((upTo n).binaryLevel least) (ws ++ rest) rest (Node.Alike · t) := by
  refine reads_climb hL hc h hlow hhigh (Nat.le_refl _) (hrest.mono (Nat.le_succ _))
    (hrest.mono hhigh) hlen fun m start left _ _ hleft => ?_
  refine (reads_climb_stop hrest).imp fun found hfound => ?_
  rw [hfound]
  exact hleft

/-- Conditional forms are read. -/
theorem reads_conditional (hL : Lambdas L) (hc : ∀ m ≤ n, Complete σ L m)
    (h : Spells L Binding.conditional ws t) (hrest : Stops Binding.conditional rest)
    (hlen : ws.length + rest.length ≤ n + 1) :
    Reads σ (upTo n).conditionalLevel (ws ++ rest) rest (Node.Alike · t) := by
  have hlast := hc n (Nat.le_refl n)
  have hplain : Spells L Binding.disjunction ws t →
      Reads σ (upTo n).conditionalLevel (ws ++ rest) rest (Node.Alike · t) := by
    intro h
    have hrest' : Stops Binding.disjunction rest := hrest.mono (by decide)
    exact reads_conditional_of_binary
      (reads_binary hL hc (Nat.le_refl _) (by decide) h hrest' hlen) hrest
  cases h with
  | atom _ h => exact hplain (.atom (by decide) h)
  | access _ h => exact hplain (.access (by decide) h)
  | step _ hs htarget hassignable hold =>
      exact hplain (.step (by decide) hs htarget hassignable hold)
  | unary _ hs hw hoperand => exact hplain (.unary (by decide) hs hw hoperand)
  | @binary _ _ _ _ _ _ _ op _ _ _ hs hw hleft hright =>
      have hbinary : Binding.disjunction ≤ op.precedence := by cases op <;> decide
      exact hplain (.binary hbinary hs hw hleft hright)
  | @ternary _ ws us vs span cond thenBranch elseBranch _ hcond hthen helse =>
      simp only [List.length_append, List.length_cons] at hlen
      simp only [List.cons_append, List.append_assoc]
      unfold conditionalLevel
      refine reads_bind reads_currentSpan fun start _ => ?_
      refine reads_bind (reads_binary hL hc (Nat.le_refl _) (by decide) hcond ⟨rfl, by decide⟩
        (by simp only [List.length_append, List.length_cons]; omega)) fun cond' hcond' => ?_
      refine reads_bind reads_currentKind fun kind hkind => ?_
      obtain rfl : kind = .symbol .question := hkind
      refine reads_bind reads_advance fun _ _ => ?_
      have hne := (hthen.opens hL.opens).headKind_ne (.symbol .colon) rfl
        (sign .colon :: (vs ++ rest))
      refine reads_bind (reads_eat_not hne) fun yes hyes => ?_
      subst hyes
      refine reads_bind (hlast.expr hthen ⟨rfl, by decide⟩
        (by simp only [List.length_append, List.length_cons]; omega)) fun then' hthen' => ?_
      refine reads_bind (reads_expect rfl) fun _ _ => ?_
      refine reads_bind (hlast.conditional helse hrest (by omega)) fun else' helse' => ?_
      refine reads_bind (reads_spanFrom start) fun _ _ => reads_pure ?_
      simp_all only [Node.Alike, Node.erase]
  | @elvis _ ws us span left right _ hleft hright =>
      simp only [List.length_append, List.length_cons] at hlen
      simp only [List.cons_append, List.append_assoc]
      unfold conditionalLevel
      refine reads_bind reads_currentSpan fun start _ => ?_
      refine reads_bind (reads_binary hL hc (Nat.le_refl _) (by decide) hleft ⟨rfl, by decide⟩
        (by simp only [List.length_append, List.length_cons]; omega)) fun left' hleft' => ?_
      refine reads_bind reads_currentKind fun kind hkind => ?_
      obtain rfl : kind = .symbol .question := hkind
      refine reads_bind reads_advance fun _ _ => ?_
      refine reads_bind (reads_eat rfl) fun yes hyes => ?_
      subst hyes
      refine reads_bind (hlast.conditional hright hrest (by omega)) fun right' hright' => ?_
      refine reads_bind (reads_spanFrom start) fun _ _ => reads_pure ?_
      simp_all only [Node.Alike, Node.erase]
  | @coalesce _ ws us span left right _ hleft hright =>
      simp only [List.length_append, List.length_cons] at hlen
      simp only [List.cons_append, List.append_assoc]
      unfold conditionalLevel
      refine reads_bind reads_currentSpan fun start _ => ?_
      refine reads_bind (reads_binary hL hc (Nat.le_refl _) (by decide) hleft ⟨rfl, by decide⟩
        (by simp only [List.length_append, List.length_cons]; omega)) fun left' hleft' => ?_
      refine reads_bind reads_currentKind fun kind hkind => ?_
      obtain rfl : kind = .symbol .questionQuestion := hkind
      refine reads_bind reads_advance fun _ _ => ?_
      refine reads_bind (hlast.conditional hright hrest (by omega)) fun right' hright' => ?_
      refine reads_bind (reads_spanFrom start) fun _ _ => reads_pure ?_
      simp_all only [Node.Alike, Node.erase]
  | assign hlevel => exact absurd hlevel (by decide)
  | lambda hlevel => exact absurd hlevel (by decide)

/-- A function literal is read where an assignment is. -/
theorem reads_assignment_of_lambda (hL : Lambdas L) (h : L ws t)
    (hrest : Stops Binding.assignment rest) (hlen : ws.length + rest.length ≤ n + 1) :
    Reads σ (upTo n).assignmentLevel (ws ++ rest) rest (Node.Alike · t) := by
  have hbefore : ((ws ++ rest).headD final).before? = none := by
    obtain ⟨us, rfl⟩ := hL.opens ws t h
    rfl
  have hchain := reads_chain_of_primary (hL.reads (σ := σ) h hrest hlen)
    (hrest.mono (by decide))
  have hstops : Stops Binding.disjunction rest := hrest.mono (by decide)
  have hbinary := reads_binary_of_unary (reads_unary_of_chain hbefore hchain) hstops
  exact reads_assignment_of_conditional
    (reads_conditional_of_binary hbinary (hrest.mono (by decide))) hrest

/-- **Assignments are read**, and with them expressions of every form. -/
theorem reads_assignment (hL : Lambdas L) (hc : ∀ m ≤ n, Complete σ L m)
    (h : Spells L Binding.assignment ws t) (hrest : Stops Binding.assignment rest)
    (hlen : ws.length + rest.length ≤ n + 1) :
    Reads σ (upTo n).assignmentLevel (ws ++ rest) rest (Node.Alike · t) := by
  have hplain : Spells L Binding.conditional ws t →
      Reads σ (upTo n).assignmentLevel (ws ++ rest) rest (Node.Alike · t) := by
    intro h
    exact reads_assignment_of_conditional
      (reads_conditional hL hc h (hrest.mono (by decide)) hlen) hrest
  cases h with
  | atom _ h => exact hplain (.atom (by decide) h)
  | access _ h => exact hplain (.access (by decide) h)
  | step _ hs htarget hassignable hold =>
      exact hplain (.step (by decide) hs htarget hassignable hold)
  | unary _ hs hw hoperand => exact hplain (.unary (by decide) hs hw hoperand)
  | @binary _ _ _ _ _ _ _ op _ _ _ hs hw hleft hright =>
      have hbinary : Binding.conditional ≤ op.precedence := by cases op <;> decide
      exact hplain (.binary hbinary hs hw hleft hright)
  | ternary _ hcond hthen helse => exact hplain (.ternary (Nat.le_refl _) hcond hthen helse)
  | elvis _ hleft hright => exact hplain (.elvis (Nat.le_refl _) hleft hright)
  | coalesce _ hleft hright => exact hplain (.coalesce (Nat.le_refl _) hleft hright)
  | @assign _ ws us span target value _ htarget hassignable hvalue =>
      simp only [List.length_append, List.length_cons] at hlen
      simp only [List.cons_append, List.append_assoc]
      unfold assignmentLevel
      refine reads_bind reads_currentSpan fun start _ => ?_
      refine reads_bind (reads_conditional hL hc htarget ⟨rfl, by decide⟩
        (by simp only [List.length_append, List.length_cons]; omega)) fun target' htarget' => ?_
      refine reads_bind reads_afterOperand fun row hrow => ?_
      obtain rfl : row = some ⟨"=", 2, Binding.assignment, .assign⟩ := hrow
      unfold assignmentTail
      refine reads_bind reads_currentSpan fun place _ => ?_
      refine reads_bind (reads_require rfl place) fun _ _ => ?_
      rw [htarget'.isAssignable_eq, hassignable]
      refine reads_bind reads_advance fun _ _ => ?_
      refine reads_bind ((hc n (Nat.le_refl n)).assignment hvalue hrest (by omega))
        fun value' hvalue' => ?_
      refine reads_bind (reads_spanFrom start) fun _ _ => reads_pure ?_
      simp_all only [Node.Alike, Node.erase]
  | lambda _ h => exact reads_assignment_of_lambda hL h hrest hlen

/-! ## Sequences of operands -/

/-- Operands up to a closing parenthesis are read. -/
theorem reads_argumentList (hL : Lambdas L) (hc : ∀ m ≤ n, Complete σ L m) {ts : List Node}
    (h : SpellsAll L ws (t :: ts)) (hlen : ws.length + 1 + rest.length ≤ n + 1) :
    Reads σ (upTo n).argumentList (ws ++ sign .rparen :: rest) rest
      (Node.AlikeAll · (t :: ts)) := by
  cases h with
  | @cons ws us _ _ hfirst hothers =>
      have hstops : Stops Binding.assignment (us ++ sign .rparen :: rest) :=
        hothers.stops (by decide) ⟨rfl, by decide⟩
      simp only [List.length_append] at hlen
      rw [List.append_assoc]
      unfold argumentList
      refine reads_bind (reads_assignment hL hc hfirst hstops (by simp; omega))
        fun first hfirst' => ?_
      cases hothers with
      | nil =>
          refine reads_bind (reads_eat_not nofun) fun yes hyes => ?_
          subst hyes
          exact reads_bind (reads_expect rfl) fun _ _ => reads_pure (.cons hfirst' rfl)
      | @cons vs us next others hnext hothers =>
          simp only [List.length_append, List.length_cons] at hlen
          refine reads_bind (reads_eat rfl) fun yes hyes => ?_
          subst hyes
          refine reads_bind ((hc n (Nat.le_refl n)).arguments (.cons hnext hothers)
            (by simp only [List.length_append]; omega)) fun others' hothers' => ?_
          exact reads_pure (.cons hfirst' hothers')

/-- Items before a closing bracket are read. -/
theorem reads_itemList (hL : Lambdas L) (hc : ∀ m ≤ n, Complete σ L m) {ts : List Node}
    (h : SpellsAll L ws ts) (hlen : ws.length + 1 + rest.length ≤ n + 1) :
    Reads σ (upTo n).itemList (ws ++ sign .rbracket :: rest) (sign .rbracket :: rest)
      (Node.AlikeAll · ts) := by
  unfold itemList
  cases h with
  | nil =>
      refine reads_bind (reads_check _) fun yes hyes => ?_
      obtain rfl : yes = true := hyes
      exact reads_pure rfl
  | @cons ws us t ts hfirst hothers =>
      have hstops : Stops Binding.assignment (us ++ sign .rbracket :: rest) :=
        hothers.stops (by decide) ⟨rfl, by decide⟩
      have hne := (hfirst.opens hL.opens).headKind_ne (.symbol .rbracket) rfl
        (us ++ sign .rbracket :: rest)
      simp only [List.length_append] at hlen
      rw [List.append_assoc]
      refine reads_bind (reads_check _) fun yes hyes => ?_
      obtain rfl : yes = false := hyes.trans (decide_eq_false hne)
      refine reads_bind (reads_assignment hL hc hfirst hstops (by simp; omega))
        fun first hfirst' => ?_
      cases hothers with
      | nil =>
          refine reads_bind (reads_eat_not nofun) fun yes hyes => ?_
          subst hyes
          exact reads_pure (.cons hfirst' rfl)
      | @cons vs us next others hnext hothers =>
          simp only [List.length_append, List.length_cons] at hlen
          refine reads_bind (reads_eat rfl) fun yes hyes => ?_
          subst hyes
          refine reads_bind ((hc n (Nat.le_refl n)).items (.cons hnext hothers)
            (by simp only [List.length_append]; omega)) fun others' hothers' => ?_
          exact reads_pure (.cons hfirst' hothers')

/-- More items of a set are read. -/
theorem reads_setTail (hL : Lambdas L) (hc : Complete σ L n) {ts : List Node}
    (h : SpellsTail L ws ts) (hlen : ws.length + 1 + rest.length ≤ n + 1) :
    Reads σ (upTo n).setTail (ws ++ sign .rbrace :: rest) (sign .rbrace :: rest)
      (Node.AlikeAll · ts) := by
  unfold setTail
  cases h with
  | nil =>
      refine reads_bind (reads_eat_not nofun) fun yes hyes => ?_
      subst hyes
      exact reads_pure rfl
  | @cons ws us t ts hfirst hothers =>
      have hstops : Stops Binding.assignment (us ++ sign .rbrace :: rest) :=
        hothers.stops (by decide) ⟨rfl, by decide⟩
      have hne := (hfirst.opens hL.opens).headKind_ne (.symbol .rbrace) rfl
        (us ++ sign .rbrace :: rest)
      simp only [List.length_append, List.length_cons] at hlen
      simp only [List.cons_append, List.append_assoc]
      refine reads_bind (reads_eat rfl) fun yes hyes => ?_
      subst hyes
      refine reads_bind (reads_check _) fun yes hyes => ?_
      obtain rfl : yes = false := hyes.trans (decide_eq_false hne)
      refine reads_bind (hc.expr hfirst hstops (by simp; omega)) fun first hfirst' => ?_
      refine reads_bind (hc.moreItems hothers (by omega)) fun others' hothers' => ?_
      exact reads_pure (.cons hfirst' hothers')

/-- More entries of a map are read. -/
theorem reads_mapTail (hL : Lambdas L) (hc : Complete σ L n) {entries : List (Node × Node)}
    (h : SpellsEntries L ws entries) (hlen : ws.length + 1 + rest.length ≤ n + 1) :
    Reads σ (upTo n).mapTail (ws ++ sign .rbrace :: rest) (sign .rbrace :: rest)
      (Node.AlikeEntries · entries) := by
  unfold mapTail
  cases h with
  | nil =>
      refine reads_bind (reads_eat_not nofun) fun yes hyes => ?_
      subst hyes
      exact reads_pure rfl
  | @cons ws us vs key value entries hkey hvalue hothers =>
      have hstops : Stops Binding.assignment (vs ++ sign .rbrace :: rest) :=
        hothers.stops (by decide) ⟨rfl, by decide⟩
      have hne := (hkey.opens hL.opens).headKind_ne (.symbol .rbrace) rfl
        (sign .colon :: (us ++ (vs ++ sign .rbrace :: rest)))
      simp only [List.length_append, List.length_cons] at hlen
      simp only [List.cons_append, List.append_assoc]
      refine reads_bind (reads_eat rfl) fun yes hyes => ?_
      subst hyes
      refine reads_bind (reads_check _) fun yes hyes => ?_
      obtain rfl : yes = false := hyes.trans (decide_eq_false hne)
      refine reads_bind (hc.expr hkey ⟨rfl, by decide⟩ (by simp; omega)) fun key' hkey' => ?_
      refine reads_bind (reads_expect rfl) fun _ _ => ?_
      refine reads_bind (hc.expr hvalue hstops (by simp; omega)) fun value' hvalue' => ?_
      refine reads_bind (hc.moreEntries hothers (by omega)) fun others' hothers' => ?_
      exact reads_pure (.cons hkey' hvalue' hothers')

/-- **As many requests as words are enough.** -/
theorem complete (hL : Lambdas L) (n : Nat) : Complete σ L n := by
  induction n using Nat.strongRecOn with
  | _ n ih =>
    cases n with
    | zero =>
        have hpos : ∀ {level : Nat} {ws rest : List Word} {t : Node}, Spells L level ws t →
            ¬ws.length + rest.length ≤ 0 := by
          intro level ws rest t h hle
          have := (h.opens hL.opens).length_pos
          omega
        exact
          { expr := fun h _ hlen => (hpos h hlen).elim
            assignment := fun h _ hlen => (hpos h hlen).elim
            conditional := fun h _ hlen => (hpos h hlen).elim
            binary := fun _ _ h _ hlen => (hpos h hlen).elim
            unary := fun h _ hlen => (hpos h hlen).elim
            arguments := fun _ hlen => by omega
            items := fun _ hlen => by omega
            moreItems := fun _ hlen => by omega
            moreEntries := fun _ hlen => by omega }
    | succ n =>
        have hc : ∀ m ≤ n, Complete σ L m := fun m hm => ih m (by omega)
        have hlast := hc n (Nat.le_refl n)
        exact
          { expr := fun h hrest hlen => reads_assignment hL hc h hrest hlen
            assignment := fun h hrest hlen => reads_assignment hL hc h hrest hlen
            conditional := fun h hrest hlen => reads_conditional hL hc h hrest hlen
            binary := fun hlow hhigh h hrest hlen => reads_binary hL hc hlow hhigh h hrest hlen
            unary := fun h hrest hlen => reads_unary hL hc h hrest hlen
            arguments := fun h hlen => reads_argumentList hL hc h hlen
            items := fun h hlen => reads_itemList hL hc h hlen
            moreItems := fun h hlen => reads_setTail hL hlast h hlen
            moreEntries := fun h hlen => reads_mapTail hL hlast h hlen }

end Levels

/-! ## Whole expressions -/

/-- The end of the input is where expressions end. -/
theorem reads_end {σ : Frame} {rest : List Word} (hrest : headKind rest = .eof) (n : Nat)
    {t : Node} :
    Reads σ (do
      Parse.semicolons n
      Parse.expectEnd
      return t) rest rest (· = t) := by
  have hsemicolons : Reads σ (Parse.semicolons n) rest rest (fun _ => True) := by
    cases n with
    | zero => exact reads_pure trivial
    | succ n =>
        refine reads_bind (reads_eat_not (hrest ▸ nofun)) fun yes hyes => ?_
        subst hyes
        exact reads_pure trivial
  refine reads_bind hsemicolons fun _ _ => ?_
  have hend : Reads σ Parse.expectEnd rest rest (fun _ => True) := by
    refine reads_bind reads_cursor fun c hc => ?_
    have hkind : c.currentKind = .eof := (current_kind hc).trans hrest
    rw [show c.isAtEnd = true from decide_eq_true hkind]
    exact reads_pure trivial
  exact reads_bind hend fun _ _ => reads_pure rfl

/-- A spelling with the end of the input after it is read as a whole. -/
theorem reads_wholeExpression {σ : Frame} {L : List Word → Node → Prop} (hL : Lambdas L)
    {ws rest : List Word} {t : Node} (h : Spells L Binding.assignment ws t)
    (hstops : Stops Binding.assignment rest) (hrest : headKind rest = .eof) {n : Nat}
    (hlen : ws.length + rest.length ≤ n) :
    Reads σ (wholeExpression n) (ws ++ rest) rest (Node.Alike · t) := by
  refine reads_bind ((complete hL n).expr h hstops hlen) fun read hread => ?_
  refine (reads_end hrest n).imp fun found hfound => ?_
  rw [hfound]
  exact hread

/-- Valid words come from tokens without errors. -/
theorem firstError_eq_none {tokens : List Token}
    (h : ∀ w ∈ tokens.map Token.word, w.Valid) : Token.firstError? tokens = none := by
  unfold Token.firstError?
  rw [List.findSome?_eq_none_iff]
  intro token htoken
  have hvalid := h token.word (List.mem_map_of_mem htoken)
  have hnone : token.lexError? = none := by
    unfold Token.lexError?
    split
    case h_1 reason hkind => exact (hvalid reason hkind).elim
    case h_2 => rfl
  rw [hnone]
  rfl

end ScriptEngine.Grammar

namespace ScriptEngine.Node

/-- **A spelling is read as the tree it spells**, up to places. -/
theorem ofExpression_of_spells {L : List Word → Node → Prop} (hL : Grammar.Lambdas L)
    {tokens : List Token} {ws : List Word} {t : Node} (h : Spells L Binding.assignment ws t)
    (hwords : tokens.map Token.word = ws ++ [Word.final]) (unit : Nat) :
    ∃ read, Node.ofExpression ⟨.standard, unit⟩ tokens = .ok read ∧ read.Alike t := by
  let σ : Frame := ⟨⟨.standard, unit⟩, 0, [], rfl⟩
  have hlength : ws.length + 1 = tokens.length := by
    have := congrArg List.length hwords
    simpa using this.symm
  have hvalid : ∀ w ∈ tokens.map Token.word, w.Valid := by
    rw [hwords]
    exact Word.Valid.append (h.valid hL.valid) (Word.Valid.cons nofun Word.Valid.nil)
  have hstops : Word.Stops Binding.assignment [Word.final] := ⟨trivial, by decide⟩
  have hwhole : Reads σ (Grammar.wholeExpression (tokens.length + 2)) (ws ++ [Word.final])
      [Word.final] (Node.Alike · t) :=
    Grammar.reads_wholeExpression hL h hstops rfl (by simp; omega)
  obtain ⟨read, p, hrun, -, hread⟩ := hwhole (Parse.start tokens) ⟨hwords, rfl, rfl⟩
  refine ⟨read, ?_, hread⟩
  unfold ofExpression ofTokens
  rw [Grammar.firstError_eq_none hvalid]
  show (Grammar.wholeExpression (tokens.length + 2) σ.dialect (Parse.start tokens)).map (·.1) = _
  rw [hrun]
  rfl

end ScriptEngine.Node

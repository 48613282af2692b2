import ScriptEngine.Proofs.ReadingStatements

/-!
# Reading loops

The four loops are read back from their words.  What the head of a counting loop starts with
is no head of a loop over a collection, which the grammar looks for first.  The body of a loop
that tests last has to end where `while` comes, with no semicolon left over.

* `recites_whileLoop`, `recites_doWhile` — loops with a condition only;
* `recites_forLoop`, `recites_foreach` — loops with a head.
-/

namespace ScriptEngine.Grammar

open Word

variable {L : List Word → Node → Prop} {inLoop : Bool} {loose n : Nat} {σ : Frame}
variable {cs ws us rest : List Word} {t cond body : Node} {span : Span}

/-! ## Loops with a condition only -/

theorem recites_whileLoop (hL : Lambdas L) (hcond : Spells L Binding.assignment cs cond)
    (hbody : Recites true loose ws body) :
    Recites inLoop loose (reserved .kwWhile :: sign .lparen :: (cs ++ sign .rparen :: ws))
      (.whileLoop span cond body) where
  valid := Valid.cons (valid_reserved _) (Valid.cons (valid_sign _)
    (Valid.append (hcond.valid hL.valid) (Valid.cons (valid_sign _) hbody.valid)))
  starts := rfl
  loose_lt := by
    have := hbody.loose_lt
    simp only [List.length_cons, List.length_append]
    omega
  reads := by
    intro σ n rest _ hhangs hlen
    simp only [List.length_cons, List.length_append] at hlen
    simp only [List.cons_append, List.append_assoc]
    have hread : Reads σ (upTo n).whileStatement
        (reserved .kwWhile :: sign .lparen :: (cs ++ sign .rparen :: (ws ++ rest)))
        (List.replicate loose (sign .semicolon) ++ rest)
        (Node.Alike · (.whileLoop span cond body)) := by
      refine reads_bind reads_currentSpan fun start _ => ?_
      refine reads_bind (reads_require rfl start) fun _ _ => ?_
      refine reads_bind reads_advance fun _ _ => ?_
      refine reads_bind (reads_condition hL hcond (by simp; omega)) fun cond' hcond' => ?_
      refine reads_bind (reads_inLoop (hbody.reads_body (fun _ => Nat.succ_pos _) hhangs
        (by omega))) fun body' hbody' => ?_
      refine reads_bind (reads_spanFrom start) fun _ _ => reads_pure ?_
      simp_all only [Node.Alike, Node.erase]
    refine reads_bind reads_currentKind fun kind hkind => ?_
    obtain rfl : kind = .keyword .kwWhile := hkind
    exact reads_map hread fun _ hnode => hnode.some

/-- The body of a loop that tests last leaves no semicolon over. -/
theorem recites_doWhile (hL : Lambdas L) (hcond : Spells L Binding.assignment cs cond)
    (hbody : Recites true 0 ws body) :
    Recites inLoop 0
      (reserved .kwDo :: (ws ++ reserved .kwWhile :: sign .lparen ::
        (cs ++ [sign .rparen, sign .semicolon])))
      (.doWhile span body cond) where
  valid := Valid.cons (valid_reserved _) (Valid.append hbody.valid (Valid.cons (valid_reserved _)
    (Valid.cons (valid_sign _) (Valid.append (hcond.valid hL.valid)
      (Valid.cons (valid_sign _) (Valid.cons (valid_sign _) Valid.nil))))))
  starts := rfl
  loose_lt := Nat.succ_pos _
  reads := by
    intro σ n rest _ _ hlen
    simp only [List.length_cons, List.length_append, List.length_nil] at hlen
    simp only [List.cons_append, List.append_assoc, List.nil_append]
    have hread : Reads σ (upTo n).doStatement
        (reserved .kwDo :: (ws ++ reserved .kwWhile :: sign .lparen ::
          (cs ++ sign .rparen :: sign .semicolon :: rest))) rest
        (Node.Alike · (.doWhile span body cond)) := by
      refine reads_bind reads_currentSpan fun start _ => ?_
      refine reads_bind (reads_require rfl start) fun _ _ => ?_
      refine reads_bind reads_advance fun _ _ => ?_
      refine reads_bind (reads_inLoop (hbody.reads_body (fun _ => Nat.succ_pos _)
        (fun _ => ⟨nofun, nofun⟩) (by simp; omega))) fun body' hbody' => ?_
      refine reads_bind (reads_expect rfl) fun _ _ => ?_
      refine reads_bind (reads_condition hL hcond (by simp; omega)) fun cond' hcond' => ?_
      refine reads_bind reads_endSimple fun _ _ => ?_
      refine reads_bind (reads_spanFrom start) fun _ _ => reads_pure ?_
      simp_all only [Node.Alike, Node.erase]
    refine reads_bind reads_currentKind fun kind hkind => ?_
    obtain rfl : kind = .keyword .kwDo := hkind
    exact reads_map hread fun _ hnode => hnode.some

/-! ## Loops with a head -/

/-- What a counting loop starts with is no head of a loop over a collection. -/
theorem reads_foreachAhead_start {start : Option Node} (hL : Lambdas L)
    (h : SpellsStart L ws start) :
    Reads σ foreachAhead (ws ++ sign .semicolon :: rest) (ws ++ sign .semicolon :: rest)
      (· = false) := by
  refine reads_bind (reads_peek 0) fun first hfirst => ?_
  refine reads_bind (reads_peek 1) fun second hsecond => ?_
  refine reads_bind (reads_peek 2) fun third hthird => ?_
  cases h with
  | none =>
      subst hfirst
      exact reads_pure rfl
  | expression h =>
      have hopens := h.opens hL.opens
      rw [List.drop_zero] at hfirst
      split
      · exact absurd hfirst.symm (hopens.headKind_ne _ rfl _)
      · rename_i name
        refine reads_pure (decide_eq_false fun hcolon => ?_)
        cases ws with
        | nil => exact hopens
        | cons w ws =>
            have hseparates := hopens.2.1 name hfirst.symm
            cases ws with
            | nil => exact nomatch hsecond.symm.trans hcolon
            | cons w' ws =>
                rw [show headKind (w' :: ws) = .symbol .colon from hsecond.symm.trans hcolon]
                  at hseparates
                cases hseparates
      · exact reads_pure rfl
  | var h =>
      subst hfirst hsecond hthird
      cases h <;> exact reads_pure rfl

/-- An expression in front of what closes it, if it is there. -/
theorem reads_optionalExpression {value : Option Node} {closing : Symbol} (hL : Lambdas L)
    (h : SpellsOption L [] ws value)
    (hclosing : (TokenKind.symbol closing).startsExpression = false)
    (hstops : Stops Binding.assignment (sign closing :: rest))
    (hlen : ws.length + 1 + rest.length ≤ n) :
    Reads σ ((upTo n).optionalExpr (.symbol closing)) (ws ++ sign closing :: rest)
      (sign closing :: rest) (Node.AlikeOption · value) := by
  refine reads_bind (reads_check _) fun yes hyes => ?_
  cases h with
  | none =>
      obtain rfl : yes = true := hyes.trans (decide_eq_true rfl)
      exact reads_pure rfl
  | @some ws t h =>
      have hne := (h.opens hL.opens).headKind_ne (.symbol closing) hclosing (sign closing :: rest)
      obtain rfl : yes = false := hyes.trans (decide_eq_false hne)
      exact reads_someExpression hL h hstops (by simp at hlen ⊢; omega)

/-- What a counting loop starts with. -/
theorem reads_loopStart {start : Option Node} (hL : Lambdas L) (h : SpellsStart L ws start)
    (hlen : ws.length + 1 + rest.length ≤ n) :
    Reads σ (upTo n).loopStart (ws ++ sign .semicolon :: rest) (sign .semicolon :: rest)
      (Node.AlikeOption · start) := by
  have hoptional (hvar : headKind (ws ++ sign .semicolon :: rest) ≠ .keyword .kwVar)
      (h : SpellsOption L [] ws start) :
      Reads σ (upTo n).loopStart (ws ++ sign .semicolon :: rest) (sign .semicolon :: rest)
        (Node.AlikeOption · start) := by
    refine reads_bind (reads_check _) fun yes hyes => ?_
    obtain rfl : yes = false := hyes.trans (decide_eq_false hvar)
    exact reads_optionalExpression hL h rfl ⟨rfl, by decide⟩ hlen
  cases h with
  | none => exact hoptional nofun .none
  | expression h => exact hoptional ((h.opens hL.opens).headKind_ne _ rfl _) (.some h)
  | @var ws span name literal init h =>
      refine reads_bind (reads_check _) fun yes hyes => ?_
      obtain rfl : yes = true := hyes.trans (decide_eq_true rfl)
      simp only [List.length_cons] at hlen
      exact reads_map (reads_declaration hL span h (by omega)) fun _ hnode => hnode.some

/-- The head of a loop with a head, and the loop that the grammar finds behind it. -/
theorem reads_forStatement {ahead : Bool} {holds : Node → Prop}
    (hahead : Reads σ foreachAhead us us (· = ahead))
    (htail : ∀ place, Reads σ
      (if ahead then (upTo n).foreachTail place else (upTo n).countingTail place) us rest holds) :
    Reads σ (upTo n).forStatement (reserved .kwFor :: sign .lparen :: us) rest holds := by
  refine reads_bind reads_currentSpan fun place _ => ?_
  refine reads_bind (reads_require rfl place) fun _ _ => ?_
  refine reads_bind reads_advance fun _ _ => ?_
  refine reads_bind (reads_expect rfl) fun _ _ => ?_
  refine reads_inScope false (reads_bind hahead fun yes hyes => ?_)
  subst hyes
  exact htail place

/-- The rest of a counting loop. -/
theorem reads_countingTail {start condition step : Option Node} {ss cs ts : List Word}
    (hL : Lambdas L) (hstart : SpellsStart L ss start) (hcond : SpellsOption L [] cs condition)
    (hstep : SpellsOption L [] ts step) (hbody : Recites true loose ws body)
    (hhangs : body.hangs = true → NoElse rest)
    (hlen : ss.length + cs.length + ts.length + ws.length + 3 + rest.length ≤ n) (place : Span) :
    Reads σ ((upTo n).countingTail place)
      (ss ++ sign .semicolon :: (cs ++ sign .semicolon :: (ts ++ sign .rparen :: (ws ++ rest))))
      (List.replicate loose (sign .semicolon) ++ rest)
      (Node.Alike · (.forLoop span start condition step body)) := by
  refine reads_bind (reads_loopStart hL hstart (by simp; omega)) fun start' hstart' => ?_
  refine reads_bind (reads_expect rfl) fun _ _ => ?_
  refine reads_bind (reads_optionalExpression hL hcond rfl ⟨rfl, by decide⟩ (by simp; omega))
    fun cond' hcond' => ?_
  refine reads_bind (reads_expect rfl) fun _ _ => ?_
  refine reads_bind (reads_optionalExpression hL hstep rfl ⟨rfl, by decide⟩ (by simp; omega))
    fun step' hstep' => ?_
  refine reads_bind (reads_expect rfl) fun _ _ => ?_
  refine reads_bind (reads_inLoop (hbody.reads_body (fun _ => Nat.succ_pos _) hhangs
    (by omega))) fun body' hbody' => ?_
  refine reads_bind (reads_spanFrom place) fun _ _ => reads_pure ?_
  simp_all only [Node.Alike, Node.AlikeOption, Node.erase]

theorem recites_forLoop {start condition step : Option Node} {ss cs ts : List Word}
    (hL : Lambdas L) (hstart : SpellsStart L ss start) (hcond : SpellsOption L [] cs condition)
    (hstep : SpellsOption L [] ts step) (hbody : Recites true loose ws body) :
    Recites inLoop loose
      (reserved .kwFor :: sign .lparen :: (ss ++ sign .semicolon :: (cs ++ sign .semicolon ::
        (ts ++ sign .rparen :: ws))))
      (.forLoop span start condition step body) where
  valid := Valid.cons (valid_reserved _) (Valid.cons (valid_sign _)
    (Valid.append (hstart.valid hL.valid) (Valid.cons (valid_sign _)
      (Valid.append (hcond.valid hL.valid Valid.nil) (Valid.cons (valid_sign _)
        (Valid.append (hstep.valid hL.valid Valid.nil)
          (Valid.cons (valid_sign _) hbody.valid)))))))
  starts := rfl
  loose_lt := by
    have := hbody.loose_lt
    simp only [List.length_cons, List.length_append]
    omega
  reads := by
    intro σ n rest _ hhangs hlen
    simp only [List.length_cons, List.length_append] at hlen
    simp only [List.cons_append, List.append_assoc]
    refine reads_bind reads_currentKind fun kind hkind => ?_
    obtain rfl : kind = .keyword .kwFor := hkind
    have hread : Reads σ (upTo n).forStatement _ (List.replicate loose (sign .semicolon) ++ rest)
        (Node.Alike · (.forLoop span start condition step body)) :=
      reads_forStatement (reads_foreachAhead_start hL hstart)
        (reads_countingTail hL hstart hcond hstep hbody hhangs (by omega))
    exact reads_map hread fun _ hnode => hnode.some

/-- The name in the head of a loop over a collection, with `var` before it if it is declared. -/
def foreachWords (declared : Bool) (name literal : String) : List Word :=
  (if declared then [reserved .kwVar] else []) ++ [⟨.ident name, literal⟩]

/-- A name and a colon are found ahead. -/
theorem reads_foreachAhead_name (declared : Bool) (name literal : String) :
    Reads σ foreachAhead (foreachWords declared name literal ++ sign .colon :: us)
      (foreachWords declared name literal ++ sign .colon :: us) (· = true) := by
  refine reads_bind (reads_peek 0) fun first hfirst => ?_
  refine reads_bind (reads_peek 1) fun second hsecond => ?_
  refine reads_bind (reads_peek 2) fun third hthird => ?_
  subst hfirst hsecond hthird
  cases declared <;> exact reads_pure rfl

/-- The rest of a loop over a collection. -/
theorem reads_foreachTail (declared : Bool) (name literal : String) {iterable : Node}
    (hL : Lambdas L) (hiterable : Spells L Binding.assignment cs iterable)
    (hbody : Recites true loose ws body) (hhangs : body.hangs = true → NoElse rest)
    (hlen : cs.length + ws.length + 2 + rest.length ≤ n) (place : Span) :
    Reads σ ((upTo n).foreachTail place)
      (foreachWords declared name literal ++ sign .colon :: (cs ++ sign .rparen :: (ws ++ rest)))
      (List.replicate loose (sign .semicolon) ++ rest)
      (Node.Alike · (.foreach span name declared iterable body)) := by
  have hrest : Reads σ (do
      let _ ← Parse.expect (.symbol .colon)
      let iterable ← (upTo n).expr
      let _ ← Parse.expect (.symbol .rparen)
      let body ← Parse.inLoop (upTo n).body
      return Node.foreach (← Parse.spanFrom place) name declared iterable body)
      (sign .colon :: (cs ++ sign .rparen :: (ws ++ rest)))
      (List.replicate loose (sign .semicolon) ++ rest)
      (Node.Alike · (.foreach span name declared iterable body)) := by
    refine reads_bind (reads_expect rfl) fun _ _ => ?_
    refine reads_bind ((complete hL n).expr hiterable ⟨rfl, by decide⟩ (by simp; omega))
      fun iterable' hiterable' => ?_
    refine reads_bind (reads_expect rfl) fun _ _ => ?_
    refine reads_bind (reads_inLoop (hbody.reads_body (fun _ => Nat.succ_pos _) hhangs
      (by omega))) fun body' hbody' => ?_
    refine reads_bind (reads_spanFrom place) fun _ _ => reads_pure ?_
    simp_all only [Node.Alike, Node.erase]
  unfold foreachTail
  cases declared with
  | false =>
      have hident : TokenKind.ident name ≠ .keyword .kwVar := by
        intro hkind
        cases hkind
      refine reads_bind (reads_eat_not hident) fun yes hyes => ?_
      subst hyes
      refine reads_bind (reads_expectIdent rfl) fun found hfound => ?_
      subst hfound
      exact hrest
  | true =>
      refine reads_bind (reads_eat rfl) fun yes hyes => ?_
      subst hyes
      refine reads_bind (reads_expectIdent rfl) fun found hfound => ?_
      subst hfound
      refine reads_bind (reads_require rfl found.2) fun _ _ => ?_
      exact reads_bind (reads_declare found.1 found.2) fun _ _ => hrest

theorem recites_foreach {declared : Bool} {name literal : String} {iterable : Node}
    (hL : Lambdas L) (hiterable : Spells L Binding.assignment cs iterable)
    (hbody : Recites true loose ws body) :
    Recites inLoop loose
      (reserved .kwFor :: sign .lparen :: (foreachWords declared name literal ++ sign .colon ::
        (cs ++ sign .rparen :: ws)))
      (.foreach span name declared iterable body) where
  valid := by
    have hname : ∀ w ∈ foreachWords declared name literal, w.Valid := by
      cases declared with
      | false => exact Valid.cons (valid_ident _ _) Valid.nil
      | true => exact Valid.cons (valid_reserved _) (Valid.cons (valid_ident _ _) Valid.nil)
    exact Valid.cons (valid_reserved _) (Valid.cons (valid_sign _) (Valid.append hname
      (Valid.cons (valid_sign _) (Valid.append (hiterable.valid hL.valid)
        (Valid.cons (valid_sign _) hbody.valid)))))
  starts := rfl
  loose_lt := by
    have := hbody.loose_lt
    simp only [List.length_cons, List.length_append]
    omega
  reads := by
    intro σ n rest _ hhangs hlen
    simp only [List.length_cons, List.length_append] at hlen
    simp only [List.cons_append, List.append_assoc]
    refine reads_bind reads_currentKind fun kind hkind => ?_
    obtain rfl : kind = .keyword .kwFor := hkind
    have hread : Reads σ (upTo n).forStatement _ (List.replicate loose (sign .semicolon) ++ rest)
        (Node.Alike · (.foreach span name declared iterable body)) :=
      reads_forStatement (reads_foreachAhead_name declared name literal)
        (reads_foreachTail declared name literal hL hiterable hbody hhangs (by omega))
    exact reads_map hread fun _ hnode => hnode.some

end ScriptEngine.Grammar

import ScriptEngine.Proofs.PairedReading

/-!
# Reading one expression twice

The productions of expressions keep a reading, if the requests nested in them do.  Word
operators are passed where a name is taken, or as operators where their feature allows it.

* `Reading.reads_word`, `Reading.reads_memberName` — names;
* `Reading.reads_primary`, `Reading.reads_chain` — operands and their members;
* `Reading.reads_unaryLevel`, `Reading.reads_climb`, `Reading.reads_assignmentLevel` —
  operators by their levels.
-/

namespace ScriptEngine.Reading

open Parse Grammar

variable {p : Reading} {g : Grammar} {loops : Nat} {k : Stretch} {c : Cursor} {s : Progress}

attribute [local simp] Node.children Node.needs

/-! ## Words and operators -/

/-- What stands for a name is there. -/
theorem after_ne_nil_of_name {name? : Token → Option String} {name : String} {c : Cursor}
    (hmissing : name? .missing = none) (h : name? c.current = some name) : c.after ≠ [] := by
  intro hnil
  have hcurrent : c.current = .missing := by rw [Cursor.current, hnil]; rfl
  rw [hcurrent, hmissing] at h
  cases h

/-- A word is passed where a name is taken, or if it is no operator. -/
theorem reads_word {β : Type} [Readable β] {next next' : String × Span → Parse β}
    (hname : s.cursor.takesName = true ∨ s.cursor.current.isComparatorWord = false)
    (h : s.cursor.after ≠ [] → ∀ name span,
      p.Reads loops k.pass s.advance (next (name, span)) (next' (name, span))) :
    p.Reads loops k s (word >>= next) (word >>= next') := by
  unfold word
  rw [bind_assoc, bind_assoc]
  refine reads_cursor ?_
  dsimp only
  split
  · rename_i name hfound
    have hhere : s.cursor.after ≠ [] := after_ne_nil_of_name rfl hfound
    have hpass : s.cursor.Passable p.first.features :=
      ⟨hhere, fun hop => .inr (hname.resolve_right (hop ▸ Bool.noConfusion))⟩
    rw [bind_assoc, bind_assoc]
    exact reads_advance hpass (h hhere name _)
  · exact fun _ _ => .inr rfl

theorem reads_memberName (h : s.cursor.takesName = true) :
    p.Reads loops k s memberName memberName := by
  refine reads_cursor ?_
  dsimp only
  split
  · rename_i name hname
    exact reads_advance (.of_name (after_ne_nil_of_name rfl hname) h) (reads_pure rfl nofun)
  · exact reads_currentSpan (reads_fail _ _)

theorem reads_afterOperand {β : Type} [Readable β] {next next' : Option Operator.Row → Parse β}
    (h : p.Reads loops k s (next (operatorAt Operator.afterOperand? s.cursor))
      (next' (operatorAt Operator.afterOperand? s.cursor))) :
    p.Reads loops k s (afterOperand >>= next) (afterOperand >>= next') := h

theorem reads_beforeOperand {β : Type} [Readable β] {next next' : Option Operator.Row → Parse β}
    (h : p.Reads loops k s (next (operatorAt Operator.beforeOperand? s.cursor))
      (next' (operatorAt Operator.beforeOperand? s.cursor))) :
    p.Reads loops k s (beforeOperand >>= next) (beforeOperand >>= next') := h

/-- A step goes to what can be assigned to. -/
theorem reads_stepAssign {target : Node} (op : BinaryOp) (isPostfix : Bool) {span : Span}
    (hspan : span = k.start.currentSpan.merge s.cursor.previousSpan)
    (h : (decide (0 < loops), target) ∈ k.kept) :
    p.Reads loops k s (stepAssign target op isPostfix span)
      (stepAssign (target.inUnit p.second.unit) op isPostfix span) := by
  have hpassed : k.passed = true ∨ k.kept ≠ [] := .inr (List.ne_nil_of_mem h)
  refine reads_require fun hgranted => ?_
  rw [Node.isAssignable_inUnit, Node.span_inUnit]
  split
  · rename_i hassignable
    have hone : p.Built (decide (0 < loops)) k s.cursor (.literal span (.number 1)) :=
      ⟨hspan, rfl, nofun, hpassed, by simp⟩
    refine reads_build _ hone
      (reads_build (.binary span op target (.literal span (.number 1))) ?_ ?_)
    · exact ⟨hspan, rfl, nofun, .inr (by simp), by simp [h]⟩
    · exact reads_node ⟨hspan, hassignable, by simpa, .inr (by simp), by simp [h]⟩
  · exact reads_stop _ _

/-! ## Operands -/

theorem reads_addParameter (params : List String) (name : String) (span : Span) :
    p.Reads loops k s (addParameter params name span) (addParameter params name span) := by
  unfold addParameter
  split
  · exact reads_stop _ _
  · exact reads_pure rfl nofun

/-- The current token is a literal. -/
theorem reads_literal (value : Literal) {kind : TokenKind} (hkind : s.cursor.currentKind = kind)
    (hend : kind ≠ .eof) (hword : kind.isComparatorName = false) :
    p.Reads loops k s (literal value) (literal value) := by
  refine reads_here (reads_advance (.of_kind hkind hend hword) (reads_node ?_))
  exact ⟨Cursor.span_current (hkind ▸ hend), rfl, nofun, .inl rfl, by simp⟩

section

variable (hg : g.Keeps p)

include hg

theorem reads_callArguments : p.Reads loops k s g.callArguments g.callArguments := by
  refine reads_expect nofun rfl fun _ => reads_eat nofun rfl (fun _ => ?_) fun _ => ?_
  · exact reads_pure rfl nofun
  · exact reads_last hg.arguments

theorem reads_lambdaParameters : p.Reads loops k s g.lambdaParameters g.lambdaParameters := by
  refine reads_eat nofun rfl (fun _ => ?_) fun _ => ?_
  · refine reads_eat nofun rfl (fun _ => ?_) fun _ => ?_
    · exact reads_pure rfl nofun
    · exact reads_last (hg.parameters [])
  · exact reads_bind reads_expectIdent fun (name, span) _ => reads_addParameter [] name span

/-- The body of a function is read with no loop open. -/
theorem reads_lambda : p.Reads loops k s g.lambda g.lambda := by
  refine reads_here (reads_currentSpan (reads_require fun hgranted => reads_cursor ?_))
  refine reads_bind (reads_lambdaParameters hg) fun params s₁ => ?_
  have hbody {k' : Stretch} {s' : Progress} (hstart : k'.start = s.cursor)
      (hpassed : k'.passed = true) :
      p.Reads loops k' s' (do
        let body ← inFunction do
          declareAll s.cursor.currentSpan params
          if ← check (.symbol .lbrace) then g.block else g.expr
        return Node.lambda (← spanFrom s.cursor.currentSpan)
          ⟨(← read).unit, s.cursor.position + 1⟩ params body) (do
        let body ← inFunction do
          declareAll s.cursor.currentSpan params
          if ← check (.symbol .lbrace) then g.block else g.expr
        return Node.lambda (← spanFrom s.cursor.currentSpan)
          ⟨(← read).unit, s.cursor.position + 1⟩ params body) := by
    refine reads_inFunction (fun s₂ => ?_) fun body s₂ => ?_
    · refine reads_bind (reads_declareAll _ params) fun _ s₃ => reads_check ?_
      split
      · exact reads_last hg.block
      · exact reads_last hg.expr
    · refine reads_spanFrom (reads_read (reads_node ⟨?_, rfl, ?_, .inl hpassed, ?_⟩))
      · exact hstart ▸ rfl
      · simpa using hgranted
      · simp
  refine reads_eat nofun rfl (fun _ => ?_) fun _ => ?_
  · exact hbody rfl rfl
  · exact reads_expect nofun rfl fun _ => hbody rfl rfl

theorem reads_construct (hkind : s.cursor.currentKind = .ident "new") :
    p.Reads loops k s g.construct g.construct := by
  refine reads_here (reads_currentSpan (reads_require fun hgranted => ?_))
  refine reads_advance (.of_kind hkind nofun rfl) ?_
  refine reads_bind (reads_callArguments hg) fun args s₁ => ?_
  cases args with
  | nil => exact reads_spanFrom (reads_fail _ _)
  | cons className args =>
      refine reads_spanFrom (reads_node ⟨rfl, rfl, by simpa, .inl rfl, ?_⟩)
      simp

theorem reads_array (hkind : s.cursor.currentKind = .symbol .lbracket) :
    p.Reads loops k s g.array g.array := by
  refine reads_here (reads_currentSpan (reads_require fun hgranted => ?_))
  refine reads_advance (.of_kind hkind nofun rfl) ?_
  refine reads_bind hg.items fun items s₁ => reads_expect nofun rfl fun _ => reads_spanFrom ?_
  exact reads_node ⟨rfl, rfl, by simpa, .inl rfl, by simp⟩

theorem reads_bracesTail (hgranted : p.first.features.has .structuredLiteral = true)
    {first : Node} (hfirst : (decide (0 < loops), first) ∈ k.kept) :
    p.Reads loops k s (g.bracesTail k.start.currentSpan first)
      (g.bracesTail k.start.currentSpan (first.inUnit p.second.unit)) := by
  refine reads_eat nofun rfl (fun _ => ?_) fun _ => ?_
  · refine reads_bind hg.expr fun value s₁ => reads_bind hg.moreEntries fun rest s₂ => ?_
    refine reads_expect nofun rfl fun _ => reads_spanFrom (reads_node ⟨rfl, rfl, ?_, .inl rfl, ?_⟩)
    · simpa using hgranted
    · simp only [Node.places, Node.children, Stretch.kept_pass, Stretch.kept_keep,
        Readable.trees_node, Readable.trees_entries, List.flatMap_cons]
      grind
  · refine reads_bind hg.moreItems fun rest s₁ => reads_expect nofun rfl fun _ => ?_
    refine reads_spanFrom (reads_node ⟨rfl, rfl, ?_, .inl rfl, ?_⟩)
    · simpa using hgranted
    · simp +contextual [hfirst]

theorem reads_braces (hkind : s.cursor.currentKind = .symbol .lbrace) :
    p.Reads loops k s g.braces g.braces := by
  refine reads_here (reads_currentSpan (reads_require fun hgranted => ?_))
  have hempty {s' : Progress} : p.Reads loops (Stretch.since s.cursor).pass s'
      (do return Node.map (← spanFrom s.cursor.currentSpan) [])
      (do return Node.map (← spanFrom s.cursor.currentSpan) []) :=
    reads_spanFrom (reads_node ⟨rfl, rfl, by simpa, .inl rfl, by simp⟩)
  refine reads_advance (.of_kind hkind nofun rfl) ?_
  refine reads_eat nofun rfl (fun _ => hempty) fun _ => ?_
  refine reads_check (reads_peek ?_)
  split
  · rename_i hempty'
    obtain ⟨hcolon, hbrace⟩ := Bool.and_eq_true_iff.mp hempty'
    have hcolon : s.advance.cursor.currentKind = .symbol .colon := of_decide_eq_true hcolon
    have hpass : s.advance.cursor.Passable p.first.features := .of_kind hcolon nofun rfl
    have hbrace : s.advance.advance.cursor.currentKind = .symbol .rbrace :=
      (Cursor.currentKind_advance hpass.here).trans (of_decide_eq_true hbrace)
    exact reads_advance hpass (reads_advance (.of_kind hbrace nofun rfl) hempty)
  · refine reads_bind hg.expr fun first s₁ => ?_
    exact reads_bracesTail hg hgranted (by simp)

theorem reads_primary : p.Reads loops k s g.primary g.primary := by
  refine reads_cursor ?_
  dsimp only
  split
  · rename_i hkind
    exact reads_literal _ hkind nofun rfl
  · rename_i hkind
    exact reads_literal _ hkind nofun rfl
  · rename_i hkind
    exact reads_literal _ hkind nofun rfl
  · rename_i hkind
    exact reads_literal _ hkind nofun rfl
  · rename_i hkind
    exact reads_literal _ hkind nofun rfl
  · rename_i name hkind
    refine reads_peek ?_
    split
    · rename_i hnew
      exact reads_construct hg (hnew.1 ▸ hkind)
    · split
      · exact reads_lambda hg
      · refine reads_here (reads_advance (.of_kind hkind nofun rfl) (reads_node ?_))
        have hend : s.cursor.currentKind ≠ .eof := fun hend => nomatch hkind.symm.trans hend
        exact ⟨Cursor.span_current hend, rfl, nofun, .inl rfl, by simp⟩
  · rename_i hkind
    refine reads_cursor ?_
    split
    · exact reads_lambda hg
    · refine reads_advance (.of_kind hkind nofun rfl) (reads_bind hg.expr fun inner s₁ => ?_)
      exact reads_expect nofun rfl fun _ => reads_pure rfl (by simp)
  · rename_i hkind
    exact reads_array hg hkind
  · rename_i hkind
    exact reads_braces hg hkind
  · exact reads_currentSpan (reads_fail _ _)

/-! ## Operators -/

/-- More accesses after a node that is made. -/
theorem reads_accesses {node : Node} (h : p.Built (decide (0 < loops)) k s.cursor node) :
    p.Reads loops k s (g.accesses k.start.currentSpan node)
      (g.accesses k.start.currentSpan (node.inUnit p.second.unit)) := by
  refine reads_build node h ?_
  refine reads_weaken ?_ ?_ ?_ (hg.accesses node)
  · rfl
  · nofun
  · simp

theorem reads_accessTail {object : Node} (h : (decide (0 < loops), object) ∈ k.kept) :
    p.Reads loops k s (g.accessTail k.start.currentSpan object)
      (g.accessTail k.start.currentSpan (object.inUnit p.second.unit)) := by
  have hstep (op : BinaryOp) {kind : TokenKind} (hkind : s.cursor.currentKind = kind)
      (hend : kind ≠ .eof) (hword : kind.isComparatorName = false) :
      p.Reads loops k s (if object.isAssignable = true then do
        let _ ← advance
        stepAssign object op true (← spanFrom k.start.currentSpan)
        else pure object) (if (object.inUnit p.second.unit).isAssignable = true then do
        let _ ← advance
        stepAssign (object.inUnit p.second.unit) op true (← spanFrom k.start.currentSpan)
        else pure (object.inUnit p.second.unit)) := by
    rw [Node.isAssignable_inUnit]
    split
    · refine reads_advance (.of_kind hkind hend hword) (reads_spanFrom ?_)
      exact reads_stepAssign op true rfl h
    · exact reads_pure rfl (by simpa using h)
  refine reads_currentKind ?_
  split
  · rename_i hkind
    have hpass : s.cursor.Passable p.first.features := .of_kind hkind nofun rfl
    have hname : s.advance.cursor.takesName = true :=
      Cursor.takesName_advance hpass.here (Cursor.announcesName_of_kind (.inl hkind))
    refine reads_advance hpass (reads_bind (reads_memberName hname) fun (name, nameSpan) s₁ => ?_)
    refine reads_check ?_
    split
    · refine reads_require fun hgranted => reads_bind (reads_callArguments hg) fun args s₂ => ?_
      refine reads_spanFrom (reads_accesses hg ⟨rfl, rfl, by simpa, .inl rfl, ?_⟩)
      simp +contextual [h]
    · refine reads_spanFrom (reads_accesses hg ⟨rfl, rfl, nofun, .inl rfl, ?_⟩)
      simp [h]
  · rename_i hkind
    refine reads_advance (.of_kind hkind nofun rfl) (reads_bind hg.expr fun key s₁ => ?_)
    refine reads_expect nofun rfl fun _ => reads_spanFrom (reads_accesses hg ?_)
    refine ⟨rfl, rfl, nofun, .inl rfl, ?_⟩
    simp [h]
  · refine reads_bind (reads_callArguments hg) fun args s₁ => ?_
    refine reads_spanFrom (reads_accesses hg ⟨rfl, rfl, nofun, .inr ?_, ?_⟩)
    · exact List.ne_nil_of_mem (List.mem_append_right _ h)
    · simp +contextual [h]
  · rename_i hkind
    exact hstep .add hkind nofun rfl
  · rename_i hkind
    exact hstep .sub hkind nofun rfl
  · exact reads_pure rfl (by simpa using h)

theorem reads_chain : p.Reads loops k s g.chain g.chain := by
  refine reads_here (reads_currentSpan (reads_bind (reads_primary hg) fun object s₁ => ?_))
  exact reads_accessTail hg (by simp)

theorem reads_unaryLevel : p.Reads loops k s g.unaryLevel g.unaryLevel := by
  refine reads_here (reads_currentSpan (reads_beforeOperand ?_))
  split
  · rename_i op hrow
    have hrest (hpass : s.cursor.Passable p.first.features) :
        p.Reads loops (.since s.cursor) s (do
          let _ ← advance
          let operand ← g.unary
          return Node.unary (← spanFrom s.cursor.currentSpan) op operand) (do
          let _ ← advance
          let operand ← g.unary
          return Node.unary (← spanFrom s.cursor.currentSpan) op operand) := by
      refine reads_advance hpass (reads_bind hg.unary fun operand s₁ => reads_spanFrom ?_)
      exact reads_node ⟨rfl, rfl, nofun, .inl rfl, by simp⟩
    refine reads_check ?_
    split
    · exact reads_require fun hgranted => hrest (passable_of_before hrow fun _ _ => hgranted)
    · rename_i hnamed
      refine hrest (passable_of_before hrow fun hnot hkind => (hnamed ⟨?_, ?_⟩).elim)
      · simpa using hnot
      · exact decide_eq_true hkind
  · rename_i op hrow
    have hpass : s.cursor.Passable p.first.features := passable_of_before hrow nofun
    refine reads_advance hpass (reads_bind hg.unary fun operand s₁ => reads_spanFrom ?_)
    exact reads_stepAssign op false rfl (by simp)
  · exact reads_chain hg

/-- More binary operators after an operation that is made. -/
theorem reads_binaryTail {least : Nat} (op : BinaryOp) {span : Span} {left right : Node}
    (hspan : span = k.start.currentSpan.merge s.cursor.previousSpan)
    (hleft : (decide (0 < loops), left) ∈ k.kept) (hright : (decide (0 < loops), right) ∈ k.kept) :
    p.Reads loops k s (g.binaryTail least k.start.currentSpan (binaryNode span op left right))
      (g.binaryTail least k.start.currentSpan
        (binaryNode span op (left.inUnit p.second.unit) (right.inUnit p.second.unit))) := by
  have hsame : binaryNode span op (left.inUnit p.second.unit) (right.inUnit p.second.unit) =
      (binaryNode span op left right).inUnit p.second.unit := by
    unfold binaryNode
    split <;> rfl
  have hbuilt : p.Built (decide (0 < loops)) k s.cursor (binaryNode span op left right) := by
    unfold binaryNode
    split
    · exact ⟨hspan, rfl, nofun, .inr (List.ne_nil_of_mem hleft), by simp [hleft, hright]⟩
    · exact ⟨hspan, rfl, nofun, .inr (List.ne_nil_of_mem hleft), by simp [hleft, hright]⟩
  rw [hsame]
  refine reads_build _ hbuilt (reads_weaken ?_ ?_ ?_ (hg.binaryTail least _))
  · rfl
  · nofun
  · simp

theorem reads_climb (least : Nat) {left : Node} (h : (decide (0 < loops), left) ∈ k.kept) :
    p.Reads loops k s (g.climb least k.start.currentSpan left)
      (g.climb least k.start.currentSpan (left.inUnit p.second.unit)) := by
  have hleft : p.Reads loops k s (pure left) (pure (left.inUnit p.second.unit)) :=
    reads_pure rfl (by simpa using h)
  refine reads_afterOperand ?_
  split
  · rename_i precedence op hrow
    split
    · exact hleft
    · have hrest (hpass : s.cursor.Passable p.first.features) :
          p.Reads loops k s (do
            let _ ← advance
            let right ← g.binary (precedence + 1)
            g.binaryTail least k.start.currentSpan
              (binaryNode (← spanFrom k.start.currentSpan) op left right)) (do
            let _ ← advance
            let right ← g.binary (precedence + 1)
            g.binaryTail least k.start.currentSpan
              (binaryNode (← spanFrom k.start.currentSpan) op
                (left.inUnit p.second.unit) right)) := by
        refine reads_advance hpass (reads_bind (hg.binary _) fun right s₁ => reads_spanFrom ?_)
        exact reads_binaryTail hg op rfl (by simp [h]) (by simp)
      refine reads_currentKind ?_
      split
      · exact reads_currentSpan (reads_require fun hgranted =>
          hrest (passable_of_after hrow fun _ => hgranted))
      · rename_i hname
        exact hrest (passable_of_after hrow fun hnamed => absurd hnamed hname)
  · exact hleft

theorem reads_binaryLevel (least : Nat) :
    p.Reads loops k s (g.binaryLevel least) (g.binaryLevel least) := by
  refine reads_here (reads_currentSpan (reads_bind (reads_unaryLevel hg) fun left s₁ => ?_))
  exact reads_climb hg least (by simp)

theorem reads_conditionalLevel : p.Reads loops k s g.conditionalLevel g.conditionalLevel := by
  refine reads_here (reads_currentSpan (reads_bind (reads_binaryLevel hg _) fun cond s₁ => ?_))
  have hfallback {k' : Stretch} {s' : Progress} (coalesce : Bool) (hstart : k'.start = s.cursor)
      (hcond : (decide (0 < loops), cond) ∈ k'.kept) : p.Reads loops k' s' (do
        let right ← g.conditional
        return Node.elvis (← spanFrom s.cursor.currentSpan) cond right coalesce) (do
        let right ← g.conditional
        return Node.elvis (← spanFrom s.cursor.currentSpan) (cond.inUnit p.second.unit) right
          coalesce) := by
    refine reads_bind hg.conditional fun right s₂ => reads_spanFrom (reads_node ?_)
    refine ⟨hstart ▸ rfl, rfl, nofun, .inr (by simp), by simp [hcond]⟩
  refine reads_currentKind ?_
  split
  · rename_i hkind
    refine reads_advance (.of_kind hkind nofun rfl) (reads_eat nofun rfl (fun _ => ?_) fun _ => ?_)
    · exact hfallback false rfl (by simp)
    · refine reads_bind hg.expr fun thenBranch s₂ => reads_expect nofun rfl fun _ => ?_
      refine reads_bind hg.conditional fun elseBranch s₃ => reads_spanFrom (reads_node ?_)
      exact ⟨rfl, rfl, nofun, .inl rfl, by simp⟩
  · rename_i hkind
    exact reads_advance (.of_kind hkind nofun rfl) (hfallback true rfl (by simp))
  · exact reads_pure rfl (by simp)

/-- An assignment goes to what can be assigned to. -/
theorem reads_assignmentTail {target : Node} (base? : Option BinaryOp)
    (hpass : s.cursor.Passable p.first.features) (h : (decide (0 < loops), target) ∈ k.kept) :
    p.Reads loops k s (g.assignmentTail k.start.currentSpan target base?)
      (g.assignmentTail k.start.currentSpan (target.inUnit p.second.unit) base?) := by
  refine reads_currentSpan (reads_require fun hgranted => ?_)
  have htail (value value' : Span → Node → Node)
      (hmade : ∀ (right : Node) (s' : Progress) (span : Span),
        span = k.start.currentSpan.merge s'.cursor.previousSpan → target.isAssignable = true →
        p.Reads loops (k.pass.keep (decide (0 < loops)) [right]) s'
          (pure (Node.assign span target (value span right) false))
          (pure (Node.assign span (target.inUnit p.second.unit)
            (value' span (right.inUnit p.second.unit)) false))) : p.Reads loops k s (do
      unless target.isAssignable do fail .invalidTarget target.span
      let _ ← advance
      let right ← g.assignment
      let span ← spanFrom k.start.currentSpan
      return Node.assign span target (value span right) false) (do
      unless (target.inUnit p.second.unit).isAssignable do
        fail .invalidTarget (target.inUnit p.second.unit).span
      let _ ← advance
      let right ← g.assignment
      let span ← spanFrom k.start.currentSpan
      return Node.assign span (target.inUnit p.second.unit) (value' span right) false) := by
    rw [Node.isAssignable_inUnit, Node.span_inUnit]
    split
    · rename_i hassignable
      refine reads_advance hpass (reads_bind hg.assignment fun right s₁ => reads_spanFrom ?_)
      exact hmade right s₁ _ rfl hassignable
    · exact reads_stop _ _
  cases base? with
  | none =>
      refine htail (fun _ right => right) (fun _ right => right) fun right s' span hspan hfits => ?_
      refine reads_node ⟨hspan, hfits, by simpa, .inl rfl, ?_⟩
      simp [h]
  | some op =>
      refine htail (fun span right => .binary span op target right)
        (fun span right => .binary span op (target.inUnit p.second.unit) right)
        fun right s' span hspan hfits => ?_
      refine reads_build (.binary span op target right)
        ⟨hspan, rfl, nofun, .inl rfl, by simp [h]⟩ ?_
      refine reads_node ⟨hspan, hfits, by simpa, .inl rfl, ?_⟩
      simp [h]

theorem reads_assignmentLevel : p.Reads loops k s g.assignmentLevel g.assignmentLevel := by
  refine reads_here (reads_currentSpan (reads_bind (reads_conditionalLevel hg) fun target s₁ => ?_))
  refine reads_afterOperand ?_
  split
  · rename_i hrow
    exact reads_assignmentTail hg none (passable_of_assigns hrow nofun) (by simp)
  · rename_i op hrow
    exact reads_assignmentTail hg (some op) (passable_of_assigns hrow nofun) (by simp)
  · exact reads_pure rfl (by simp)

/-! ## Sequences of operands -/

theorem reads_argumentList : p.Reads loops k s g.argumentList g.argumentList := by
  refine reads_bind (reads_assignmentLevel hg) fun first s₁ => ?_
  refine reads_eat nofun rfl (fun _ => ?_) fun _ => ?_
  · exact reads_bind hg.arguments fun rest s₂ => reads_pure rfl (by simp +contextual)
  · exact reads_expect nofun rfl fun _ => reads_pure rfl (by simp)

theorem reads_itemList : p.Reads loops k s g.itemList g.itemList := by
  refine reads_check ?_
  split
  · exact reads_pure rfl nofun
  · refine reads_bind (reads_assignmentLevel hg) fun first s₁ => ?_
    refine reads_eat nofun rfl (fun _ => ?_) fun _ => ?_
    · exact reads_bind hg.items fun rest s₂ => reads_pure rfl (by simp +contextual)
    · exact reads_pure rfl (by simp)

theorem reads_setTail : p.Reads loops k s g.setTail g.setTail := by
  refine reads_eat nofun rfl (fun _ => reads_check ?_) fun _ => reads_pure rfl nofun
  split
  · exact reads_pure rfl nofun
  · refine reads_bind hg.expr fun item s₁ => reads_bind hg.moreItems fun rest s₂ => ?_
    exact reads_pure rfl (by simp +contextual)

theorem reads_mapTail : p.Reads loops k s g.mapTail g.mapTail := by
  refine reads_eat nofun rfl (fun _ => reads_check ?_) fun _ => reads_pure rfl nofun
  split
  · exact reads_pure rfl nofun
  · refine reads_bind hg.expr fun key s₁ => reads_expect nofun rfl fun _ => ?_
    refine reads_bind hg.expr fun value s₂ => reads_bind hg.moreEntries fun rest s₃ => ?_
    refine reads_pure rfl ?_
    simp only [Stretch.kept_pass, Stretch.kept_keep, Readable.trees_node,
        Readable.trees_entries, List.flatMap_cons]
    grind

theorem reads_parameterList (params : List String) :
    p.Reads loops k s (g.parameterList params) (g.parameterList params) := by
  refine reads_bind reads_expectIdent fun (name, span) s₁ => ?_
  refine reads_bind (reads_addParameter params name span) fun params s₂ => ?_
  refine reads_eat nofun rfl (fun _ => reads_last (hg.parameters _)) fun _ => ?_
  exact reads_expect nofun rfl fun _ => reads_pure rfl nofun

end

end ScriptEngine.Reading

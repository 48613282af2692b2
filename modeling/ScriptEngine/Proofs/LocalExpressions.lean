import ScriptEngine.Proofs.Locality

/-!
# Expressions are read locally

Each production of expressions reads in a longer source what it reads in a source, if the
productions that it asks for do.

* `Detached.continuesHead_eq_false`, `Longer.lambdaAhead_eq` — looking ahead;
* `Parse.local_primary`, `Parse.local_chain` — operands and their members;
* `Parse.local_unaryLevel`, `Parse.local_climb`, `Parse.local_assignmentLevel` — operators by
  their levels.
-/

namespace ScriptEngine

open Parse Grammar Seen

/-! ## Looking ahead -/

/-- No head of a function literal goes on with what stands between two sources. -/
theorem Detached.continuesHead_eq_false {rest : List Token} (hrest : Detached rest) :
    ∀ token ∈ rest.head?, token.kind.continuesHead = false := by
  intro token htoken
  have hkind := hrest token htoken
  unfold TokenKind.isDetached at hkind
  unfold TokenKind.continuesHead
  split <;> simp_all

/-- The head of a function literal is found in the source itself. -/
theorem Longer.lambdaAhead_eq {rest : List Token} {s s' : Progress} (h : Longer rest s s')
    (hrest : Detached rest) : lambdaAhead s'.cursor.after = lambdaAhead s.cursor.after := by
  rw [h.after]
  by_cases hend : s.cursor.after = []
  · rw [h.inside hend, List.append_nil]
  · exact lambdaAhead_append hrest.continuesHead_eq_false hend

namespace Parse

variable {α β : Type} [Seen α] [Seen β] {d : Dialect} {g g' : Grammar}

/-! ## Names and operators -/

/-- Whether a tree can be assigned to shows without its places. -/
theorem isAssignable_eq_of_like {node node' : Node} (h : Like node node') :
    node'.isAssignable = node.isAssignable :=
  (Node.Alike.isAssignable_eq h).symm

theorem local_afterOperand {next next' : Option Operator.Row → Parse β}
    (h : ∀ row, Local d (next row) (next' row)) :
    Local d (afterOperand >>= next) (afterOperand >>= next') := by
  intro rest s s' hrest hs
  show LocalAt d rest s s' (next (operatorAt Operator.afterOperand? s.cursor))
    (next' (operatorAt Operator.afterOperand? s'.cursor))
  rw [hs.operatorAt_eq]
  exact h _ rest s s' hrest hs

theorem local_beforeOperand {next next' : Option Operator.Row → Parse β}
    (h : ∀ row, Local d (next row) (next' row)) :
    Local d (beforeOperand >>= next) (beforeOperand >>= next') := by
  intro rest s s' hrest hs
  show LocalAt d rest s s' (next (operatorAt Operator.beforeOperand? s.cursor))
    (next' (operatorAt Operator.beforeOperand? s'.cursor))
  rw [hs.operatorAt_eq]
  exact h _ rest s s' hrest hs

theorem local_memberName : Local d memberName memberName := by
  apply local_cursor
  intro rest s s' _ hs
  dsimp only
  rw [hs.current_eq]
  split
  · apply local_advance
    intro _
    exact local_pure rfl
  · apply local_currentSpan
    intro span span'
    exact local_fail _ span

theorem local_word : Local d word word := by
  apply local_cursor
  intro rest s s' _ hs
  dsimp only
  rw [hs.current_eq]
  split
  · apply local_advance
    intro _
    exact local_pure rfl
  · apply local_currentSpan
    intro span span'
    exact local_fail _ span

/-- A step goes to what can be assigned to. -/
theorem local_stepAssign {target target' : Node} (op : BinaryOp) (isPostfix : Bool)
    (span span' : Span) (htarget : Like target target') :
    Local d (stepAssign target op isPostfix span) (stepAssign target' op isPostfix span') := by
  apply local_require
  rw [isAssignable_eq_of_like htarget]
  split
  · apply local_pure
    simp [Like, htarget]
  · exact local_stop _ _ _

theorem local_addParameter (params : List String) (name : String) (span : Span) :
    Local d (addParameter params name span) (addParameter params name span) := by
  unfold addParameter
  split
  · exact local_stop _ _ _
  · exact local_pure rfl

theorem local_literal (value : Literal) : Local d (literal value) (literal value) :=
  local_advance fun _ => local_pure rfl

/-! ## Operands -/

section

variable (hg : Grammar.Local d g g')

include hg

theorem local_callArguments : Local d g.callArguments g'.callArguments :=
  local_expect fun _ => local_eat (local_pure rfl) hg.arguments

theorem local_lambdaParameters : Local d g.lambdaParameters g'.lambdaParameters := by
  apply local_eat
  · exact local_eat (local_pure rfl) (hg.parameters [])
  · apply local_expectIdent
    intro name span
    exact local_addParameter [] name span

theorem local_lambda : Local d g.lambda g'.lambda := by
  apply local_currentSpan
  intro start start'
  apply local_require
  apply local_cursor
  intro rest s s' _ _
  apply local_bind (local_lambdaParameters hg)
  intro params params' hparams
  obtain rfl : params = params' := hparams
  have hinside : Local d (inFunction do
        declareAll start params
        if ← check (.symbol .lbrace) then g.block else g.expr) (inFunction do
        declareAll start' params
        if ← check (.symbol .lbrace) then g'.block else g'.expr) := by
    apply local_inFunction
    apply local_bind (local_declareAll params start start')
    intro _ _ _
    apply local_check
    intro found
    split
    · exact hg.block
    · exact hg.expr
  have hbody : Local d (do
        let body ← inFunction do
          declareAll start params
          if ← check (.symbol .lbrace) then g.block else g.expr
        return Node.lambda (← spanFrom start) ⟨(← read).unit, s.cursor.position + 1⟩ params body)
      (do
        let body ← inFunction do
          declareAll start' params
          if ← check (.symbol .lbrace) then g'.block else g'.expr
        return Node.lambda (← spanFrom start') ⟨(← read).unit, s'.cursor.position + 1⟩ params
          body) := by
    apply local_bind hinside
    intro body body' hbody
    apply local_spanFrom
    intro span span'
    apply local_read
    apply local_pure
    simp [Like, hbody]
  exact local_eat hbody (local_expect fun _ => hbody)

theorem local_construct : Local d g.construct g'.construct := by
  apply local_currentSpan
  intro start start'
  apply local_require
  apply local_advance
  intro _
  apply local_bind (local_callArguments hg)
  intro args args' hargs
  cases args with
  | nil =>
      cases args' with
      | nil => exact local_spanFrom fun span span' => local_fail _ span
      | cons className' rest' => simp [Like] at hargs
  | cons className rest =>
      cases args' with
      | nil => simp [Like] at hargs
      | cons className' rest' =>
          simp only [Like, Node.look_cons, List.cons.injEq] at hargs
          apply local_make
          intro span span'
          simp [Like, hargs]

theorem local_array : Local d g.array g'.array := by
  apply local_currentSpan
  intro start start'
  apply local_require
  apply local_advance
  intro _
  apply local_bind hg.items
  intro items items' hitems
  apply local_expect
  intro _
  apply local_make
  intro span span'
  simp [Like, hitems]

theorem local_bracesTail (start start' : Span) {first first' : Node}
    (hfirst : Like first first') :
    Local d (g.bracesTail start first) (g'.bracesTail start' first') := by
  apply local_eat
  · apply local_bind hg.expr
    intro value value' hvalue
    apply local_bind hg.moreEntries
    intro rest rest' hrest
    apply local_expect
    intro _
    apply local_make
    intro span span'
    simp [Like, hfirst, hvalue, hrest]
  · apply local_bind hg.moreItems
    intro rest rest' hrest
    apply local_expect
    intro _
    apply local_make
    intro span span'
    simp [Like, hfirst, hrest]

theorem local_braces : Local d g.braces g'.braces := by
  apply local_currentSpan
  intro start start'
  apply local_require
  apply local_advance
  intro _
  have hempty : Local d (do return Node.map (← spanFrom start) [])
      (do return Node.map (← spanFrom start') []) :=
    local_make fun span span' => by simp [Like]
  apply local_eat hempty
  apply local_check
  intro found
  apply local_peek
  intro kind kind' hkind
  have hbrace : kind' = .symbol .rbrace ↔ kind = .symbol .rbrace := hkind _ rfl
  simp only [hbrace]
  split
  · apply local_advance
    intro _
    apply local_advance
    intro _
    exact hempty
  · apply local_bind hg.expr
    intro first first' hfirst
    exact local_bracesTail hg start start' hfirst

theorem local_primary : Local d g.primary g'.primary := by
  apply local_cursor
  intro rest s s' _ hs
  dsimp only
  rw [hs.current_eq]
  split
  · exact local_literal _
  · exact local_literal _
  · exact local_literal _
  · exact local_literal _
  · exact local_literal _
  · apply local_peek
    intro kind kind' hkind
    simp only [hkind (.symbol .lparen) rfl, hkind (.symbol .arrow) rfl,
      hkind (.symbol .fatArrow) rfl]
    split
    · exact local_construct hg
    · split
      · exact local_lambda hg
      · apply local_advance
        intro _
        apply local_pure
        simp [Like]
  · apply local_cursor
    intro rest s s' hrest hs
    rw [hs.lambdaAhead_eq hrest]
    split
    · exact local_lambda hg
    · apply local_advance
      intro _
      apply local_bind hg.expr
      intro inner inner' hinner
      apply local_expect
      intro _
      exact local_pure hinner
  · exact local_array hg
  · exact local_braces hg
  · apply local_currentSpan
    intro span span'
    exact local_fail _ span

/-! ## Operators -/

omit hg in
/-- A step after an operand that can be assigned to. -/
theorem local_stepAfter (start start' : Span) {object object' : Node} (op : BinaryOp)
    (hobject : Like object object') :
    Local d (if object.isAssignable = true then do
      let _ ← advance
      stepAssign object op true (← spanFrom start)
      else pure object) (if object'.isAssignable = true then do
      let _ ← advance
      stepAssign object' op true (← spanFrom start')
      else pure object') := by
  rw [isAssignable_eq_of_like hobject]
  split
  · apply local_advance
    intro _
    apply local_spanFrom
    intro span span'
    exact local_stepAssign op true span span' hobject
  · exact local_pure hobject

theorem local_accessTail (start start' : Span) {object object' : Node}
    (hobject : Like object object') :
    Local d (g.accessTail start object) (g'.accessTail start' object') := by
  apply local_currentKind
  intro kind
  split
  · apply local_advance
    intro _
    apply local_bind local_memberName
    intro member member' hmember
    obtain rfl : member = member' := hmember
    apply local_check
    intro found
    split
    · apply local_require
      apply local_bind (local_callArguments hg)
      intro args args' hargs
      apply local_spanFrom
      intro span span'
      apply hg.accesses start start'
      simp [Like, hobject, hargs]
    · apply local_spanFrom
      intro span span'
      apply hg.accesses start start'
      simp [Like, hobject]
  · apply local_advance
    intro _
    apply local_bind hg.expr
    intro key key' hkey
    apply local_expect
    intro _
    apply local_spanFrom
    intro span span'
    apply hg.accesses start start'
    simp [Like, hobject, hkey]
  · apply local_bind (local_callArguments hg)
    intro args args' hargs
    apply local_spanFrom
    intro span span'
    apply hg.accesses start start'
    simp [Like, hobject, hargs]
  · exact local_stepAfter start start' .add hobject
  · exact local_stepAfter start start' .sub hobject
  · exact local_pure hobject

theorem local_chain : Local d g.chain g'.chain :=
  local_currentSpan fun start start' => local_bind (local_primary hg) fun _ _ hobject =>
    local_accessTail hg start start' hobject

theorem local_unaryLevel : Local d g.unaryLevel g'.unaryLevel := by
  apply local_currentSpan
  intro start start'
  apply local_beforeOperand
  intro row
  split
  · rename_i op
    have hrest : Local d (do
        let _ ← advance
        let operand ← g.unary
        return Node.unary (← spanFrom start) op operand) (do
        let _ ← advance
        let operand ← g'.unary
        return Node.unary (← spanFrom start') op operand) := by
      apply local_advance
      intro _
      apply local_bind hg.unary
      intro operand operand' hoperand
      apply local_make
      intro span span'
      simp [Like, hoperand]
    apply local_check
    intro found
    split
    · exact local_require hrest
    · exact hrest
  · apply local_advance
    intro _
    apply local_bind hg.unary
    intro operand operand' hoperand
    apply local_spanFrom
    intro span span'
    exact local_stepAssign _ false span span' hoperand
  · exact local_chain hg

omit hg in
theorem like_binaryNode (span span' : Span) {left left' right right' : Node} (op : BinaryOp)
    (hleft : Like left left') (hright : Like right right') :
    Like (binaryNode span op left right) (binaryNode span' op left' right') := by
  unfold binaryNode
  split <;> simp [Like, hleft, hright]

theorem local_climb (least : Nat) (start start' : Span) {left left' : Node}
    (hleft : Like left left') :
    Local d (g.climb least start left) (g'.climb least start' left') := by
  apply local_afterOperand
  intro row
  split
  · rename_i precedence op
    have hrest : Local d (do
        let _ ← advance
        let right ← g.binary (precedence + 1)
        g.binaryTail least start (binaryNode (← spanFrom start) op left right)) (do
        let _ ← advance
        let right ← g'.binary (precedence + 1)
        g'.binaryTail least start' (binaryNode (← spanFrom start') op left' right)) := by
      apply local_advance
      intro _
      apply local_bind (hg.binary _)
      intro right right' hright
      apply local_spanFrom
      intro span span'
      exact hg.binaryTail least start start' (like_binaryNode span span' op hleft hright)
    split
    · exact local_pure hleft
    · apply local_currentKind
      intro kind
      split
      · apply local_currentSpan
        intro _ _
        exact local_require hrest
      · exact hrest
  · exact local_pure hleft

theorem local_binaryLevel (least : Nat) : Local d (g.binaryLevel least) (g'.binaryLevel least) :=
  local_currentSpan fun start start' => local_bind (local_unaryLevel hg) fun _ _ hleft =>
    local_climb hg least start start' hleft

theorem local_conditionalLevel : Local d g.conditionalLevel g'.conditionalLevel := by
  apply local_currentSpan
  intro start start'
  apply local_bind (local_binaryLevel hg _)
  intro cond cond' hcond
  have hfallback (coalesce : Bool) : Local d (do
      let right ← g.conditional
      return Node.elvis (← spanFrom start) cond right coalesce) (do
      let right ← g'.conditional
      return Node.elvis (← spanFrom start') cond' right coalesce) := by
    apply local_bind hg.conditional
    intro right right' hright
    apply local_make
    intro span span'
    simp [Like, hcond, hright]
  apply local_currentKind
  intro kind
  split
  · apply local_advance
    intro _
    apply local_eat (hfallback false)
    apply local_bind hg.expr
    intro yes yes' hyes
    apply local_expect
    intro _
    apply local_bind hg.conditional
    intro no no' hno
    apply local_make
    intro span span'
    simp [Like, hcond, hyes, hno]
  · apply local_advance
    intro _
    exact hfallback true
  · exact local_pure hcond

theorem local_assignmentTail (start start' : Span) {target target' : Node}
    (base? : Option BinaryOp) (htarget : Like target target') :
    Local d (g.assignmentTail start target base?) (g'.assignmentTail start' target' base?) := by
  apply local_currentSpan
  intro place place'
  apply local_require
  rw [isAssignable_eq_of_like htarget]
  by_cases hassignable : target.isAssignable = true
  · simp only [hassignable, if_true]
    apply local_advance
    intro _
    apply local_bind hg.assignment
    intro right right' hright
    apply local_make
    intro span span'
    cases base? <;> simp [Like, htarget, hright]
  · simp only [hassignable]
    exact local_stop _ _ _

theorem local_assignmentLevel : Local d g.assignmentLevel g'.assignmentLevel := by
  apply local_currentSpan
  intro start start'
  apply local_bind (local_conditionalLevel hg)
  intro target target' htarget
  apply local_afterOperand
  intro row
  split
  · exact local_assignmentTail hg start start' none htarget
  · exact local_assignmentTail hg start start' (some _) htarget
  · exact local_pure htarget

/-! ## Sequences of operands -/

theorem local_argumentList : Local d g.argumentList g'.argumentList := by
  apply local_bind (local_assignmentLevel hg)
  intro first first' hfirst
  apply local_eat
  · apply local_bind hg.arguments
    intro rest rest' hrest
    apply local_pure
    simp [Like, hfirst, hrest]
  · apply local_expect
    intro _
    apply local_pure
    simp [Like, hfirst]

theorem local_itemList : Local d g.itemList g'.itemList := by
  apply local_check
  intro found
  split
  · exact local_pure rfl
  · apply local_bind (local_assignmentLevel hg)
    intro first first' hfirst
    apply local_eat
    · apply local_bind hg.items
      intro rest rest' hrest
      apply local_pure
      simp [Like, hfirst, hrest]
    · apply local_pure
      simp [Like, hfirst]

theorem local_setTail : Local d g.setTail g'.setTail := by
  refine local_eat ?_ (local_pure rfl)
  apply local_check
  intro found
  split
  · exact local_pure rfl
  · apply local_bind hg.expr
    intro item item' hitem
    apply local_bind hg.moreItems
    intro rest rest' hrest
    apply local_pure
    simp [Like, hitem, hrest]

theorem local_mapTail : Local d g.mapTail g'.mapTail := by
  refine local_eat ?_ (local_pure rfl)
  apply local_check
  intro found
  split
  · exact local_pure rfl
  · apply local_bind hg.expr
    intro key key' hkey
    apply local_expect
    intro _
    apply local_bind hg.expr
    intro value value' hvalue
    apply local_bind hg.moreEntries
    intro rest rest' hrest
    apply local_pure
    simp [Like, hkey, hvalue, hrest]

theorem local_parameterList (params : List String) :
    Local d (g.parameterList params) (g'.parameterList params) := by
  apply local_expectIdent
  intro name span
  apply local_bind (local_addParameter params name span)
  intro more more' hmore
  obtain rfl : more = more' := hmore
  exact local_eat (hg.parameters more) (local_expect fun _ => local_pure rfl)

end

end Parse

end ScriptEngine

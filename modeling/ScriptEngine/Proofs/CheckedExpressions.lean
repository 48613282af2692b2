import ScriptEngine.Proofs.Checking

/-!
# Expressions and the checks of declarations

The productions of expressions account for their declarations, if the requests nested in them
do.  Only the bodies of function literals declare anything, in scopes that are closed again.

* `Checking.accounts_lambda` — a function literal opens the scope of a function;
* `Checking.accounts_primary`, `Checking.accounts_accessTail` — operands and their members;
* `Checking.accounts_climb`, `Checking.accounts_assignmentLevel` — operators by their levels.
-/

namespace ScriptEngine.Checking

open Parse Grammar

variable {q : Checking} {g : Grammar} {scopes : List Scope} {met : List Declaration}
variable {start : Span}

/-! ## Words and operators -/

theorem accounts_word : q.Accounts scopes word (.plain scopes fun found => q.Here found.2) := by
  refine accounts_cursor fun c hc => ?_
  dsimp only
  split
  · exact accounts_advance fun _ _ => accounts_pure ⟨rfl, rfl, hc.current⟩
  · exact accounts_currentSpan fun _ hspan => accounts_fail hspan

theorem accounts_memberName :
    q.Accounts scopes memberName (.plain scopes fun found => q.Here found.2) := by
  refine accounts_cursor fun c hc => ?_
  dsimp only
  split
  · exact accounts_advance fun _ _ => accounts_pure ⟨rfl, rfl, hc.current⟩
  · exact accounts_currentSpan fun _ hspan => accounts_fail hspan

section

variable {β : Type} {next : Option Operator.Row → Parse β} {outcome : Outcome β}

theorem accounts_afterOperand (h : ∀ row?, q.Accounts scopes (next row?) outcome) :
    q.Accounts scopes (afterOperand >>= next) outcome :=
  accounts_cursor fun _ _ => h _

theorem accounts_beforeOperand (h : ∀ row?, q.Accounts scopes (next row?) outcome) :
    q.Accounts scopes (beforeOperand >>= next) outcome :=
  accounts_cursor fun _ _ => h _

end

/-- A step has its target in two places, where it declares the same. -/
theorem accounts_stepAssign {target : Node} (op : BinaryOp) (isPostfix : Bool) {span : Span}
    (hspan : q.Here span) (hwalk : target.walk.Does scopes met scopes)
    (htarget : q.Here target.span) :
    q.Accounts scopes (stepAssign target op isPostfix span) (.later met (q.operand scopes)) := by
  refine accounts_require hspan rfl ?_
  split
  · refine accounts_pure ⟨rfl, ?_, hspan⟩
    exact (hwalk.andThen (hwalk.andThen .stay)).congr (by simp)
  · exact accounts_stop htarget

/-! ## Operands -/

theorem accounts_addParameter (params : List String) (name : String) {span : Span}
    (hspan : q.Here span) :
    q.Accounts scopes (addParameter params name span) (.silent scopes) := by
  unfold addParameter
  split
  · exact accounts_stop hspan
  · exact accounts_pure ⟨rfl, rfl, trivial⟩

/-- The current token is a literal. -/
theorem accounts_literal (value : Literal) :
    q.Accounts scopes (literal value) (q.operand scopes) :=
  accounts_advance fun _ htoken => accounts_pure ⟨rfl, .stay, htoken⟩

section

variable (hg : g.Accounted q)

include hg

theorem accounts_callArguments :
    q.Accounts scopes g.callArguments (.parts scopes Node.walkAll) := by
  refine accounts_expect fun _ => accounts_eat ?_ hg.arguments
  exact accounts_pure ⟨rfl, .stay, trivial⟩

theorem accounts_lambdaParameters : q.Accounts scopes g.lambdaParameters (.silent scopes) := by
  refine accounts_eat (accounts_eat ?_ (hg.parameters [])) ?_
  · exact accounts_pure ⟨rfl, rfl, trivial⟩
  · refine accounts_plain accounts_expectIdent fun (name, span) hspan => ?_
    exact accounts_addParameter [] name hspan

/-- The parameters and what the body declares are in the scope of the function. -/
theorem accounts_lambda : q.Accounts scopes g.lambda (q.operand scopes) := by
  refine accounts_currentSpan fun start hstart => accounts_require hstart rfl ?_
  refine accounts_cursor fun c _ => accounts_plain (accounts_lambdaParameters hg) fun params _ => ?_
  have hbody : q.Accounts scopes (inFunction do
      declareAll start params
      if ← check (.symbol .lbrace) then g.block else g.expr)
      (.parts scopes fun body => .inScope true ((Walk.declareAll params).andThen body.walk)) := by
    refine accounts_inFunction (.along (⟨[], true⟩ :: scopes) fun body =>
      (Walk.declareAll params).andThen body.walk) ?_ ?_
    · refine accounts_bind (accounts_declareAll hstart params) fun _ between met hparams => ?_
      refine accounts_check fun found => ?_
      split
      · exact accounts_imp hg.block fun _ _ _ hblock => hparams.andThen hblock
      · refine accounts_imp hg.expr ?_
        rintro body _ more ⟨rfl, hwalk, -⟩
        exact hparams.andThen hwalk
    · -- the scope of the function is closed, and with it all that was declared in the body
      exact fun body last met hwalk => ⟨hwalk.outer, hwalk.inScope, trivial⟩
  have hrest : q.Accounts scopes (do
      let body ← inFunction do
        declareAll start params
        if ← check (.symbol .lbrace) then g.block else g.expr
      return Node.lambda (← spanFrom start) ⟨(← read).unit, c.position + 1⟩ params body)
      (q.operand scopes) := by
    refine accounts_within hbody fun body met hwalk _ => ?_
    refine accounts_spanFrom hstart fun span hspan => ?_
    refine accounts_read ?_ (accounts_pure ⟨rfl, hwalk.done, hspan⟩)
    rw [q.unit]
  exact accounts_eat hrest (accounts_expect fun _ => hrest)

theorem accounts_construct : q.Accounts scopes g.construct (q.operand scopes) := by
  refine accounts_currentSpan fun start hstart => accounts_require hstart rfl ?_
  refine accounts_advance fun _ _ => accounts_within (accounts_callArguments hg) ?_
  intro args met hwalk _
  cases args with
  | nil => exact accounts_spanFrom hstart fun _ hspan => accounts_fail hspan
  | cons className args =>
      exact accounts_spanFrom hstart fun _ hspan => accounts_pure ⟨rfl, hwalk.done, hspan⟩

theorem accounts_array : q.Accounts scopes g.array (q.operand scopes) := by
  refine accounts_currentSpan fun start hstart => accounts_require hstart rfl ?_
  refine accounts_advance fun _ _ => accounts_within hg.items fun items met hwalk _ => ?_
  refine accounts_expect fun _ => accounts_spanFrom hstart fun span hspan => ?_
  exact accounts_pure ⟨rfl, hwalk.done, hspan⟩

theorem accounts_bracesTail {first : Node} (hstart : q.Here start)
    (hfirst : first.walk.Does scopes met scopes) :
    q.Accounts scopes (g.bracesTail start first) (.later met (q.operand scopes)) := by
  refine accounts_eat ?_ ?_
  · refine accounts_within hg.expr fun value met₁ hvalue _ => ?_
    refine accounts_within hg.moreEntries fun rest met₂ hrest _ => accounts_expect fun _ => ?_
    refine accounts_spanFrom hstart fun span hspan => accounts_pure ⟨rfl, ?_, hspan⟩
    exact hfirst.andThen (hvalue.andThen hrest.done)
  · refine accounts_within hg.moreItems fun rest met₁ hrest _ => accounts_expect fun _ => ?_
    refine accounts_spanFrom hstart fun span hspan => accounts_pure ⟨rfl, ?_, hspan⟩
    exact hfirst.andThen hrest.done

theorem accounts_braces : q.Accounts scopes g.braces (q.operand scopes) := by
  refine accounts_currentSpan fun start hstart => accounts_require hstart rfl ?_
  have hempty : q.Accounts scopes (do return Node.map (← spanFrom start) [])
      (q.operand scopes) :=
    accounts_spanFrom hstart fun _ hspan => accounts_pure ⟨rfl, .stay, hspan⟩
  refine accounts_advance fun _ _ => accounts_eat hempty ?_
  refine accounts_check fun colon => accounts_peek fun following => ?_
  split
  · exact accounts_advance fun _ _ => accounts_advance fun _ _ => hempty
  · exact accounts_within hg.expr fun first met hfirst _ => accounts_bracesTail hg hstart hfirst

theorem accounts_primary : q.Accounts scopes g.primary (q.operand scopes) := by
  refine accounts_cursor fun c hc => ?_
  dsimp only
  split
  · exact accounts_literal _
  · exact accounts_literal _
  · exact accounts_literal _
  · exact accounts_literal _
  · exact accounts_literal _
  · refine accounts_peek fun following => ?_
    split
    · exact accounts_construct hg
    · split
      · exact accounts_lambda hg
      · exact accounts_advance fun _ _ => accounts_pure ⟨rfl, .stay, hc.current⟩
  · refine accounts_cursor fun _ _ => ?_
    split
    · exact accounts_lambda hg
    · refine accounts_advance fun _ _ => accounts_within hg.expr fun inner met hwalk hspan => ?_
      exact accounts_expect fun _ => accounts_pure ⟨rfl, hwalk.done, hspan⟩
  · exact accounts_array hg
  · exact accounts_braces hg
  · exact accounts_currentSpan fun _ hspan => accounts_fail hspan

/-! ## Operators -/

theorem accounts_accessTail {object : Node} (hstart : q.Here start)
    (hwalk : object.walk.Does scopes met scopes) (hobject : q.Here object.span) :
    q.Accounts scopes (g.accessTail start object) (.later met (q.operand scopes)) := by
  have hstep (op : BinaryOp) : q.Accounts scopes (if object.isAssignable = true then do
      let _ ← advance
      stepAssign object op true (← spanFrom start)
      else pure object) (.later met (q.operand scopes)) := by
    split
    · refine accounts_advance fun _ _ => accounts_spanFrom hstart fun span hspan => ?_
      exact accounts_stepAssign op true hspan hwalk hobject
    · exact accounts_pure ⟨rfl, hwalk.done, hobject⟩
  refine accounts_currentKind fun kind => ?_
  split
  · refine accounts_advance fun _ _ => accounts_plain accounts_memberName ?_
    intro (name, nameSpan) hname
    refine accounts_check fun called => ?_
    split
    · refine accounts_require hname rfl (accounts_within (accounts_callArguments hg) ?_)
      intro args met₁ hargs _
      refine accounts_spanFrom hstart fun span hspan => accounts_later ?_
      exact hg.accesses hstart (hwalk.andThen hargs) hspan
    · exact accounts_spanFrom hstart fun span hspan => hg.accesses hstart hwalk hspan
  · refine accounts_advance fun _ _ => accounts_within hg.expr fun key met₁ hkey _ => ?_
    refine accounts_expect fun _ => accounts_spanFrom hstart fun span hspan => accounts_later ?_
    exact hg.accesses hstart (hwalk.andThen hkey) hspan
  · refine accounts_within (accounts_callArguments hg) fun args met₁ hargs _ => ?_
    refine accounts_spanFrom hstart fun span hspan => accounts_later ?_
    exact hg.accesses hstart (hwalk.andThen hargs) hspan
  · exact hstep .add
  · exact hstep .sub
  · exact accounts_pure ⟨rfl, hwalk.done, hobject⟩

theorem accounts_chain : q.Accounts scopes g.chain (q.operand scopes) := by
  refine accounts_currentSpan fun start hstart => ?_
  refine accounts_within (accounts_primary hg) fun object met hwalk hobject => ?_
  exact accounts_accessTail hg hstart hwalk hobject

theorem accounts_unaryLevel : q.Accounts scopes g.unaryLevel (q.operand scopes) := by
  refine accounts_currentSpan fun start hstart => accounts_beforeOperand fun row? => ?_
  split
  · rename_i op
    have hrest : q.Accounts scopes (do
        let _ ← advance
        let operand ← g.unary
        return Node.unary (← spanFrom start) op operand) (q.operand scopes) := by
      refine accounts_advance fun _ _ => accounts_within hg.unary fun operand met hwalk _ => ?_
      exact accounts_spanFrom hstart fun _ hspan => accounts_pure ⟨rfl, hwalk.done, hspan⟩
    refine accounts_check fun named => ?_
    split
    · exact accounts_require hstart rfl hrest
    · exact hrest
  · rename_i op
    refine accounts_advance fun _ _ => accounts_within hg.unary fun operand met hwalk hoperand => ?_
    refine accounts_spanFrom hstart fun span hspan => ?_
    exact accounts_stepAssign op false hspan hwalk hoperand
  · exact accounts_chain hg

theorem accounts_climb (least : Nat) {left : Node} (hstart : q.Here start)
    (hwalk : left.walk.Does scopes met scopes) (hleft : q.Here left.span) :
    q.Accounts scopes (g.climb least start left) (.later met (q.operand scopes)) := by
  refine accounts_afterOperand fun row? => ?_
  split
  · rename_i precedence op
    split
    · exact accounts_pure ⟨rfl, hwalk.done, hleft⟩
    · have hrest : q.Accounts scopes (do
          let _ ← advance
          let right ← g.binary (precedence + 1)
          g.binaryTail least start (binaryNode (← spanFrom start) op left right))
          (.later met (q.operand scopes)) := by
        refine accounts_advance fun _ _ => ?_
        refine accounts_within (hg.binary _) fun right met₁ hright _ => ?_
        refine accounts_spanFrom hstart fun span hspan => accounts_later ?_
        refine hg.binaryTail least hstart ?_ ?_
        · unfold binaryNode
          split <;> exact hwalk.andThen hright
        · unfold binaryNode
          split <;> exact hspan
      refine accounts_currentKind fun kind => ?_
      split
      · exact accounts_currentSpan fun _ hspan => accounts_require hspan rfl hrest
      · exact hrest
  · exact accounts_pure ⟨rfl, hwalk.done, hleft⟩

theorem accounts_binaryLevel (least : Nat) :
    q.Accounts scopes (g.binaryLevel least) (q.operand scopes) := by
  refine accounts_currentSpan fun start hstart => ?_
  refine accounts_within (accounts_unaryLevel hg) fun left met hwalk hleft => ?_
  exact accounts_climb hg least hstart hwalk hleft

theorem accounts_conditionalLevel : q.Accounts scopes g.conditionalLevel (q.operand scopes) := by
  refine accounts_currentSpan fun start hstart => ?_
  refine accounts_within (accounts_binaryLevel hg _) fun cond met hwalk hcond => ?_
  have hfallback (coalesce : Bool) : q.Accounts scopes (do
      let right ← g.conditional
      return Node.elvis (← spanFrom start) cond right coalesce)
      (.later met (q.operand scopes)) := by
    refine accounts_within hg.conditional fun right met₁ hright _ => ?_
    refine accounts_spanFrom hstart fun span hspan => ?_
    exact accounts_pure ⟨rfl, hwalk.andThen hright.done, hspan⟩
  refine accounts_currentKind fun kind => ?_
  split
  · refine accounts_advance fun _ _ => accounts_eat (hfallback false) ?_
    refine accounts_within hg.expr fun thenBranch met₁ hthen _ => accounts_expect fun _ => ?_
    refine accounts_within hg.conditional fun elseBranch met₂ helse _ => ?_
    refine accounts_spanFrom hstart fun span hspan => ?_
    exact accounts_pure ⟨rfl, hwalk.andThen (hthen.andThen helse.done), hspan⟩
  · exact accounts_advance fun _ _ => hfallback true
  · exact accounts_pure ⟨rfl, hwalk.done, hcond⟩

/-- A compound assignment has its target in two places, where it declares the same. -/
theorem accounts_assignmentTail {target : Node} (base? : Option BinaryOp) (hstart : q.Here start)
    (hwalk : target.walk.Does scopes met scopes) (htarget : q.Here target.span) :
    q.Accounts scopes (g.assignmentTail start target base?) (.later met (q.operand scopes)) := by
  have htail (value : Span → Node → Node)
      (hvalue : ∀ (span : Span) (right : Node) (more : List Declaration),
        right.walk.Does scopes more scopes →
        (Node.assign span target (value span right) false).walk.Does scopes (met ++ more) scopes) :
      q.Accounts scopes (do
        unless target.isAssignable do fail .invalidTarget target.span
        let _ ← advance
        let right ← g.assignment
        let span ← spanFrom start
        return Node.assign span target (value span right) false)
        (.later met (q.operand scopes)) := by
    split
    · refine accounts_advance fun _ _ => accounts_within hg.assignment fun right more hright _ => ?_
      refine accounts_spanFrom hstart fun span hspan => ?_
      exact accounts_pure ⟨rfl, hvalue span right _ hright.done, hspan⟩
    · exact accounts_stop htarget
  refine accounts_currentSpan fun here hhere => accounts_require hhere rfl ?_
  cases base? with
  | none => exact htail (fun _ right => right) fun _ _ _ hright => hwalk.andThen hright
  | some op =>
      refine htail (fun span right => .binary span op target right) fun _ _ _ hright => ?_
      -- the second walk through the target meets what the first one has met
      exact (hwalk.andThen (hwalk.andThen hright)).congr (by simp)

theorem accounts_assignmentLevel : q.Accounts scopes g.assignmentLevel (q.operand scopes) := by
  refine accounts_currentSpan fun start hstart => ?_
  refine accounts_within (accounts_conditionalLevel hg) fun target met hwalk htarget => ?_
  refine accounts_afterOperand fun row? => ?_
  split
  · exact accounts_assignmentTail hg none hstart hwalk htarget
  · exact accounts_assignmentTail hg (some _) hstart hwalk htarget
  · exact accounts_pure ⟨rfl, hwalk.done, htarget⟩

/-! ## Sequences of operands -/

theorem accounts_argumentList : q.Accounts scopes g.argumentList (.parts scopes Node.walkAll) := by
  refine accounts_within (accounts_assignmentLevel hg) fun first met hfirst _ => accounts_eat ?_ ?_
  · refine accounts_within hg.arguments fun rest met₁ hrest _ => ?_
    exact accounts_pure ⟨rfl, hfirst.andThen hrest.done, trivial⟩
  · exact accounts_expect fun _ => accounts_pure ⟨rfl, hfirst.andThen .stay, trivial⟩

theorem accounts_itemList : q.Accounts scopes g.itemList (.parts scopes Node.walkAll) := by
  refine accounts_check fun closed => ?_
  split
  · exact accounts_pure ⟨rfl, .stay, trivial⟩
  · refine accounts_within (accounts_assignmentLevel hg) fun first met hfirst _ => ?_
    refine accounts_eat ?_ ?_
    · refine accounts_within hg.items fun rest met₁ hrest _ => ?_
      exact accounts_pure ⟨rfl, hfirst.andThen hrest.done, trivial⟩
    · exact accounts_pure ⟨rfl, hfirst.andThen .stay, trivial⟩

theorem accounts_setTail : q.Accounts scopes g.setTail (.parts scopes Node.walkAll) := by
  refine accounts_eat (accounts_check fun closed => ?_) (accounts_pure ⟨rfl, .stay, trivial⟩)
  split
  · exact accounts_pure ⟨rfl, .stay, trivial⟩
  · refine accounts_within hg.expr fun item met hitem _ => ?_
    refine accounts_within hg.moreItems fun rest met₁ hrest _ => ?_
    exact accounts_pure ⟨rfl, hitem.andThen hrest.done, trivial⟩

theorem accounts_mapTail : q.Accounts scopes g.mapTail (.parts scopes Node.walkEntries) := by
  refine accounts_eat (accounts_check fun closed => ?_) (accounts_pure ⟨rfl, .stay, trivial⟩)
  split
  · exact accounts_pure ⟨rfl, .stay, trivial⟩
  · refine accounts_within hg.expr fun key met hkey _ => accounts_expect fun _ => ?_
    refine accounts_within hg.expr fun value met₁ hvalue _ => ?_
    refine accounts_within hg.moreEntries fun rest met₂ hrest _ => ?_
    exact accounts_pure ⟨rfl, hkey.andThen (hvalue.andThen hrest.done), trivial⟩

theorem accounts_parameterList (params : List String) :
    q.Accounts scopes (g.parameterList params) (.silent scopes) := by
  refine accounts_plain accounts_expectIdent fun (name, span) hspan => ?_
  refine accounts_plain (accounts_addParameter params name hspan) fun params _ => ?_
  refine accounts_eat (hg.parameters _) ?_
  exact accounts_expect fun _ => accounts_pure ⟨rfl, rfl, trivial⟩

end

end ScriptEngine.Checking

import ScriptEngine.Proofs.Pace

/-!
# The pace of expressions

Expressions are read by their levels, and none of the levels passes a token before it goes down
to the next one.  So it is at an operand, or at the operator before it, that the first token is
passed; whatever is asked for comes after it.  What goes on with something that was read before,
such as the operators after an operand, may pass none, but then it asks for nothing either.

* `Pace.keeps_primary`, `Pace.keeps_unaryLevel` — where the first token is passed;
* `Pace.keeps_accessTail`, `Pace.keeps_climb` — what goes on, from any stage;
* `Pace.keeps_assignmentLevel` — the levels above.
-/

namespace ScriptEngine

namespace Pace

open Parse Grammar

variable {p : Pace} {α β : Type} {st st' : Stage} {g g' : Grammar}

/-! ## Names and operators -/

/-- An operator that is found is the token ahead. -/
theorem keeps_operatorAt (lookup : String → Option Operator.Row)
    {next next' : Option Operator.Row → Parse β}
    (h : ∀ row, p.Keeps st st' (next row) (next' row) ∨
      row ≠ none ∧ p.Keeps .near st' (next row) (next' row)) :
    p.Keeps st st' (do next (operatorAt lookup (← cursor)))
      (do next' (operatorAt lookup (← cursor))) := by
  refine keeps_cursor fun c => (h (operatorAt lookup c)).imp_right ?_
  rintro ⟨hsome, hnext⟩
  obtain ⟨row, hrow⟩ := Option.ne_none_iff_exists'.mp hsome
  exact ⟨(of_operatorAt hrow).1, hnext⟩

theorem keeps_afterOperand {next next' : Option Operator.Row → Parse β}
    (h : ∀ row, p.Keeps st st' (next row) (next' row) ∨
      row ≠ none ∧ p.Keeps .near st' (next row) (next' row)) :
    p.Keeps st st' (afterOperand >>= next) (afterOperand >>= next') :=
  keeps_operatorAt Operator.afterOperand? h

theorem keeps_beforeOperand {next next' : Option Operator.Row → Parse β}
    (h : ∀ row, p.Keeps st st' (next row) (next' row) ∨
      row ≠ none ∧ p.Keeps .near st' (next row) (next' row)) :
    p.Keeps st st' (beforeOperand >>= next) (beforeOperand >>= next') :=
  keeps_operatorAt Operator.beforeOperand? h

theorem keeps_memberName : p.Keeps st .passed memberName memberName := by
  refine keeps_cursor fun c => ?_
  dsimp only
  cases hname : memberName? c.current with
  | none => exact .inl fun _ _ => ⟨rfl, nofun⟩
  | some name =>
      refine .inr ⟨Cursor.after_ne_nil fun hend => ?_, keeps_advance fun _ => keeps_pure _⟩
      rw [memberName?, show c.current.kind = .eof from hend] at hname
      cases hname

theorem keeps_word : p.Keeps st .passed word word := by
  refine keeps_cursor fun c => ?_
  dsimp only
  cases hname : word? c.current with
  | none => exact .inl fun _ _ => ⟨rfl, nofun⟩
  | some name =>
      refine .inr ⟨fun hend => ?_, keeps_advance fun _ => keeps_pure _⟩
      rw [Cursor.current, hend] at hname
      cases hname

theorem keeps_stepAssign (target : Node) (op : BinaryOp) (isPostfix : Bool) (span : Span) :
    p.Keeps st st (stepAssign target op isPostfix span) (stepAssign target op isPostfix span) := by
  apply keeps_require
  split
  · exact keeps_pure _
  · exact keeps_stop nofun

theorem keeps_addParameter (params : List String) (name : String) (span : Span) :
    p.Keeps st st (addParameter params name span) (addParameter params name span) := by
  unfold addParameter
  split
  · exact keeps_stop nofun
  · exact keeps_pure _

theorem keeps_literal (value : Literal) : p.Keeps .near .passed (literal value) (literal value) :=
  keeps_advance fun _ => keeps_pure _

/-! ## Operands -/

section

variable (hg : p.Serves g g')

include hg

theorem keeps_callArguments : p.Keeps st .passed g.callArguments g'.callArguments := by
  refine keeps_expect nofun fun _ => ?_
  exact keeps_eat nofun (keeps_pure _) (hg .arguments)

theorem keeps_lambdaParameters : p.Keeps st .passed g.lambdaParameters g'.lambdaParameters := by
  refine keeps_eat nofun ?_ ?_
  · exact keeps_eat nofun (keeps_pure _) (hg (.parameters []))
  · apply keeps_expectIdent
    intro found
    exact keeps_addParameter [] found.1 found.2

theorem keeps_lambda : p.Keeps st .passed g.lambda g'.lambda := by
  apply keeps_currentSpan
  intro start
  apply keeps_require
  refine keeps_cursor fun c => .inl ?_
  apply keeps_bind (keeps_lambdaParameters hg)
  intro params
  have hinside : p.Keeps .passed .passed (inFunction do
        declareAll start params
        if ← check (.symbol .lbrace) then g.block else g.expr) (inFunction do
        declareAll start params
        if ← check (.symbol .lbrace) then g'.block else g'.expr) := by
    apply keeps_inFunction
    apply keeps_bind (keeps_declareAll start params)
    intro _
    exact keeps_check (.inl (hg .block)) (hg .expr)
  have hbody : p.Keeps .passed .passed (do
        let body ← inFunction do
          declareAll start params
          if ← check (.symbol .lbrace) then g.block else g.expr
        return Node.lambda (← spanFrom start) ⟨(← read).unit, c.position + 1⟩ params body)
      (do
        let body ← inFunction do
          declareAll start params
          if ← check (.symbol .lbrace) then g'.block else g'.expr
        return Node.lambda (← spanFrom start) ⟨(← read).unit, c.position + 1⟩ params body) := by
    apply keeps_bind hinside
    intro body
    apply keeps_spanFrom
    intro span
    apply keeps_read
    intro _
    exact keeps_pure _
  exact keeps_eat nofun hbody (keeps_expect nofun fun _ => hbody)

theorem keeps_construct : p.Keeps .near .passed g.construct g'.construct := by
  apply keeps_currentSpan
  intro start
  apply keeps_require
  apply keeps_advance
  intro _
  apply keeps_bind (keeps_callArguments hg)
  intro args
  cases args with
  | nil => exact keeps_spanFrom fun span => keeps_fail nofun
  | cons className rest => exact keeps_make start _

theorem keeps_array : p.Keeps .near .passed g.array g'.array := by
  apply keeps_currentSpan
  intro start
  apply keeps_require
  apply keeps_advance
  intro _
  apply keeps_bind (hg .items)
  intro items
  refine keeps_expect nofun fun _ => ?_
  exact keeps_make start _

theorem keeps_bracesTail (start : Span) (first : Node) :
    p.Keeps .passed .passed (g.bracesTail start first) (g'.bracesTail start first) := by
  refine keeps_eat nofun ?_ ?_
  · apply keeps_bind (hg .expr)
    intro value
    apply keeps_bind (hg .moreEntries)
    intro rest
    refine keeps_expect nofun fun _ => ?_
    exact keeps_make start _
  · apply keeps_bind (hg .moreItems)
    intro rest
    refine keeps_expect nofun fun _ => ?_
    exact keeps_make start _

theorem keeps_braces : p.Keeps .near .passed g.braces g'.braces := by
  apply keeps_currentSpan
  intro start
  apply keeps_require
  apply keeps_advance
  intro _
  have hempty : p.Keeps .passed .passed (do return Node.map (← spanFrom start) [])
      (do return Node.map (← spanFrom start) []) := keeps_make start _
  refine keeps_eat nofun hempty ?_
  have hpairs (found : Bool) : p.Keeps .passed .passed (do
        if found && (← peek 1) = .symbol .rbrace then
          let _ ← advance
          let _ ← advance
          return .map (← spanFrom start) []
        let first ← g.expr
        g.bracesTail start first) (do
        if found && (← peek 1) = .symbol .rbrace then
          let _ ← advance
          let _ ← advance
          return .map (← spanFrom start) []
        let first ← g'.expr
        g'.bracesTail start first) := by
    apply keeps_peek
    intro kind
    split
    · apply Keeps.further
      apply keeps_advance
      intro _
      apply Keeps.further
      apply keeps_advance
      intro _
      exact hempty
    · apply keeps_bind (hg .expr)
      intro first
      exact keeps_bracesTail hg start first
  exact keeps_check (.inl (hpairs true)) (hpairs false)

theorem keeps_primary : p.Keeps st .passed g.primary g'.primary := by
  refine keeps_cursor fun c => ?_
  dsimp only
  have hhere {kind : TokenKind} (hkind : c.current.kind = kind) (hend : kind ≠ .eof) :
      c.after ≠ [] := Cursor.after_ne_nil fun heof => hend (hkind.symm.trans heof)
  split
  · rename_i hkind
    exact .inr ⟨hhere hkind nofun, keeps_literal _⟩
  · rename_i hkind
    exact .inr ⟨hhere hkind nofun, keeps_literal _⟩
  · rename_i hkind
    exact .inr ⟨hhere hkind nofun, keeps_literal _⟩
  · rename_i hkind
    exact .inr ⟨hhere hkind nofun, keeps_literal _⟩
  · rename_i hkind
    exact .inr ⟨hhere hkind nofun, keeps_literal _⟩
  · rename_i hkind
    refine .inr ⟨hhere hkind nofun, keeps_peek fun following => ?_⟩
    split
    · exact keeps_construct hg
    · split
      · exact keeps_lambda hg
      · exact keeps_advance fun _ => keeps_pure _
  · rename_i hkind
    refine .inr ⟨hhere hkind nofun, keeps_cursor fun c' => .inl ?_⟩
    split
    · exact keeps_lambda hg
    · apply keeps_advance
      intro _
      apply keeps_bind (hg .expr)
      intro inner
      refine keeps_expect nofun fun _ => ?_
      exact keeps_pure inner
  · rename_i hkind
    exact .inr ⟨hhere hkind nofun, keeps_array hg⟩
  · rename_i hkind
    exact .inr ⟨hhere hkind nofun, keeps_braces hg⟩
  · exact .inl fun _ _ => ⟨rfl, nofun⟩

/-! ## Operators -/

omit hg in
/-- A step after an operand that can be assigned to. -/
theorem keeps_stepAfter (start : Span) (object : Node) (op : BinaryOp) :
    p.Keeps .near .passed (do let _ ← advance; stepAssign object op true (← spanFrom start))
      (do let _ ← advance; stepAssign object op true (← spanFrom start)) := by
  apply keeps_advance
  intro _
  apply keeps_spanFrom
  intro span
  exact keeps_stepAssign object op true span

theorem keeps_accessTail (start : Span) (object : Node) :
    p.Keeps st st (g.accessTail start object) (g'.accessTail start object) := by
  refine keeps_currentKind fun kind => ?_
  split
  · refine .inr ⟨nofun, .anyEnd (keeps_advance fun _ => ?_)⟩
    apply keeps_bind keeps_memberName
    intro member
    refine keeps_check (.inl ?_) ?_
    · apply keeps_require
      apply keeps_bind (keeps_callArguments hg)
      intro args
      apply keeps_spanFrom
      intro span
      exact hg (.accesses start (.methodCall span object member.1 args))
    · apply keeps_spanFrom
      intro span
      exact hg (.accesses start (.property span object member.1))
  · refine .inr ⟨nofun, .anyEnd (keeps_advance fun _ => ?_)⟩
    apply keeps_bind (hg .expr)
    intro key
    refine keeps_expect nofun fun _ => ?_
    apply keeps_spanFrom
    intro span
    exact hg (.accesses start (.index span object key))
  · refine .inl (.anyEnd ?_)
    apply keeps_bind (keeps_callArguments hg)
    intro args
    apply keeps_spanFrom
    intro span
    exact hg (.accesses start (.call span object args))
  · split
    · exact .inr ⟨nofun, .anyEnd (keeps_stepAfter start object .add)⟩
    · exact .inl (keeps_pure object)
  · split
    · exact .inr ⟨nofun, .anyEnd (keeps_stepAfter start object .sub)⟩
    · exact .inl (keeps_pure object)
  · exact .inl (keeps_pure object)

theorem keeps_chain : p.Keeps st .passed g.chain g'.chain := by
  apply keeps_currentSpan
  intro start
  apply keeps_bind (keeps_primary hg)
  intro object
  exact keeps_accessTail hg start object

theorem keeps_unaryLevel : p.Keeps st .passed g.unaryLevel g'.unaryLevel := by
  apply keeps_currentSpan
  intro start
  refine keeps_beforeOperand fun row => ?_
  split
  · rename_i op
    have hrest : p.Keeps .near .passed (do
        let _ ← advance
        let operand ← g.unary
        return Node.unary (← spanFrom start) op operand) (do
        let _ ← advance
        let operand ← g'.unary
        return Node.unary (← spanFrom start) op operand) := by
      apply keeps_advance
      intro _
      apply keeps_bind (hg .unary)
      intro operand
      exact keeps_make start _
    have hword (found : Bool) : p.Keeps .near .passed (do
        if op = .not ∧ found then require .comparatorNames start
        let _ ← advance
        let operand ← g.unary
        return Node.unary (← spanFrom start) op operand) (do
        if op = .not ∧ found then require .comparatorNames start
        let _ ← advance
        let operand ← g'.unary
        return Node.unary (← spanFrom start) op operand) := by
      split
      · exact keeps_require hrest
      · exact hrest
    exact .inr ⟨nofun, keeps_check (.inl (hword true)) (hword false)⟩
  · refine .inr ⟨nofun, keeps_advance fun _ => ?_⟩
    apply keeps_bind (hg .unary)
    intro operand
    apply keeps_spanFrom
    intro span
    exact keeps_stepAssign operand _ false span
  · exact .inl (keeps_chain hg)

theorem keeps_climb (least : Nat) (start : Span) (left : Node) :
    p.Keeps st st (g.climb least start left) (g'.climb least start left) := by
  refine keeps_afterOperand fun row => ?_
  split
  · rename_i precedence op
    split
    · exact .inl (keeps_pure left)
    have hrest : p.Keeps .near .passed (do
        let _ ← advance
        let right ← g.binary (precedence + 1)
        g.binaryTail least start (binaryNode (← spanFrom start) op left right)) (do
        let _ ← advance
        let right ← g'.binary (precedence + 1)
        g'.binaryTail least start (binaryNode (← spanFrom start) op left right)) := by
      apply keeps_advance
      intro _
      apply keeps_bind (hg (.binary (precedence + 1)))
      intro right
      apply keeps_spanFrom
      intro span
      exact hg (.binaryTail least start (binaryNode span op left right))
    refine .inr ⟨nofun, .anyEnd (keeps_currentKind fun kind => .inl ?_)⟩
    split
    · exact keeps_currentSpan fun span => keeps_require hrest
    · exact hrest
  · exact .inl (keeps_pure left)

theorem keeps_binaryLevel (least : Nat) :
    p.Keeps st .passed (g.binaryLevel least) (g'.binaryLevel least) := by
  apply keeps_currentSpan
  intro start
  apply keeps_bind (keeps_unaryLevel hg)
  intro left
  exact keeps_climb hg least start left

theorem keeps_conditionalLevel : p.Keeps st .passed g.conditionalLevel g'.conditionalLevel := by
  apply keeps_currentSpan
  intro start
  apply keeps_bind (keeps_binaryLevel hg _)
  intro cond
  have hfallback (coalesce : Bool) : p.Keeps .passed .passed (do
      let right ← g.conditional
      return Node.elvis (← spanFrom start) cond right coalesce) (do
      let right ← g'.conditional
      return Node.elvis (← spanFrom start) cond right coalesce) := by
    apply keeps_bind (hg .conditional)
    intro right
    exact keeps_make start _
  refine keeps_currentKind fun kind => .inl ?_
  split
  · apply Keeps.further
    apply keeps_advance
    intro _
    refine keeps_eat nofun (hfallback false) ?_
    apply keeps_bind (hg .expr)
    intro thenBranch
    refine keeps_expect nofun fun _ => ?_
    apply keeps_bind (hg .conditional)
    intro elseBranch
    exact keeps_make start _
  · apply Keeps.further
    apply keeps_advance
    intro _
    exact hfallback true
  · exact keeps_pure cond

theorem keeps_assignmentTail (start : Span) (target : Node) (base? : Option BinaryOp) :
    p.Keeps .near .passed (g.assignmentTail start target base?)
      (g'.assignmentTail start target base?) := by
  apply keeps_currentSpan
  intro place
  apply keeps_require
  by_cases hassignable : target.isAssignable = true
  · simp only [hassignable, if_true]
    apply keeps_advance
    intro _
    apply keeps_bind (hg .assignment)
    intro right
    exact keeps_make start _
  · simp only [hassignable]
    exact keeps_stop nofun

theorem keeps_assignmentLevel : p.Keeps st .passed g.assignmentLevel g'.assignmentLevel := by
  apply keeps_currentSpan
  intro start
  apply keeps_bind (keeps_conditionalLevel hg)
  intro target
  refine keeps_afterOperand fun row => .inl ?_
  split
  · exact .further (keeps_assignmentTail hg start target none)
  · exact .further (keeps_assignmentTail hg start target (some _))
  · exact keeps_pure target

/-! ## Sequences of operands -/

theorem keeps_argumentList : p.Keeps st .passed g.argumentList g'.argumentList := by
  apply keeps_bind (keeps_assignmentLevel hg)
  intro first
  refine keeps_eat nofun ?_ ?_
  · apply keeps_bind (hg .arguments)
    intro rest
    exact keeps_pure _
  · exact keeps_expect nofun fun _ => keeps_pure _

theorem keeps_itemList : p.Keeps st st g.itemList g'.itemList := by
  refine keeps_check (.inl (keeps_pure [])) (.anyEnd ?_)
  apply keeps_bind (keeps_assignmentLevel hg)
  intro first
  refine keeps_eat nofun ?_ (keeps_pure _)
  apply keeps_bind (hg .items)
  intro rest
  exact keeps_pure _

theorem keeps_setTail : p.Keeps st st g.setTail g'.setTail := by
  refine keeps_eat nofun (.anyEnd ?_) (keeps_pure [])
  refine keeps_check (.inl (keeps_pure [])) ?_
  apply keeps_bind (hg .expr)
  intro item
  apply keeps_bind (hg .moreItems)
  intro rest
  exact keeps_pure _

theorem keeps_mapTail : p.Keeps st st g.mapTail g'.mapTail := by
  refine keeps_eat nofun (.anyEnd ?_) (keeps_pure [])
  refine keeps_check (.inl (keeps_pure [])) ?_
  apply keeps_bind (hg .expr)
  intro key
  refine keeps_expect nofun fun _ => ?_
  apply keeps_bind (hg .expr)
  intro value
  apply keeps_bind (hg .moreEntries)
  intro rest
  exact keeps_pure _

theorem keeps_parameterList (params : List String) :
    p.Keeps st .passed (g.parameterList params) (g'.parameterList params) := by
  apply keeps_expectIdent
  intro found
  apply keeps_bind (keeps_addParameter params found.1 found.2)
  intro params
  exact keeps_eat nofun (hg (.parameters params)) (keeps_expect nofun fun _ => keeps_pure params)

end

end Pace

end ScriptEngine

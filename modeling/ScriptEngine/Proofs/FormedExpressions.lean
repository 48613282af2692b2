import ScriptEngine.Proofs.FormedReading

/-!
# The expressions that are read are formed

The productions of expressions yield trees that may stand as operands, if the requests nested
in them yield what they are meant to.

* `Grammar.Forms` — grammars whose productions yield formed trees;
* `yields_primary`, `yields_accessTail` — operands and their members;
* `yields_climb`, `yields_assignmentLevel` — operators by their levels.
-/

namespace ScriptEngine

/-- An operand is yielded. -/
@[reducible]
def Node.operand (node : Node) (_ : Cursor) : Prop := node.Formed .operand

/-- Several operands are yielded. -/
@[reducible]
def Node.operands (nodes : List Node) (_ : Cursor) : Prop := ∀ node ∈ nodes, node.Formed .operand

/-- The entries of a map are yielded. -/
@[reducible]
def Node.entries (entries : List (Node × Node)) (_ : Cursor) : Prop :=
  ∀ entry ∈ entries, entry.1.Formed .operand ∧ entry.2.Formed .operand

/-- Parameters are yielded: names, and none twice. -/
@[reducible]
def Node.parameters (params : List String) (_ : Cursor) : Prop :=
  params.Nodup ∧ ∀ name ∈ params, IsName name

/-- The key of a directive is yielded. -/
@[reducible]
def Pragma.keyed (key : String) (_ : Cursor) : Prop :=
  ∃ part parts, (∀ name ∈ part :: parts, IsWordName name) ∧ key = ScriptEngine.dottedName part parts

/-- A statement is yielded, so many loops being open; an `if` that it leaves open finds no
`else`. -/
@[reducible]
def Node.placed (loops : Nat) (node : Node) (c : Cursor) : Prop :=
  node.Formed (.statement (decide (0 < loops))) ∧
    (node.hangs = true → NoElse (c.after.map Token.word))

/-- A block is yielded. -/
@[reducible]
def Node.placedBlock (loops : Nat) (node : Node) (_ : Cursor) : Prop :=
  node.Formed (.statement (decide (0 < loops))) ∧ node.isBlock = true

/-- Statements in a row are yielded. -/
@[reducible]
def Node.placedAll (loops : Nat) (nodes : List Node) (_ : Cursor) : Prop :=
  ∀ node ∈ nodes, node.Formed (.statement (decide (0 < loops)))

open Parse

/-- **Grammars that form trees**: each production yields what may stand where it is asked for. -/
structure Grammar.Forms (g : Grammar) : Prop where
  expr : ∀ {loops s}, Yields loops s g.expr Node.operand
  assignment : ∀ {loops s}, Yields loops s g.assignment Node.operand
  conditional : ∀ {loops s}, Yields loops s g.conditional Node.operand
  binary : ∀ {loops s} (least : Nat), Yields loops s (g.binary least) Node.operand
  binaryTail : ∀ {loops s} (least : Nat) (start : Span) {left : Node}, left.Formed .operand →
    Yields loops s (g.binaryTail least start left) Node.operand
  unary : ∀ {loops s}, Yields loops s g.unary Node.operand
  accesses : ∀ {loops s} (start : Span) {object : Node}, object.Formed .operand →
    Yields loops s (g.accesses start object) Node.operand
  arguments : ∀ {loops s}, Yields loops s g.arguments Node.operands
  items : ∀ {loops s}, Yields loops s g.items Node.operands
  moreItems : ∀ {loops s}, Yields loops s g.moreItems Node.operands
  moreEntries : ∀ {loops s}, Yields loops s g.moreEntries Node.entries
  parameters : ∀ {loops s} {params : List String}, params.Nodup → (∀ name ∈ params, IsName name) →
    Yields loops s (g.parameters params) Node.parameters
  dotted : ∀ {loops s} {part : String} {parts : List String},
    (∀ name ∈ part :: parts, IsWordName name) →
    Yields loops s (g.dotted (ScriptEngine.dottedName part parts)) Pragma.keyed
  block : ∀ {loops s}, Yields loops s g.block (Node.placedBlock loops)
  body : ∀ {loops s}, Yields loops s g.body (Node.placed loops)
  blockStatements : ∀ {loops s}, Yields loops s g.blockStatements (Node.placedAll loops)
  statements : ∀ {loops s}, Yields loops s g.statements (Node.placedAll loops)

namespace Grammar

variable {g : Grammar} {loops : Nat} {s : Progress} {start : Span}

/-! ## Words and operators -/

theorem yields_word : Yields loops s word (fun found _ => IsWordName found.1) := by
  refine yields_cursor fun hcurrent => ?_
  dsimp only
  split
  case h_1 name hname =>
    exact yields_advance fun _ _ => yields_pure (hcurrent.word name hname)
  case h_2 => exact yields_currentSpan fun _ => yields_fail

theorem yields_memberName : Yields loops s memberName (fun _ _ => True) := by
  refine yields_cursor fun _ => ?_
  dsimp only
  split
  · exact yields_advance fun _ _ => yields_pure trivial
  · exact yields_currentSpan fun _ => yields_fail

/-- Whether an operator is a step by plus or minus, or no step, and makes no range of an
assignment. -/
def isPlainOperator : Operator → Bool
  | .step op => op = .add || op = .sub
  | .compound op => op ≠ .range
  | _ => true

/-- All operators are plain. -/
theorem isPlainOperator_of_operatorAt {lookup : String → Option Operator.Row} {c : Cursor}
    {row : Operator.Row} (hlookup : ∀ text row, lookup text = some row → row ∈ Operator.table)
    (h : operatorAt lookup c = some row) : isPlainOperator row.operator = true := by
  have hall : ∀ row ∈ Operator.table, isPlainOperator row.operator = true := by decide
  unfold operatorAt at h
  split at h <;> first | cases h | exact hall row (hlookup _ row h)

section

variable {β : Type} {next : Option Operator.Row → Parse β} {holds : β → Cursor → Prop}

theorem yields_afterOperand (h : ∀ row?, (∀ row, row? = some row →
      isPlainOperator row.operator = true) → Yields loops s (next row?) holds) :
    Yields loops s (afterOperand >>= next) holds :=
  h (operatorAt Operator.afterOperand? s.cursor) fun _ =>
    isPlainOperator_of_operatorAt fun _ _ => List.mem_of_find?_eq_some

theorem yields_beforeOperand (h : ∀ row?, (∀ row, row? = some row →
      isPlainOperator row.operator = true) → Yields loops s (next row?) holds) :
    Yields loops s (beforeOperand >>= next) holds :=
  h (operatorAt Operator.beforeOperand? s.cursor) fun _ =>
    isPlainOperator_of_operatorAt fun _ _ => List.mem_of_find?_eq_some

end

/-- One can be written. -/
theorem isWritable_one : (Literal.number 1).IsWritable := ⟨by decide, 0, by decide⟩

/-- A step is an assignment, before its operand or after it. -/
theorem yields_stepAssign {target : Node} {op : BinaryOp} (isPostfix : Bool) {span : Span}
    (hop : op = .add ∨ op = .sub) (htarget : target.Formed .operand) :
    Yields loops s (stepAssign target op isPostfix span) Node.operand := by
  refine yields_require ?_
  split
  case isTrue hassignable =>
    refine yields_pure ?_
    cases isPostfix with
    | true => exact .step hop hassignable htarget
    | false =>
        have hrange : op ≠ .range := by rcases hop with rfl | rfl <;> nofun
        exact .assign hassignable htarget (.binary hrange htarget (.literal isWritable_one))
  case isFalse => exact yields_stop

/-! ## Operands -/

theorem yields_addParameter {params : List String} {name : String} {span : Span}
    (hnodup : params.Nodup) (hparams : ∀ name ∈ params, IsName name) (hname : IsName name) :
    Yields loops s (addParameter params name span) Node.parameters := by
  unfold addParameter
  split
  case isTrue => exact yields_stop
  case isFalse hfresh =>
    refine yields_pure ⟨?_, ?_⟩
    · refine List.nodup_append.mpr ⟨hnodup, List.pairwise_singleton _ _, ?_⟩
      rintro known hknown _ hmem rfl
      rw [List.mem_singleton.mp hmem] at hknown
      exact hfresh (List.contains_iff_mem.mpr hknown)
    · exact List.forall_mem_append.mpr ⟨hparams, List.forall_mem_singleton.mpr hname⟩

theorem yields_literal {value : Literal} (h : value.IsWritable) :
    Yields loops s (literal value) Node.operand :=
  yields_advance fun _ _ => yields_pure (.literal h)

section

variable (hg : g.Forms)

include hg

theorem yields_callArguments : Yields loops s g.callArguments Node.operands :=
  yields_expect fun _ => yields_eat (fun _ _ => yields_pure nofun) fun _ => hg.arguments

theorem yields_lambdaParameters : Yields loops s g.lambdaParameters Node.parameters := by
  refine yields_eat (fun _ _ => ?_) fun _ => ?_
  · refine yields_eat (fun _ _ => yields_pure ⟨.nil, nofun⟩) fun _ => ?_
    exact hg.parameters .nil nofun
  · refine yields_bind yields_expectIdent fun (name, span) _ hname => ?_
    exact yields_addParameter .nil nofun hname

theorem yields_lambda : Yields loops s g.lambda Node.operand := by
  refine yields_currentSpan fun start => yields_require (yields_cursor fun _ => ?_)
  refine yields_bind (yields_lambdaParameters hg) fun params s₁ hparams => ?_
  -- the body is in a function of its own, so that no loop is open there
  have hbody {s : Progress} : Yields loops s (inFunction do
      declareAll start params
      if ← check (.symbol .lbrace) then g.block else g.expr)
      (fun body c => body.Formed .operand ∨ body.placedBlock 0 c) := by
    refine yields_inFunction fun s' => yields_bind (yields_declareAll _ _) fun _ _ _ => ?_
    refine yields_check ?_
    split
    · exact hg.block.imp fun _ _ => .inr
    · exact hg.expr.imp fun _ _ => .inl
  have hrest {s : Progress} {position : Nat} : Yields loops s (do
      let body ← inFunction do
        declareAll start params
        if ← check (.symbol .lbrace) then g.block else g.expr
      return Node.lambda (← spanFrom start) ⟨(← read).unit, position⟩ params body)
      Node.operand := by
    refine yields_bind hbody fun body s' hbody => yields_spanFrom fun span => ?_
    refine yields_read fun d => yields_pure ?_
    rcases hbody with hoperand | ⟨hblock, hbrace⟩
    · exact .lambda hparams.1 hparams.2 hoperand
    · exact .lambdaBlock hparams.1 hparams.2 hbrace hblock
  exact yields_eat (fun _ _ => hrest) fun _ => yields_expect fun _ => hrest

theorem yields_construct : Yields loops s g.construct Node.operand := by
  refine yields_currentSpan fun start => yields_require (yields_advance fun s' _ => ?_)
  refine yields_bind (yields_callArguments hg) fun args s₁ hargs => ?_
  cases args with
  | nil => exact yields_spanFrom fun _ => yields_fail
  | cons className args =>
      obtain ⟨hclass, hargs⟩ := List.forall_mem_cons.mp hargs
      exact yields_spanFrom fun _ => yields_pure (.construct hclass hargs)

theorem yields_array : Yields loops s g.array Node.operand := by
  refine yields_currentSpan fun start => yields_require (yields_advance fun s' _ => ?_)
  refine yields_bind hg.items fun items s₁ hitems => yields_expect fun _ => ?_
  exact yields_spanFrom fun _ => yields_pure (.array hitems)

theorem yields_bracesTail {first : Node} (hfirst : first.Formed .operand) :
    Yields loops s (g.bracesTail start first) Node.operand := by
  refine yields_eat (fun _ _ => ?_) fun _ => ?_
  · refine yields_bind hg.expr fun value _ hvalue => ?_
    refine yields_bind hg.moreEntries fun rest _ hrest => yields_expect fun _ => ?_
    have hall : ∀ entry ∈ (first, value) :: rest,
        entry.1.Formed .operand ∧ entry.2.Formed .operand :=
      List.forall_mem_cons.mpr ⟨⟨hfirst, hvalue⟩, hrest⟩
    exact yields_spanFrom fun _ => yields_pure
      (.map (fun entry hentry => (hall entry hentry).1) fun entry hentry => (hall entry hentry).2)
  · refine yields_bind hg.moreItems fun rest _ hrest => yields_expect fun _ => ?_
    exact yields_spanFrom fun _ => yields_pure
      (.set (List.cons_ne_nil _ _) (List.forall_mem_cons.mpr ⟨hfirst, hrest⟩))

theorem yields_braces : Yields loops s g.braces Node.operand := by
  have hempty {s : Progress} {start : Span} :
      Yields loops s (do return Node.map (← spanFrom start) []) Node.operand :=
    yields_spanFrom fun _ => yields_pure (.map nofun nofun)
  refine yields_currentSpan fun start => yields_require (yields_advance fun s' _ => ?_)
  refine yields_eat (fun _ _ => hempty) fun _ => yields_check (yields_peek ?_)
  split
  · exact yields_advance fun _ _ => yields_advance fun _ _ => hempty
  · exact yields_bind hg.expr fun first _ hfirst => yields_bracesTail hg hfirst

theorem yields_primary : Yields loops s g.primary Node.operand := by
  refine yields_cursor fun hcurrent => ?_
  dsimp only
  split
  case h_1 q hkind => exact yields_literal (hcurrent.number q hkind)
  case h_2 => exact yields_literal trivial
  case h_3 => exact yields_literal trivial
  case h_4 => exact yields_literal trivial
  case h_5 => exact yields_literal trivial
  case h_6 name hkind =>
    refine yields_peek ?_
    split
    · exact yields_construct hg
    · split
      · exact yields_lambda hg
      · exact yields_advance fun _ _ => yields_pure (.ident (hcurrent.ident name hkind))
  case h_7 =>
    refine yields_cursor fun _ => ?_
    split
    · exact yields_lambda hg
    · refine yields_advance fun _ _ => yields_bind hg.expr fun inner _ hinner => ?_
      exact yields_expect fun _ => yields_pure hinner
  case h_8 => exact yields_array hg
  case h_9 => exact yields_braces hg
  case h_10 => exact yields_currentSpan fun _ => yields_fail

/-! ## Operators -/

theorem yields_accessTail {object : Node} (h : object.Formed .operand) :
    Yields loops s (g.accessTail start object) Node.operand := by
  have hstep {op : BinaryOp} (hop : op = .add ∨ op = .sub) :
      Yields loops s (if object.isAssignable = true then do
        let _ ← advance
        stepAssign object op true (← spanFrom start)
        else pure object) Node.operand := by
    split
    · exact yields_advance fun _ _ => yields_spanFrom fun _ => yields_stepAssign true hop h
    · exact yields_pure h
  refine yields_currentKind fun _ => ?_
  split
  · refine yields_advance fun _ _ => yields_bind yields_memberName fun (name, span) _ _ => ?_
    refine yields_check ?_
    split
    · refine yields_require (yields_bind (yields_callArguments hg) fun args _ hargs => ?_)
      exact yields_spanFrom fun _ => hg.accesses start (.methodCall h hargs)
    · exact yields_spanFrom fun _ => hg.accesses start (.property h)
  · refine yields_advance fun _ _ => yields_bind hg.expr fun key _ hkey => yields_expect fun _ => ?_
    exact yields_spanFrom fun _ => hg.accesses start (.index h hkey)
  · refine yields_bind (yields_callArguments hg) fun args _ hargs => ?_
    exact yields_spanFrom fun _ => hg.accesses start (.call h hargs)
  · exact hstep (.inl rfl)
  · exact hstep (.inr rfl)
  · exact yields_pure h

theorem yields_chain : Yields loops s g.chain Node.operand :=
  yields_currentSpan fun _ => yields_bind (yields_primary hg) fun _ _ h => yields_accessTail hg h

theorem yields_unaryLevel : Yields loops s g.unaryLevel Node.operand := by
  refine yields_currentSpan fun start => yields_beforeOperand fun row? hplain => ?_
  split
  · rename_i op
    have hrest : Yields loops s (do
        let _ ← advance
        let operand ← g.unary
        return Node.unary (← spanFrom start) op operand) Node.operand := by
      refine yields_advance fun _ _ => yields_bind hg.unary fun operand _ hoperand => ?_
      exact yields_spanFrom fun _ => yields_pure (.unary hoperand)
    refine yields_check ?_
    split
    · exact yields_require hrest
    · exact hrest
  · rename_i op
    have hop : op = .add ∨ op = .sub := by simpa [isPlainOperator] using hplain _ rfl
    refine yields_advance fun _ _ => yields_bind hg.unary fun operand _ hoperand => ?_
    exact yields_spanFrom fun _ => yields_stepAssign false hop hoperand
  · exact yields_chain hg

theorem yields_climb (least : Nat) {left : Node} (hleft : left.Formed .operand) :
    Yields loops s (g.climb least start left) Node.operand := by
  refine yields_afterOperand fun row? _ => ?_
  split
  · rename_i precedence op _
    split
    · exact yields_pure hleft
    · have hrest {s : Progress} : Yields loops s (do
          let _ ← advance
          let right ← g.binary (precedence + 1)
          g.binaryTail least start (binaryNode (← spanFrom start) op left right))
          Node.operand := by
        refine yields_advance fun _ _ => yields_bind (hg.binary _) fun right _ hright => ?_
        refine yields_spanFrom fun span => hg.binaryTail least start ?_
        unfold binaryNode
        split
        case isTrue => exact .range hleft hright
        case isFalse hop => exact .binary hop hleft hright
      refine yields_currentKind fun _ => ?_
      split
      · exact yields_currentSpan fun _ => yields_require hrest
      · exact hrest
  · exact yields_pure hleft

theorem yields_binaryLevel (least : Nat) : Yields loops s (g.binaryLevel least) Node.operand :=
  yields_currentSpan fun _ =>
    yields_bind (yields_unaryLevel hg) fun _ _ hleft => yields_climb hg least hleft

theorem yields_conditionalLevel : Yields loops s g.conditionalLevel Node.operand := by
  refine yields_currentSpan fun start => ?_
  refine yields_bind (yields_binaryLevel hg _) fun cond s₁ hcond => ?_
  have hfallback {s : Progress} (coalesce : Bool) : Yields loops s (do
      let right ← g.conditional
      return Node.elvis (← spanFrom start) cond right coalesce) Node.operand := by
    refine yields_bind hg.conditional fun right _ hright => ?_
    exact yields_spanFrom fun _ => yields_pure (.elvis hcond hright)
  refine yields_currentKind fun _ => ?_
  split
  · refine yields_advance fun _ _ => yields_eat (fun _ _ => hfallback false) fun _ => ?_
    refine yields_bind hg.expr fun thenBranch _ hthen => yields_expect fun _ => ?_
    refine yields_bind hg.conditional fun elseBranch _ helse => ?_
    exact yields_spanFrom fun _ => yields_pure (.ternary hcond hthen helse)
  · exact yields_advance fun _ _ => hfallback true
  · exact yields_pure hcond

theorem yields_assignmentTail {target : Node} (base? : Option BinaryOp)
    (hbase : ∀ op, base? = some op → op ≠ .range) (htarget : target.Formed .operand) :
    Yields loops s (g.assignmentTail start target base?) Node.operand := by
  have htail (value : Span → Node → Node)
      (hvalue : ∀ span right, right.Formed .operand → (value span right).Formed .operand)
      {s : Progress} : Yields loops s (do
        unless target.isAssignable do fail .invalidTarget target.span
        let _ ← advance
        let right ← g.assignment
        let span ← spanFrom start
        return Node.assign span target (value span right) false) Node.operand := by
    split
    case isTrue hassignable =>
      refine yields_advance fun _ _ => yields_bind hg.assignment fun right _ hright => ?_
      exact yields_spanFrom fun span => yields_pure
        (.assign hassignable htarget (hvalue span right hright))
    case isFalse => exact yields_stop
  refine yields_currentSpan fun _ => yields_require ?_
  cases base? with
  | none => exact htail (fun _ right => right) fun _ _ hright => hright
  | some op =>
      exact htail (fun span right => .binary span op target right)
        fun _ _ hright => .binary (hbase op rfl) htarget hright

theorem yields_assignmentLevel : Yields loops s g.assignmentLevel Node.operand := by
  refine yields_currentSpan fun start => ?_
  refine yields_bind (yields_conditionalLevel hg) fun target _ htarget => ?_
  refine yields_afterOperand fun row? hplain => ?_
  split
  · exact yields_assignmentTail hg none nofun htarget
  · rename_i op
    refine yields_assignmentTail hg (some op) (fun op' hop => ?_) htarget
    obtain rfl := Option.some.inj hop
    simpa [isPlainOperator] using hplain _ rfl
  · exact yields_pure htarget

/-! ## Sequences of operands -/

theorem yields_argumentList : Yields loops s g.argumentList Node.operands := by
  refine yields_bind (yields_assignmentLevel hg) fun first _ hfirst => ?_
  refine yields_eat (fun _ _ => yields_bind hg.arguments fun rest _ hrest => ?_) fun _ => ?_
  · exact yields_pure (List.forall_mem_cons.mpr ⟨hfirst, hrest⟩)
  · exact yields_expect fun _ => yields_pure (List.forall_mem_singleton.mpr hfirst)

theorem yields_itemList : Yields loops s g.itemList Node.operands := by
  refine yields_check ?_
  split
  · exact yields_pure nofun
  · refine yields_bind (yields_assignmentLevel hg) fun first _ hfirst => ?_
    refine yields_eat (fun _ _ => yields_bind hg.items fun rest _ hrest => ?_) fun _ => ?_
    · exact yields_pure (List.forall_mem_cons.mpr ⟨hfirst, hrest⟩)
    · exact yields_pure (List.forall_mem_singleton.mpr hfirst)

theorem yields_setTail : Yields loops s g.setTail Node.operands := by
  refine yields_eat (fun _ _ => yields_check ?_) fun _ => yields_pure nofun
  split
  · exact yields_pure nofun
  · refine yields_bind hg.expr fun item _ hitem => yields_bind hg.moreItems fun rest _ hrest => ?_
    exact yields_pure (List.forall_mem_cons.mpr ⟨hitem, hrest⟩)

theorem yields_mapTail : Yields loops s g.mapTail Node.entries := by
  refine yields_eat (fun _ _ => yields_check ?_) fun _ => yields_pure nofun
  split
  · exact yields_pure nofun
  · refine yields_bind hg.expr fun key _ hkey => yields_expect fun _ => ?_
    refine yields_bind hg.expr fun value _ hvalue => ?_
    refine yields_bind hg.moreEntries fun rest _ hrest => ?_
    exact yields_pure (List.forall_mem_cons.mpr ⟨⟨hkey, hvalue⟩, hrest⟩)

theorem yields_parameterList {params : List String} (hnodup : params.Nodup)
    (hparams : ∀ name ∈ params, IsName name) :
    Yields loops s (g.parameterList params) Node.parameters := by
  refine yields_bind yields_expectIdent fun (name, span) _ hname => ?_
  refine yields_bind (yields_addParameter hnodup hparams hname) fun params' _ hparams' => ?_
  refine yields_eat (fun _ _ => hg.parameters hparams'.1 hparams'.2) fun _ => ?_
  exact yields_expect fun _ => yields_pure hparams'

end

end Grammar

end ScriptEngine

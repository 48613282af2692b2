import ScriptEngine.Tree

/-!
# Trees of other compilations

A function literal carries the number of the compilation that read it.  Everything else
in a tree comes from the source.  `Node.inUnit` is the tree that another compilation makes
of the same source: the numbers of its function literals are replaced, and their positions
are kept.
-/

namespace ScriptEngine.Node

mutual

/-- The tree with another number of the compilation in its function literals. -/
def inUnit (unit : Nat) : Node → Node
  | literal span value => literal span value
  | ident span name => ident span name
  | binary span op left right => binary span op (left.inUnit unit) (right.inUnit unit)
  | unary span op operand => unary span op (operand.inUnit unit)
  | property span object name => property span (object.inUnit unit) name
  | index span object key => index span (object.inUnit unit) (key.inUnit unit)
  | methodCall span object method args =>
    methodCall span (object.inUnit unit) method (inUnitAll unit args)
  | call span callee args => call span (callee.inUnit unit) (inUnitAll unit args)
  | construct span className args => construct span (className.inUnit unit) (inUnitAll unit args)
  | assign span target value isPostfix =>
    assign span (target.inUnit unit) (value.inUnit unit) isPostfix
  | ternary span cond thenBranch elseBranch =>
    ternary span (cond.inUnit unit) (thenBranch.inUnit unit) (elseBranch.inUnit unit)
  | elvis span left right coalesce => elvis span (left.inUnit unit) (right.inUnit unit) coalesce
  | range span first last => range span (first.inUnit unit) (last.inUnit unit)
  | array span items => array span (inUnitAll unit items)
  | map span entries => map span (inUnitEntries unit entries)
  | set span items => set span (inUnitAll unit items)
  | lambda span id params body => lambda span ⟨unit, id.position⟩ params (body.inUnit unit)
  | ifElse span cond thenBranch elseBranch =>
    ifElse span (cond.inUnit unit) (thenBranch.inUnit unit) (inUnitOption unit elseBranch)
  | forLoop span init cond step body =>
    forLoop span (inUnitOption unit init) (inUnitOption unit cond) (inUnitOption unit step)
      (body.inUnit unit)
  | foreach span name declared iterable body =>
    foreach span name declared (iterable.inUnit unit) (body.inUnit unit)
  | whileLoop span cond body => whileLoop span (cond.inUnit unit) (body.inUnit unit)
  | doWhile span body cond => doWhile span (body.inUnit unit) (cond.inUnit unit)
  | block span statements => block span (inUnitAll unit statements)
  | breakLoop span => breakLoop span
  | continueLoop span => continueLoop span
  | returnValue span value => returnValue span (inUnitOption unit value)
  | var span name init => var span name (inUnitOption unit init)
  | annotated span name args statement =>
    annotated span name (inUnitAll unit args) (statement.inUnit unit)
  | script span body pragmas => script span (inUnitAll unit body) pragmas

/-- Several trees with another number. -/
def inUnitAll (unit : Nat) : List Node → List Node
  | [] => []
  | node :: rest => node.inUnit unit :: inUnitAll unit rest

/-- A part that may be left out, with another number. -/
def inUnitOption (unit : Nat) : Option Node → Option Node
  | none => none
  | some node => some (node.inUnit unit)

/-- The entries of a map with another number. -/
def inUnitEntries (unit : Nat) : List (Node × Node) → List (Node × Node)
  | [] => []
  | (key, value) :: rest => (key.inUnit unit, value.inUnit unit) :: inUnitEntries unit rest

end

variable (unit : Nat)

/-- The tree stands at the same place of the source. -/
@[simp]
theorem span_inUnit (node : Node) : (node.inUnit unit).span = node.span := by
  cases node <;> rfl

@[simp]
theorem isAssignable_inUnit (node : Node) :
    (node.inUnit unit).isAssignable = node.isAssignable := by
  cases node <;> rfl

@[simp]
theorem isEmpty_inUnitAll (nodes : List Node) : (inUnitAll unit nodes).isEmpty = nodes.isEmpty := by
  cases nodes <;> rfl

theorem inUnitAll_append (nodes more : List Node) :
    inUnitAll unit (nodes ++ more) = inUnitAll unit nodes ++ inUnitAll unit more := by
  induction nodes with
  | nil => rfl
  | cons node rest ih => exact congrArg (node.inUnit unit :: ·) ih

theorem inUnitAll_toList (node? : Option Node) :
    inUnitAll unit node?.toList = (inUnitOption unit node?).toList := by
  cases node? <;> rfl

end ScriptEngine.Node

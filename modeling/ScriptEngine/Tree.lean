import ScriptEngine.Number.Decimal
import ScriptEngine.Operator
import ScriptEngine.Span

/-!
# Program trees

A program is a tree of nodes, each with its place in the source.  Compound
assignments and steps have no node of their own: `x += e` is the assignment of
`x + e` to `x`, and `x++` is the assignment of `x + 1` to `x` marked as a
postfix step, which yields the value held before.

A function literal carries an identity.  Two functions made from one literal
are made from the same code; two literals that merely look alike are not.

* `Node.children` — the parts of a node in the order in which they are
  evaluated;
* `Node.isStatement`, `Node.isAssignable` — where a node may stand.
-/

namespace ScriptEngine

/-- A value written in the source. -/
inductive Literal where
  | nil
  | bool (value : Bool)
  | number (value : Number)
  | text (value : String)
  deriving DecidableEq, Repr

/-- A directive of a script: `#pragma key value`. -/
structure Pragma where
  key : String
  value : Literal
  deriving DecidableEq, Repr

/-- The identity of a function literal: the compilation that read it and its
position among the tokens of that source.  Position 0 is the program itself. -/
structure LambdaId where
  unit : Nat
  position : Nat
  deriving DecidableEq, Repr, Inhabited

/-- A program tree. -/
inductive Node where
  | literal (span : Span) (value : Literal)
  | ident (span : Span) (name : String)
  | binary (span : Span) (op : BinaryOp) (left right : Node)
  | unary (span : Span) (op : UnaryOp) (operand : Node)
  /-- Access to a named member: `object.name`. -/
  | property (span : Span) (object : Node) (name : String)
  /-- Access to a computed member: `object[key]`. -/
  | index (span : Span) (object key : Node)
  | methodCall (span : Span) (object : Node) (method : String) (args : List Node)
  /-- A call of the function that `callee` evaluates to. -/
  | call (span : Span) (callee : Node) (args : List Node)
  /-- A constructor call: `new(className, args)`. -/
  | construct (span : Span) (className : Node) (args : List Node)
  /-- An assignment; a postfix step yields the value held before. -/
  | assign (span : Span) (target value : Node) (isPostfix : Bool)
  | ternary (span : Span) (cond thenBranch elseBranch : Node)
  /-- Fallback when `left` is nil, written `??` if `coalesce` and `?:` if not. -/
  | elvis (span : Span) (left right : Node) (coalesce : Bool)
  | range (span : Span) (first last : Node)
  | array (span : Span) (items : List Node)
  | map (span : Span) (entries : List (Node × Node))
  | set (span : Span) (items : List Node)
  | lambda (span : Span) (id : LambdaId) (params : List String) (body : Node)
  | ifElse (span : Span) (cond thenBranch : Node) (elseBranch : Option Node)
  | forLoop (span : Span) (init cond step : Option Node) (body : Node)
  /-- A loop over the items of a collection; `declared` if it is written with `var`. -/
  | foreach (span : Span) (var : String) (declared : Bool) (iterable body : Node)
  | whileLoop (span : Span) (cond body : Node)
  | doWhile (span : Span) (body cond : Node)
  | block (span : Span) (statements : List Node)
  | breakLoop (span : Span)
  | continueLoop (span : Span)
  | returnValue (span : Span) (value : Option Node)
  | var (span : Span) (name : String) (init : Option Node)
  /-- A statement under an annotation: `@name(args) statement`. -/
  | annotated (span : Span) (name : String) (args : List Node) (statement : Node)
  /-- A whole script. -/
  | script (span : Span) (body : List Node) (pragmas : List Pragma)
  deriving Inhabited

namespace Node

/-- The place of a node in its source. -/
def span : Node → Span
  | literal s _ | ident s _ | binary s .. | unary s .. | property s .. | index s ..
  | methodCall s .. | call s .. | construct s .. | assign s .. | ternary s .. | elvis s ..
  | range s .. | array s _ | map s _ | set s _ | lambda s .. | ifElse s .. | forLoop s ..
  | foreach s .. | whileLoop s .. | doWhile s .. | block s _ | breakLoop s | continueLoop s
  | returnValue s _ | var s .. | annotated s .. | script s .. => s

/-- The parts of a node, in the order in which they are evaluated. -/
def children : Node → List Node
  | literal .. | ident .. | breakLoop _ | continueLoop _ => []
  | binary _ _ left right => [left, right]
  | unary _ _ operand => [operand]
  | property _ object _ => [object]
  | index _ object key => [object, key]
  | methodCall _ object _ args => object :: args
  | call _ callee args => callee :: args
  | construct _ className args => className :: args
  | assign _ target value _ => [value, target]
  | ternary _ cond thenBranch elseBranch => [cond, thenBranch, elseBranch]
  | elvis _ left right _ => [left, right]
  | range _ first last => [first, last]
  | array _ items | set _ items | block _ items => items
  | map _ entries => entries.flatMap fun (key, value) => [key, value]
  | lambda _ _ _ body => [body]
  | ifElse _ cond thenBranch elseBranch => [cond, thenBranch] ++ elseBranch.toList
  | forLoop _ init cond step body => init.toList ++ cond.toList ++ [body] ++ step.toList
  | foreach _ _ _ iterable body => [iterable, body]
  | whileLoop _ cond body => [cond, body]
  | doWhile _ body cond => [body, cond]
  | returnValue _ value => value.toList
  | var _ _ init => init.toList
  | annotated _ _ args statement => args ++ [statement]
  | script _ body _ => body

/-- Statement forms, as opposed to expressions. -/
def isStatement : Node → Bool
  | ifElse .. | forLoop .. | foreach .. | whileLoop .. | doWhile .. | block .. | breakLoop _
  | continueLoop _ | returnValue .. | var .. | annotated .. | script .. => true
  | _ => false

/-- What may stand on the left of an assignment. -/
def isAssignable : Node → Bool
  | ident .. | property .. | index .. => true
  | _ => false

/-- Whether the node is a block. -/
def isBlock : Node → Bool
  | block .. => true
  | _ => false

/-- The directives of a script; other nodes have none. -/
def pragmas : Node → List Pragma
  | script _ _ pragmas => pragmas
  | _ => []

end Node

/-- The code of a function: its parameters and its body.  A compiled program is
such code as well; its body is the tree of the program. -/
structure Lambda where
  id : LambdaId
  params : List String
  body : Node
  deriving Inhabited

end ScriptEngine

import ScriptEngine.Grammar.Progress

/-!
# The grammar of expressions

Every production is an ordinary function.  Where a production needs another
one further down the source it asks a `Grammar`, a record of the productions at
hand; such a request is made only after at least one token has been passed, so
that the number of nested requests is at most the number of tokens.  The knot
is tied in `ScriptEngine.Grammar.Program`.

Binary operators are read by precedence climbing: an operator binds what was
read so far if it binds at least as tightly as asked for, and its right operand
is read one level tighter, which makes every binary operator associate to the
left.  Assignments and the conditional forms associate to the right.
-/

namespace ScriptEngine

/-- The productions that another production may ask for. -/
structure Grammar where
  expr : Parse Node
  assignment : Parse Node
  conditional : Parse Node
  /-- Binary operators that bind at least as tightly as the number given. -/
  binary : Nat → Parse Node
  /-- More binary operators after an operand that starts at the span given. -/
  binaryTail : Nat → Span → Node → Parse Node
  unary : Parse Node
  /-- More accesses and calls after an expression that starts at the span given. -/
  accesses : Span → Node → Parse Node
  /-- Operands up to a closing parenthesis, at least one. -/
  arguments : Parse (List Node)
  /-- Items before a closing bracket. -/
  items : Parse (List Node)
  /-- More items of a set. -/
  moreItems : Parse (List Node)
  /-- More entries of a map. -/
  moreEntries : Parse (List (Node × Node))
  /-- The rest of a parameter list after the parameters given. -/
  parameters : List String → Parse (List String)
  /-- The rest of a dotted name. -/
  dotted : String → Parse String
  block : Parse Node
  body : Parse Node
  /-- Statements up to the end of a block. -/
  blockStatements : Parse (List Node)
  /-- Statements up to the end of the input. -/
  statements : Parse (List Node)

namespace Grammar

open Parse

/-- The row that a lookup finds for the current token, unless its text is free
to look like an operator. -/
def operatorAt (lookup : String → Option Operator.Row) (c : Cursor) : Option Operator.Row :=
  match c.currentKind with
  | .ident _ | .text _ | .number _ | .error _ | .eof => none
  | .keyword _ | .symbol _ => lookup c.current.literal

/-- The row of the current token as an operator after an operand. -/
def afterOperand : Parse (Option Operator.Row) := do
  return operatorAt Operator.afterOperand? (← cursor)

/-- The row of the current token as an operator before an operand. -/
def beforeOperand : Parse (Option Operator.Row) := do
  return operatorAt Operator.beforeOperand? (← cursor)

/-- The step `x ++` or `x --`, as the assignment of `x op 1` to `x`. -/
def stepAssign (target : Node) (op : BinaryOp) (isPostfix : Bool) (span : Span) :
    Parse Node := do
  require .sideEffect span
  unless target.isAssignable do fail .invalidTarget target.span
  return .assign span target (.binary span op target (.literal span (.number 1))) isPostfix

/-! ## Names of members and annotations -/

/-- Whether a text consists of ASCII letters. -/
def isPlainWord (s : String) : Bool := s.toList.all Char.isAlpha

/-- Whether a text is made of ASCII letters and digits, `_` and `$`, and is not
empty. -/
def isWord (s : String) : Bool :=
  !s.isEmpty && s.toList.all fun c => c.isAlphanum || c = '_' || c = '$'

/-- The name that a token stands for after a point: an identifier, a quoted
text, an integer literal or a word. -/
def memberName? (token : Token) : Option String :=
  match token.kind with
  | .ident name | .text name => some name
  | .number value => if value.isInteger then some token.literal else none
  | .eof | .error _ => none
  | .keyword _ | .symbol _ => if isPlainWord token.literal then some token.literal else none

/-- The name after a point, and its place. -/
def memberName : Parse (String × Span) := do
  let token := (← cursor).current
  match memberName? token with
  | some name =>
    let _ ← advance
    return (name, token.span)
  | none => fail (.unexpected token.kind "property name") (← currentSpan)

/-- The word that a token is, reserved or not. -/
def word? (token : Token) : Option String :=
  match token.kind with
  | .number _ | .text _ => none
  | _ => if isWord token.literal then some token.literal else none

/-- A word, and its place. -/
def word : Parse (String × Span) := do
  let token := (← cursor).current
  match word? token with
  | some name =>
    let _ ← advance
    return (name, token.span)
  | none => fail (.unexpected token.kind "identifier") (← currentSpan)

variable (g : Grammar)

/-! ## Operands -/

/-- Operands in parentheses: `(a, b)`. -/
def callArguments : Parse (List Node) := do
  let _ ← expect (.symbol .lparen)
  if ← eat (.symbol .rparen) then return []
  g.arguments

/-- Whether a token list starts with the rest of a parameter list, with at
least one name in it, up to the closing parenthesis and an arrow. -/
def parametersAhead : List Token → Bool
  | ⟨.ident _, _, _⟩ :: ⟨.symbol .comma, _, _⟩ :: rest => parametersAhead rest
  | ⟨.ident _, _, _⟩ :: ⟨.symbol .rparen, _, _⟩ :: ⟨.symbol sign, _, _⟩ :: _ =>
    sign = .arrow || sign = .fatArrow
  | _ => false

/-- Whether the tokens at a `(` are the head of a function literal: `() ->` or
`(a, b) ->`. -/
def lambdaAhead : List Token → Bool
  | _ :: ⟨.symbol .rparen, _, _⟩ :: ⟨.symbol sign, _, _⟩ :: _ =>
    sign = .arrow || sign = .fatArrow
  | _ :: ⟨.symbol .rparen, _, _⟩ :: _ => false
  | _ :: rest => parametersAhead rest
  | [] => false

/-- One more parameter after those given; no name may come twice. -/
def addParameter (params : List String) (name : String) (span : Span) :
    Parse (List String) := do
  if params.contains name then fail (.duplicateParameter name) span
  return params ++ [name]

/-- The parameters of a function literal. -/
def lambdaParameters : Parse (List String) := do
  if ← eat (.symbol .lparen) then
    if ← eat (.symbol .rparen) then return []
    g.parameters []
  else
    let (name, span) ← expectIdent
    addParameter [] name span

/-- A function literal: `x -> body`, `(a, b) -> body` or `() => body`. -/
def lambda : Parse Node := do
  let start ← currentSpan
  require .lambda start
  let position := (← cursor).position + 1
  let params ← g.lambdaParameters
  unless ← eat (.symbol .arrow) do
    let _ ← expect (.symbol .fatArrow)
  let body ← inFunction do
    declareAll start params
    if ← check (.symbol .lbrace) then g.block else g.expr
  return .lambda (← spanFrom start) ⟨(← read).unit, position⟩ params body

/-- A constructor call: `new(className, args)`. -/
def construct : Parse Node := do
  let start ← currentSpan
  require .newInstance start
  let _ ← advance
  match ← g.callArguments with
  | className :: args => return .construct (← spanFrom start) className args
  | [] => fail .missingClassName (← spanFrom start)

/-- An array literal: `[a, b]`. -/
def array : Parse Node := do
  let start ← currentSpan
  require .structuredLiteral start
  let _ ← advance
  let items ← g.items
  let _ ← expect (.symbol .rbracket)
  return .array (← spanFrom start) items

/-- The rest of a map or set literal after its first inner expression.  Which one
it is shows there. -/
def bracesTail (start : Span) (first : Node) : Parse Node := do
  if ← eat (.symbol .colon) then
    let value ← g.expr
    let rest ← g.moreEntries
    let _ ← expect (.symbol .rbrace)
    return .map (← spanFrom start) ((first, value) :: rest)
  let rest ← g.moreItems
  let _ ← expect (.symbol .rbrace)
  return .set (← spanFrom start) (first :: rest)

/-- A map or set literal; empty braces are a map. -/
def braces : Parse Node := do
  let start ← currentSpan
  require .structuredLiteral start
  let _ ← advance
  if ← eat (.symbol .rbrace) then return .map (← spanFrom start) []
  if (← check (.symbol .colon)) && (← peek 1) = .symbol .rbrace then
    let _ ← advance
    let _ ← advance
    return .map (← spanFrom start) []
  let first ← g.expr
  g.bracesTail start first

/-- Pass the current token, which is a literal. -/
def literal (value : Literal) : Parse Node := do
  let token ← advance
  return .literal token.span value

/-- An expression that no operator takes apart. -/
def primary : Parse Node := do
  let token := (← cursor).current
  match token.kind with
  | .number value => literal (.number value)
  | .text value => literal (.text value)
  | .keyword .kwTrue => literal (.bool true)
  | .keyword .kwFalse => literal (.bool false)
  | .keyword .kwNull => literal .nil
  | .ident name =>
    let following ← peek 1
    if name = "new" ∧ following = .symbol .lparen then g.construct
    else if following = .symbol .arrow ∨ following = .symbol .fatArrow then g.lambda
    else
      let _ ← advance
      return .ident token.span name
  | .symbol .lparen =>
    if lambdaAhead (← cursor).after then g.lambda
    else
      let _ ← advance
      let inner ← g.expr
      let _ ← expect (.symbol .rparen)
      return inner
  | .symbol .lbracket => g.array
  | .symbol .lbrace => g.braces
  | found => fail (.expectedExpression found) (← currentSpan)

/-! ## Operators -/

/-- Accesses and calls after an expression, and a step at the end. -/
def accessTail (start : Span) (object : Node) : Parse Node := do
  match ← currentKind with
  | .symbol .dot =>
    let _ ← advance
    let (name, nameSpan) ← memberName
    if ← check (.symbol .lparen) then
      require .methodCall nameSpan
      let args ← g.callArguments
      g.accesses start (.methodCall (← spanFrom start) object name args)
    else g.accesses start (.property (← spanFrom start) object name)
  | .symbol .lbracket =>
    let _ ← advance
    let key ← g.expr
    let _ ← expect (.symbol .rbracket)
    g.accesses start (.index (← spanFrom start) object key)
  | .symbol .lparen =>
    let args ← g.callArguments
    g.accesses start (.call (← spanFrom start) object args)
  | .symbol .plusPlus =>
    if object.isAssignable then
      let _ ← advance
      stepAssign object .add true (← spanFrom start)
    else return object
  | .symbol .minusMinus =>
    if object.isAssignable then
      let _ ← advance
      stepAssign object .sub true (← spanFrom start)
    else return object
  | _ => return object

/-- An operand with its accesses and calls. -/
def chain : Parse Node := do
  let start ← currentSpan
  let object ← g.primary
  g.accessTail start object

/-- Operators before an operand; they apply from right to left. -/
def unaryLevel : Parse Node := do
  let start ← currentSpan
  match ← beforeOperand with
  | some ⟨_, _, _, .unary op⟩ =>
    if op = .not ∧ (← check (.keyword .kwNot)) then require .comparatorNames start
    let _ ← advance
    let operand ← g.unary
    return .unary (← spanFrom start) op operand
  | some ⟨_, _, _, .step op⟩ =>
    let _ ← advance
    let operand ← g.unary
    stepAssign operand op false (← spanFrom start)
  | _ => g.chain

/-- The node of a binary operation; a range has a node of its own. -/
def binaryNode (span : Span) (op : BinaryOp) (left right : Node) : Node :=
  if op = .range then .range span left right else .binary span op left right

/-- Binary operators after an operand, as long as they bind at least as tightly
as `least`. -/
def climb (least : Nat) (start : Span) (left : Node) : Parse Node := do
  match ← afterOperand with
  | some ⟨_, _, precedence, .binary op⟩ =>
    if precedence < least then return left
    if (← currentKind).isComparatorName then require .comparatorNames (← currentSpan)
    let _ ← advance
    let right ← g.binary (precedence + 1)
    g.binaryTail least start (binaryNode (← spanFrom start) op left right)
  | _ => return left

/-- Binary operators that bind at least as tightly as `least`. -/
def binaryLevel (least : Nat) : Parse Node := do
  let start ← currentSpan
  let left ← g.unaryLevel
  g.climb least start left

/-- The conditional forms: `c ? a : b`, `a ?: b` and `a ?? b`. -/
def conditionalLevel : Parse Node := do
  let start ← currentSpan
  let cond ← g.binaryLevel Binding.disjunction
  match ← currentKind with
  | .symbol .question =>
    let _ ← advance
    if ← eat (.symbol .colon) then
      let right ← g.conditional
      return .elvis (← spanFrom start) cond right false
    let thenBranch ← g.expr
    let _ ← expect (.symbol .colon)
    let elseBranch ← g.conditional
    return .ternary (← spanFrom start) cond thenBranch elseBranch
  | .symbol .questionQuestion =>
    let _ ← advance
    let right ← g.conditional
    return .elvis (← spanFrom start) cond right true
  | _ => return cond

/-- An assignment whose operator is the current token; a compound one applies
the operation `base?` first. -/
def assignmentTail (start : Span) (target : Node) (base? : Option BinaryOp) : Parse Node := do
  require .sideEffect (← currentSpan)
  unless target.isAssignable do fail .invalidTarget target.span
  let _ ← advance
  let right ← g.assignment
  let span ← spanFrom start
  let value := match base? with
    | some op => .binary span op target right
    | none => right
  return .assign span target value false

/-- Assignments: `target = value` and `target op= value`. -/
def assignmentLevel : Parse Node := do
  let start ← currentSpan
  let target ← g.conditionalLevel
  match ← afterOperand with
  | some ⟨_, _, _, .assign⟩ => g.assignmentTail start target none
  | some ⟨_, _, _, .compound op⟩ => g.assignmentTail start target (some op)
  | _ => return target

/-! ## Sequences of operands -/

/-- Operands separated by commas up to a closing parenthesis. -/
def argumentList : Parse (List Node) := do
  let first ← g.assignmentLevel
  if ← eat (.symbol .comma) then return first :: (← g.arguments)
  let _ ← expect (.symbol .rparen)
  return [first]

/-- Items separated by commas before a closing bracket; a comma may follow the
last one. -/
def itemList : Parse (List Node) := do
  if ← check (.symbol .rbracket) then return []
  let first ← g.assignmentLevel
  if ← eat (.symbol .comma) then return first :: (← g.items)
  return [first]

/-- More items of a set. -/
def setTail : Parse (List Node) := do
  unless ← eat (.symbol .comma) do return []
  if ← check (.symbol .rbrace) then return []
  let item ← g.expr
  return item :: (← g.moreItems)

/-- More entries of a map. -/
def mapTail : Parse (List (Node × Node)) := do
  unless ← eat (.symbol .comma) do return []
  if ← check (.symbol .rbrace) then return []
  let key ← g.expr
  let _ ← expect (.symbol .colon)
  let value ← g.expr
  return (key, value) :: (← g.moreEntries)

/-- More parameters up to the closing parenthesis. -/
def parameterList (params : List String) : Parse (List String) := do
  let (name, span) ← expectIdent
  let params ← addParameter params name span
  if ← eat (.symbol .comma) then g.parameters params
  else
    let _ ← expect (.symbol .rparen)
    return params

end Grammar

end ScriptEngine

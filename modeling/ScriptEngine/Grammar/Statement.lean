import ScriptEngine.Grammar.Expression

/-!
# The grammar of statements

A statement is recognised by its first token; whatever starts with none of the
statement words is an expression.  A simple statement may end with a semicolon,
and the next one starts wherever its grammar stops.  An empty statement and a
directive leave no node.
-/

namespace ScriptEngine.Grammar

open Parse

variable (g : Grammar)

/-- Pass the semicolon that may end a simple statement. -/
def endSimple : Parse Unit := do
  let _ ← eat (.symbol .semicolon)

/-- A condition in parentheses. -/
def condition : Parse Node := do
  let _ ← expect (.symbol .lparen)
  let cond ← g.expr
  let _ ← expect (.symbol .rparen)
  return cond

/-- The branch after `else`, if there is one; a semicolon may stand before it. -/
def elseBranch : Parse (Option Node) := do
  if (← check (.symbol .semicolon)) && (← peek 1) = .keyword .kwElse then
    let _ ← advance
  if ← eat (.keyword .kwElse) then some <$> g.body else return none

/-- A conditional statement; `else` belongs to the innermost open `if`. -/
def ifStatement : Parse Node := do
  let start ← currentSpan
  let _ ← advance
  let cond ← g.condition
  let thenBranch ← g.body
  let elseBranch ← g.elseBranch
  return .ifElse (← spanFrom start) cond thenBranch elseBranch

/-- The initial value of a declaration, if there is one. -/
def initialValue : Parse (Option Node) := do
  if ← eat (.symbol .assign) then some <$> g.expr else return none

/-- A declaration without its terminator: `var x` or `var x = e`.  The initial
value is read before the name is declared. -/
def declaration : Parse Node := do
  let start ← currentSpan
  require .localVar start
  let _ ← advance
  let (name, nameSpan) ← expectIdent
  let init ← g.initialValue
  declare name nameSpan
  return .var (← spanFrom start) name init

/-- Whether `x :` or `var x :` follows. -/
def foreachAhead : Parse Bool := do
  match ← peek 0, ← peek 1, ← peek 2 with
  | .keyword .kwVar, .ident _, third => return third = .symbol .colon
  | .ident _, second, _ => return second = .symbol .colon
  | _, _, _ => return false

/-- The head of a loop over a collection, after its parenthesis, and its
body. -/
def foreachTail (start : Span) : Parse Node := do
  let declared ← eat (.keyword .kwVar)
  let (name, nameSpan) ← expectIdent
  if declared then
    require .localVar nameSpan
    declare name nameSpan
  let _ ← expect (.symbol .colon)
  let iterable ← g.expr
  let _ ← expect (.symbol .rparen)
  let body ← inLoop g.body
  return .foreach (← spanFrom start) name declared iterable body

/-- An expression, unless what ends it comes first. -/
def optionalExpr (closing : TokenKind) : Parse (Option Node) := do
  if ← check closing then return none else some <$> g.expr

/-- What a counting loop starts with: nothing, a declaration or an expression. -/
def loopStart : Parse (Option Node) := do
  if ← check (.keyword .kwVar) then some <$> g.declaration
  else g.optionalExpr (.symbol .semicolon)

/-- The head of a counting loop, after its parenthesis, and its body. -/
def countingTail (start : Span) : Parse Node := do
  let init ← g.loopStart
  let _ ← expect (.symbol .semicolon)
  let cond ← g.optionalExpr (.symbol .semicolon)
  let _ ← expect (.symbol .semicolon)
  let step ← g.optionalExpr (.symbol .rparen)
  let _ ← expect (.symbol .rparen)
  let body ← inLoop g.body
  return .forLoop (← spanFrom start) init cond step body

/-- Either form of `for`; its head opens a scope. -/
def forStatement : Parse Node := do
  let start ← currentSpan
  require .loops start
  let _ ← advance
  let _ ← expect (.symbol .lparen)
  inScope false do
    if ← foreachAhead then g.foreachTail start else g.countingTail start

/-- A loop that tests first. -/
def whileStatement : Parse Node := do
  let start ← currentSpan
  require .loops start
  let _ ← advance
  let cond ← g.condition
  let body ← inLoop g.body
  return .whileLoop (← spanFrom start) cond body

/-- A loop that tests last. -/
def doStatement : Parse Node := do
  let start ← currentSpan
  require .loops start
  let _ ← advance
  let body ← inLoop g.body
  let _ ← expect (.keyword .kwWhile)
  let cond ← g.condition
  endSimple
  return .doWhile (← spanFrom start) body cond

/-- `break` or `continue`, only inside a loop. -/
def loopControl : Parse Node := do
  let token ← advance
  if (← get).loopDepth = 0 then fail (.outsideLoop token.literal) token.span
  endSimple
  return if token.kind = .keyword .kwBreak then .breakLoop token.span
    else .continueLoop token.span

/-- The value of a return, if there is one. -/
def returnedValue : Parse (Option Node) := do
  match ← currentKind with
  | .symbol .semicolon | .symbol .rbrace | .eof => return none
  | _ => some <$> g.expr

/-- A return, with or without a value. -/
def returnStatement : Parse Node := do
  let start ← currentSpan
  let _ ← advance
  let value ← g.returnedValue
  endSimple
  return .returnValue (← spanFrom start) value

/-- A block in braces, with a scope of its own. -/
def blockStatement : Parse Node := do
  let start ← currentSpan
  let _ ← expect (.symbol .lbrace)
  let statements ← inScope false g.blockStatements
  return .block (← spanFrom start) statements

/-- The arguments of an annotation, which may be left out. -/
def annotationArguments : Parse (List Node) := do
  if ← check (.symbol .lparen) then g.callArguments else return []

/-- An annotation and the statement it applies to. -/
def annotatedStatement : Parse Node := do
  let start ← currentSpan
  require .annotations start
  let _ ← advance
  let (name, _) ← word
  let args ← g.annotationArguments
  let statement ← g.body
  return .annotated (← spanFrom start) name args statement

/-! ## Directives -/

/-- The rest of a dotted name, whose parts so far are `name`. -/
def dottedTail (name : String) : Parse String := do
  if ← eat (.symbol .dot) then
    let (part, _) ← word
    g.dotted (name ++ "." ++ part)
  else return name

/-- Words separated by points, as one text. -/
def dottedName : Parse String := do
  let (name, _) ← word
  g.dottedTail name

/-- The value of a directive: a literal, or a dotted name as a text. -/
def pragmaValue : Parse Literal := do
  match ← currentKind with
  | .number value =>
    let _ ← advance
    return .number value
  | .symbol .minus =>
    let _ ← advance
    match ← currentKind with
    | .number value =>
      let _ ← advance
      return .number (-value)
    | found => fail (.unexpected found "number") (← currentSpan)
  | .text value =>
    let _ ← advance
    return .text value
  | .keyword .kwTrue =>
    let _ ← advance
    return .bool true
  | .keyword .kwFalse =>
    let _ ← advance
    return .bool false
  | .keyword .kwNull =>
    let _ ← advance
    return .nil
  | .ident _ => .text <$> g.dottedName
  | found => fail (.expectedPragmaValue found) (← currentSpan)

/-- A directive: `#pragma key value`. -/
def pragmaDirective : Parse Unit := do
  let start ← currentSpan
  require .pragma start
  let _ ← advance
  let (name, nameSpan) ← word
  unless name = "pragma" do fail (.notPragma name) nameSpan
  let key ← g.dottedName
  let value ← g.pragmaValue
  endSimple
  modify fun state => { state with pragmas := state.pragmas ++ [⟨key, value⟩] }

/-! ## Sequences of statements -/

/-- One statement; empty statements and directives leave no node. -/
def statement : Parse (Option Node) := do
  match ← currentKind with
  | .symbol .semicolon =>
    let _ ← advance
    return none
  | .symbol .hash =>
    g.pragmaDirective
    return none
  | .keyword .kwIf => some <$> g.ifStatement
  | .keyword .kwFor => some <$> g.forStatement
  | .keyword .kwWhile => some <$> g.whileStatement
  | .keyword .kwDo => some <$> g.doStatement
  | .symbol .lbrace => some <$> g.blockStatement
  | .symbol .atSign => some <$> g.annotatedStatement
  | .keyword .kwBreak | .keyword .kwContinue => some <$> loopControl
  | .keyword .kwReturn => some <$> g.returnStatement
  | .keyword .kwVar =>
    let node ← g.declaration
    endSimple
    return some node
  | _ =>
    let node ← g.assignmentLevel
    endSimple
    return some node

/-- The body of a branch or a loop; a lone semicolon is an empty block. -/
def bodyStatement : Parse Node := do
  let span ← currentSpan
  if ← eat (.symbol .semicolon) then return .block span []
  match ← g.statement with
  | some node => return node
  | none => fail .expectedStatement span

/-- Statements up to and including the brace that ends a block. -/
def statementsOfBlock : Parse (List Node) := do
  if ← check (.symbol .rbrace) then
    let _ ← advance
    return []
  if (← cursor).isAtEnd then
    fail (.unexpected (← currentKind) "'\x7d'") (← currentSpan)
  let first ← g.statement
  let rest ← g.blockStatements
  return first.toList ++ rest

/-- Statements up to the end of the input. -/
def statementsOfScript : Parse (List Node) := do
  if (← cursor).isAtEnd then return []
  let first ← g.statement
  let rest ← g.statements
  return first.toList ++ rest

end ScriptEngine.Grammar

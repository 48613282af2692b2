import ScriptEngine.Grammar.Statement

/-!
# Reading programs

`Grammar.upTo n` are the productions with at most `n` nested requests.  A
request is made only after a token has been passed, so `n` requests are enough
for `n` tokens.  Two entry points read a whole token list:

* `Node.ofExpression` — one expression, and semicolons after it;
* `Node.ofScript` — a sequence of statements with parameters, the tree of which
  is a script node.

Either fails with the first token that is an error, before anything else.
-/

namespace ScriptEngine

namespace Grammar

open Parse

/-- No production at all: every request has been used up. -/
def exhausted : Grammar :=
  let stop {α : Type} : Parse α := do fail .exhausted (← currentSpan)
  { expr := stop
    assignment := stop
    conditional := stop
    binary := fun _ => stop
    binaryTail := fun _ _ _ => stop
    unary := stop
    accesses := fun _ _ => stop
    arguments := stop
    items := stop
    moreItems := stop
    moreEntries := stop
    parameters := fun _ => stop
    dotted := fun _ => stop
    block := stop
    body := stop
    blockStatements := stop
    statements := stop }

/-- The productions that may make one more request than those of `g`. -/
def extend (g : Grammar) : Grammar :=
  { expr := g.assignmentLevel
    assignment := g.assignmentLevel
    conditional := g.conditionalLevel
    binary := g.binaryLevel
    binaryTail := g.climb
    unary := g.unaryLevel
    accesses := g.accessTail
    arguments := g.argumentList
    items := g.itemList
    moreItems := g.setTail
    moreEntries := g.mapTail
    parameters := g.parameterList
    dotted := g.dottedTail
    block := g.blockStatement
    body := g.bodyStatement
    blockStatements := g.statementsOfBlock
    statements := g.statementsOfScript }

/-- The productions with at most `n` nested requests. -/
def upTo : Nat → Grammar
  | 0 => exhausted
  | n + 1 => extend (upTo n)

/-- One expression that covers the whole input. -/
def wholeExpression (n : Nat) : Parse Node := do
  let node ← (upTo n).expr
  semicolons n
  expectEnd
  return node

/-- The statements of a script; without the feature, at most one expression. -/
def scriptBody (n : Nat) : Parse (List Node) := do
  if (← read).features.has .script then (upTo n).statements
  else
    let body ← if (← cursor).isAtEnd then pure [] else (fun node => [node]) <$> (upTo n).expr
    semicolons n
    expectEnd
    return body

/-- A script whose parameters are declared before its first statement. -/
def wholeScript (n : Nat) (params : List String) : Parse Node := do
  let start ← currentSpan
  declareAll start params
  let body ← scriptBody n
  let span ← if body.isEmpty then pure start else spanFrom start
  return .script span body (← get).pragmas

end Grammar

namespace Node

/-- Run a reading step on a token list without errors in it. -/
def ofTokens (dialect : Dialect) (tokens : List Token) (step : Parse Node) :
    Except ParseError Node :=
  match Token.firstError? tokens with
  | some (token, reason) => .error ⟨.lexical reason, token.span⟩
  | none => (step dialect (Parse.start tokens)).map (·.1)

/-- The tree of a single expression. -/
def ofExpression (dialect : Dialect) (tokens : List Token) : Except ParseError Node :=
  ofTokens dialect tokens (Grammar.wholeExpression (tokens.length + 2))

/-- The tree of a script with the parameters given. -/
def ofScript (dialect : Dialect) (params : List String) (tokens : List Token) :
    Except ParseError Node :=
  ofTokens dialect tokens (Grammar.wholeScript (tokens.length + 2) params)

end Node

end ScriptEngine

import ScriptEngine.Grammar.Error
import ScriptEngine.Token.Cursor
import ScriptEngine.Tree

/-!
# How far a program has been read

Reading a program moves a cursor over its tokens and keeps three more things:
how many loops are open in the current function, the names declared in the
blocks that are open, and the directives met so far.  A `Parse` is a step of
reading that needs the language's features and ends with a result and the new
state, or with the first violation.

The lexical checks live here: `declare` refuses a second declaration in one
block, or one that hides a local of an enclosing block up to and including the
nearest function, when the features ask for it.
-/

namespace ScriptEngine

/-- The names declared in one block.  The parameters of a function open a scope
that ends the search for hidden names. -/
structure Scope where
  names : List String
  isFunction : Bool

/-- The state of reading. -/
structure Progress where
  cursor : Cursor
  /-- Loops open in the current function. -/
  loopDepth : Nat
  /-- The scopes that are open, innermost first. -/
  scopes : List Scope
  /-- The directives so far, in order. -/
  pragmas : List Pragma

/-- What is fixed while a source is read: the features of the language and the
number of the compilation, which tells its function literals from those of
other compilations. -/
structure Dialect where
  features : Features
  unit : Nat

/-- A step of reading. -/
abbrev Parse (α : Type) := ReaderT Dialect (StateT Progress (Except ParseError)) α

namespace Parse

/-- The start of a token list. -/
def start (tokens : List Token) : Progress :=
  ⟨.ofList tokens, 0, [⟨[], true⟩], []⟩

/-- Stop with a violation. -/
def fail {α : Type} (cause : ParseError.Cause) (span : Span) : Parse α :=
  fun _ _ => .error ⟨cause, span⟩

def cursor : Parse Cursor := do return (← get).cursor

def currentKind : Parse TokenKind := do return (← cursor).currentKind

def currentSpan : Parse Span := do return (← cursor).currentSpan

/-- The kind of the token `n` places ahead. -/
def peek (n : Nat) : Parse TokenKind := do return (← cursor).peek n

/-- Whether the current token is of the kind given. -/
def check (kind : TokenKind) : Parse Bool := do return (← cursor).check kind

/-- Pass the current token and give it back. -/
def advance : Parse Token := do
  let state ← get
  set { state with cursor := state.cursor.advance }
  return state.cursor.current

/-- Pass the current token if it is of the kind given. -/
def eat (kind : TokenKind) : Parse Bool := do
  if ← check kind then
    let _ ← advance
    return true
  else return false

/-- Pass the current token, which has to be of the kind given. -/
def expect (kind : TokenKind) : Parse Token := do
  if ← check kind then advance
  else fail (.unexpected (← currentKind) ("'" ++ kind.spelling ++ "'")) (← currentSpan)

/-- Pass an identifier and give back its name and place. -/
def expectIdent : Parse (String × Span) := do
  match ← currentKind with
  | .ident name =>
    let token ← advance
    return (name, token.span)
  | found => fail (.unexpected found "identifier") (← currentSpan)

/-- The span from `start` to the end of the last token passed. -/
def spanFrom (start : Span) : Parse Span := do return start.merge (← cursor).previousSpan

/-- Go on only if a feature is enabled. -/
def require (feature : Feature) (span : Span) : Parse Unit := do
  unless (← read).features.has feature do fail (.disabled feature) span

/-- Run a step inside a scope of its own. -/
def inScope {α : Type} (isFunction : Bool) (step : Parse α) : Parse α := do
  modify fun state => { state with scopes := ⟨[], isFunction⟩ :: state.scopes }
  let result ← step
  modify fun state => { state with scopes := state.scopes.tail }
  return result

/-- Run a step inside one more loop. -/
def inLoop {α : Type} (step : Parse α) : Parse α := do
  modify fun state => { state with loopDepth := state.loopDepth + 1 }
  let result ← step
  modify fun state => { state with loopDepth := state.loopDepth - 1 }
  return result

/-- Run a step as the body of a function: no loop outside it is in reach. -/
def inFunction {α : Type} (step : Parse α) : Parse α := do
  let outer := (← get).loopDepth
  modify fun state => { state with loopDepth := 0 }
  let result ← inScope true step
  modify fun state => { state with loopDepth := outer }
  return result

/-- Whether a name is declared in one of the scopes up to and including the
first function scope. -/
def hides (name : String) : List Scope → Bool
  | [] => false
  | scope :: outer => scope.names.contains name || (!scope.isFunction && hides name outer)

/-- What a declaration violates in the open scopes, if anything. -/
def declarationFault? (features : Features) (name : String) : List Scope →
    Option ParseError.Cause
  | [] => none
  | scope :: outer =>
    if features.has .lexical && scope.names.contains name then some (.redeclared name)
    else if features.has .lexicalShade && !scope.isFunction && hides name outer then
      some (.shadowed name)
    else none

/-- The scopes after a declaration in the innermost one. -/
def declared (name : String) : List Scope → List Scope
  | [] => []
  | scope :: outer => { scope with names := name :: scope.names } :: outer

/-- Declare a name in the innermost scope. -/
def declare (name : String) (span : Span) : Parse Unit := do
  let state ← get
  match declarationFault? (← read).features name state.scopes with
  | some fault => fail fault span
  | none => set { state with scopes := declared name state.scopes }

/-- Declare several names at one place. -/
def declareAll (span : Span) : List String → Parse Unit
  | [] => return
  | name :: rest => do
    declare name span
    declareAll span rest

/-- Pass all the semicolons at the cursor. -/
def semicolons : (fuel : Nat) → Parse Unit
  | 0 => return
  | fuel + 1 => do
    if ← eat (.symbol .semicolon) then semicolons fuel

/-- Fail unless the input has ended. -/
def expectEnd : Parse Unit := do
  unless (← cursor).isAtEnd do fail (.trailing (← currentKind)) (← currentSpan)

end Parse

end ScriptEngine

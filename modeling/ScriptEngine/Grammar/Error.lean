import ScriptEngine.Feature
import ScriptEngine.Token

/-!
# Violations of the grammar

What can be wrong with a list of tokens.  `ParseError.Cause` names the causes;
each has a stable code and a message.  Reading stops at the first violation,
so an error is one cause at one place.
-/

namespace ScriptEngine

namespace ParseError

/-- Why a list of tokens is no program. -/
inductive Cause where
  /-- A token stands where another one is needed. -/
  | unexpected (found : TokenKind) (expected : String)
  /-- A directive stands where a statement is needed. -/
  | expectedStatement
  | expectedExpression (found : TokenKind)
  /-- A constructor call without a class name. -/
  | missingClassName
  /-- A piece of the source is no token. -/
  | lexical (reason : LexError)
  | disabled (feature : Feature)
  /-- `break` or `continue` outside a loop. -/
  | outsideLoop (word : String)
  /-- The left side of an assignment cannot be assigned to. -/
  | invalidTarget
  /-- A second declaration of a name in one block. -/
  | redeclared (name : String)
  /-- A declaration that hides a local of an enclosing block. -/
  | shadowed (name : String)
  /-- Something follows a complete expression. -/
  | trailing (found : TokenKind)
  /-- A number sign that does not start a directive. -/
  | notPragma (word : String)
  | expectedPragmaValue (found : TokenKind)
  | duplicateParameter (name : String)
  /-- The steps granted were used up.  No token list leads here: reading takes
  at most one nested step for each token. -/
  | exhausted
  deriving DecidableEq, Repr

namespace Cause

/-- The stable code of a cause. -/
def code : Cause → String
  | unexpected .. | expectedStatement => "E1001"
  | expectedExpression _ | missingClassName => "E1002"
  | lexical _ => "E1003"
  | disabled _ => "E1004"
  | outsideLoop _ => "E1005"
  | invalidTarget => "E1006"
  | redeclared _ => "E1007"
  | shadowed _ => "E1008"
  | trailing _ => "E1009"
  | notPragma _ | expectedPragmaValue _ => "E1010"
  | duplicateParameter _ => "E1011"
  | exhausted => "E1000"

/-- The cause in words. -/
def message : Cause → String
  | unexpected found expected => s!"expected {expected}, found {found.describe}"
  | expectedStatement => "expected statement, found pragma"
  | expectedExpression found => "expected expression, found " ++ found.describe
  | missingClassName => "new() requires a class name"
  | lexical reason => reason.message
  | disabled feature => feature.describe ++ " are disabled"
  | outsideLoop word => s!"'{word}' outside of a loop"
  | invalidTarget => "invalid assignment target"
  | redeclared name => s!"variable '{name}' is already declared in this block"
  | shadowed name => s!"variable '{name}' shadows a variable of an enclosing block"
  | trailing found => s!"unexpected {found.describe} after end of expression"
  | notPragma word => s!"expected 'pragma' after '#', found '{word}'"
  | expectedPragmaValue found => "expected pragma value, found " ++ found.describe
  | duplicateParameter name => s!"duplicate parameter '{name}'"
  | exhausted => "the source is nested too deeply"

end Cause

end ParseError

/-- The first violation of the grammar, and where it is. -/
structure ParseError where
  cause : ParseError.Cause
  span : Span
  deriving DecidableEq, Repr

namespace ParseError

def message (e : ParseError) : String := e.cause.message

/-- The whole report in one line. -/
def render (e : ParseError) : String :=
  s!"error[{e.cause.code}]: {e.message} at {e.span.render}"

end ParseError

end ScriptEngine

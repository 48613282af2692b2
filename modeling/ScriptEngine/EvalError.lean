import ScriptEngine.Span

/-!
# Failures of evaluation

Why an evaluation fails.  `EvalError.Cause` names the causes with what a
message needs to know about them; `Cause.message` is the wording.  Failures to
find a name, a member or an index are *unresolved*: lenient evaluation turns
them into nil.

The error carries the place of the innermost node that failed: `withSpan` adds
a place only where none is known yet.
-/

namespace ScriptEngine

namespace EvalError

/-- Why an evaluation fails. -/
inductive Cause where
  | unsupportedOperand (operator operands : String)
  | unsupportedOperation (operation : String)
  | divisionByZero
  | undefinedVariable (name : String)
  | propertyNotFound (property typeName : String)
  | methodNotFound (method typeName : String)
  | indexOutOfBounds (index : String) (length : Nat)
  | nilAccess (member : String)
  | stackOverflow (limit : Nat)
  | notImplemented (feature : String)
  | notCallable (typeName : String)
  | invalidAssignment (target : String)
  | invalidPattern (pattern : String)
  | cancelled
  /-- A failure in words of its own. -/
  | custom (message : String)
  deriving DecidableEq, Repr

namespace Cause

/-- Failures to find a name, a member or an index. -/
def isUnresolved : Cause → Bool
  | undefinedVariable _ | propertyNotFound .. | methodNotFound .. | indexOutOfBounds .. => true
  | _ => false

/-- The name of the cause, for embedders that tell causes apart. -/
def name : Cause → String
  | unsupportedOperand .. => "UnsupportedOperand"
  | unsupportedOperation _ => "UnsupportedOperation"
  | divisionByZero => "DivisionByZero"
  | undefinedVariable _ => "UndefinedVariable"
  | propertyNotFound .. => "PropertyNotFound"
  | methodNotFound .. => "MethodNotFound"
  | indexOutOfBounds .. => "IndexOutOfBounds"
  | nilAccess _ => "NilAccess"
  | stackOverflow _ => "StackOverflow"
  | notImplemented _ => "NotImplemented"
  | notCallable _ => "NotCallable"
  | invalidAssignment _ => "InvalidAssignment"
  | invalidPattern _ => "InvalidRegex"
  | cancelled => "Cancelled"
  | custom _ => "Custom"

/-- The cause in words. -/
def message : Cause → String
  | unsupportedOperand operator operands =>
    s!"operator '{operator}' cannot be applied to {operands}"
  | unsupportedOperation operation => s!"unsupported operation: {operation}"
  | divisionByZero => "division by zero"
  | undefinedVariable name => s!"undefined variable: {name}"
  | propertyNotFound property typeName => s!"no property '{property}' on {typeName}"
  | methodNotFound method typeName => s!"no method '{method}' on {typeName}"
  | indexOutOfBounds index length => s!"index {index} out of bounds for length {length}"
  | nilAccess member => s!"cannot access '{member}' on null"
  | stackOverflow limit => s!"maximum evaluation depth exceeded (limit: {limit})"
  | notImplemented feature => s!"not implemented: {feature}"
  | notCallable typeName => s!"{typeName} is not callable"
  | invalidAssignment target => s!"cannot assign to {target}"
  | invalidPattern pattern => s!"invalid regular expression '{pattern}'"
  | cancelled => "evaluation cancelled"
  | custom message => message

end Cause

end EvalError

/-- A failure and, once it is known, the place of the node that failed. -/
structure EvalError where
  cause : EvalError.Cause
  span : Option Span
  deriving DecidableEq, Repr

namespace EvalError

/-- A failure whose place is not known yet. -/
def ofCause (cause : Cause) : EvalError := ⟨cause, none⟩

/-- A failure in words of its own. -/
def custom (message : String) : EvalError := ofCause (.custom message)

def message (e : EvalError) : String := e.cause.message

/-- The error with a place, unless a more precise one is known. -/
def withSpan (e : EvalError) (span : Span) : EvalError := { e with span := e.span <|> some span }

/-- The error in one line. -/
def render (e : EvalError) : String :=
  match e.span with
  | some span => s!"{e.message} at {span.render}"
  | none => e.message

end EvalError

end ScriptEngine

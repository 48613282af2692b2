import ScriptEngine.Member.Access

/-!
# Variables

How a variable is found and written in a context.  A table of variables holds
them itself, and the members of a value are read and written as properties.  In
the frame of a call a name is looked for

1. among the frame's own bindings, the parameters and local declarations,
2. in the context of the caller,
3. in the context that the function captured.

An assignment goes to the place where the name is found.  A name that is found
nowhere goes to the context of the caller, so that a function can write results
back to the embedder.  A declaration always stays in the frame.

A frame is made over contexts that exist already, so it refers to smaller
places than its own; the functions here descend only to those and therefore
end.
-/

namespace ScriptEngine.ContextRef

variable (m : Members) (s : Store)

/-- Read a variable as a property of a value. -/
def member? (permissions : Option Permissions) (object : Value) (name : String) : Option Value :=
  match ({ m with permissions }).readProperty object name s with
  | .ok value _ => some value
  | .error .. => none

/-- The value of a variable. -/
def lookup (ctx : ContextRef) (name : String) : Option Value :=
  match s.context ctx with
  | .vars bindings _ => bindings.find? name
  | .members object permissions => member? m s permissions object name
  | .frame bindings parent captured =>
    match bindings.find? name with
    | some value => some value
    | none =>
      match if _h : parent.index < ctx.index then lookup parent name else none with
      | some value => some value
      | none =>
        match captured with
        | some outer => if _h : outer.index < ctx.index then lookup outer name else none
        | none => none
termination_by ctx.index

/-- Whether a variable has a value. -/
def has (ctx : ContextRef) (name : String) : Bool :=
  match s.context ctx with
  | .vars bindings _ => bindings.contains name
  | .members object permissions => (member? m s permissions object name).isSome
  | .frame bindings parent captured =>
    bindings.contains name ||
      ((if _h : parent.index < ctx.index then has parent name else false) ||
        match captured with
        | some outer => if _h : outer.index < ctx.index then has outer name else false
        | none => false)
termination_by ctx.index

/-- Where an assignment to a variable that a frame does not hold itself goes on:
to the captured context if only that one knows the variable, else to the
caller. -/
def onward (parent : ContextRef) (captured : Option ContextRef) (name : String) : ContextRef :=
  match captured with
  | some outer => if !has m s parent name && has m s outer name then outer else parent
  | none => parent

/-- The context that an assignment to a variable changes. -/
def holder (ctx : ContextRef) (name : String) : ContextRef :=
  match s.context ctx with
  | .vars .. | .members .. => ctx
  | .frame bindings parent captured =>
    if bindings.contains name then ctx
    else
      if _h : (onward m s parent captured name).index < ctx.index then
        holder (onward m s parent captured name) name
      else ctx
termination_by ctx.index

/-- Write a variable into a context itself, without looking any further. -/
def write (ctx : ContextRef) (name : String) (value : Value) : Action Unit := do
  match (← get).context ctx with
  | .members object permissions => ({ m with permissions }).writeProperty object name value
  | .vars .. | .frame .. => modify fun s => s.modifyBindings ctx fun b => b.insert name value

/-- Assign to a variable, which need not exist. -/
def assign (ctx : ContextRef) (name : String) (value : Value) : Action Unit := do
  write m (holder m (← get) ctx name) name value

/-- Declare a variable of the context itself. -/
def declare (ctx : ContextRef) (name : String) (value : Value) : Action Unit :=
  write m ctx name value

/-- The cancellation flag of the table that the run started from. -/
def token? (ctx : ContextRef) : Option TokenRef :=
  match s.context ctx with
  | .vars _ token => token
  | .members .. => none
  | .frame _ parent _ => if _h : parent.index < ctx.index then token? parent else none
termination_by ctx.index

/-- Whether the run that uses this context has been cancelled. -/
def isCancelled (ctx : ContextRef) : Bool := (ctx.token? s).any s.isRaised

end ScriptEngine.ContextRef

import ScriptEngine.Arithmetic
import ScriptEngine.Context
import ScriptEngine.Evaluation.Depth
import ScriptEngine.Evaluation.Options

/-!
# Steps of an evaluation

An `Eval` is a step of an evaluation.  It changes the state of the run, which
is the store, the options in force and the depth, and ends with a result or
with a *signal*: an error, a non-local exit, or the word that the steps granted
are used up.  The state survives a signal, so that what happened before an
error is not undone.

* `Signal.toError?` — what a signal means where no construct catches it;
* `Eval.withOptions` — other options for one step;
* `Eval.entering` — one level of depth around a node;
* `Eval.atFunctionEnd` — the end of a function catches what is returned;
* `Eval.poll` — stop if the run has been cancelled.
-/

namespace ScriptEngine

/-- How a step ends other than with a value. -/
inductive Signal where
  | error (e : EvalError)
  | breakLoop
  | continueLoop
  | returned (value : Value)
  /-- The steps granted to the evaluation are used up. -/
  | exhausted
  deriving Inhabited

namespace Signal

/-- The error that a signal is where no construct catches it. -/
def toError? : Signal → Option EvalError
  | error e => some e
  | breakLoop => some (.custom "'break' outside of a loop")
  | continueLoop => some (.custom "'continue' outside of a loop")
  | returned _ => some (.custom "'return' outside of a function")
  | exhausted => none

/-- The signal with a place for its error, unless that has one already. -/
def located (span : Span) : Signal → Signal
  | error e => error (e.withSpan span)
  | signal => signal

end Signal

/-- The rules of the language that are fixed during a run. -/
structure Semantics where
  arithmetic : Arithmetic
  members : Members

/-- The state of a run. -/
structure Run where
  store : Store
  /-- The options in force; annotations change them for a statement. -/
  options : Options
  depth : Depth
  deriving Inhabited

/-- A step of an evaluation. -/
abbrev Eval (α : Type) := EStateM Signal Run α

namespace Eval

/-- Fail for a cause, at a place still to be found. -/
def fail {α : Type} (cause : EvalError.Cause) : Eval α := throw (.error (.ofCause cause))

/-- Do something to the store. -/
def act {α : Type} (action : Action α) : Eval α := fun ⟨store, options, depth⟩ =>
  match action store with
  | .ok result store => .ok result ⟨store, options, depth⟩
  | .error e store => .error (.error e) ⟨store, options, depth⟩

/-- Look at the store. -/
def look {α : Type} (f : Store → α) : Eval α := fun run => .ok (f run.store) run

/-- Compute something that looks at the store and may fail. -/
def compute {α : Type} (f : Store → Except EvalError α) : Eval α := fun run =>
  match f run.store with
  | .ok result => .ok result run
  | .error e => .error (.error e) run

/-- The options in force. -/
def options : Eval Options := fun run => .ok run.options run

/-- Run a step under other options. -/
def withOptions {α : Type} (inner : Options) (step : Eval α) : Eval α :=
  fun ⟨store, outer, depth⟩ =>
    match step ⟨store, inner, depth⟩ with
    | .ok result run => .ok result { run with options := outer }
    | .error signal run => .error signal { run with options := outer }

/-- Run a step so that nothing that is not found, and no member of nil, is an
error. -/
def leniently {α : Type} (step : Eval α) : Eval α := do
  withOptions (← options).lenient step

/-- Nil in place of something that was not found, unless evaluation is strict. -/
def unresolved (e : EvalError) : Eval Value := do
  if !(← options).strict && e.cause.isUnresolved then return .nil
  else throw (.error e)

/-- Do something to the store; what it does not find is nil, unless evaluation
is strict. -/
def resolve (action : Action Value) : Eval Value := fun ⟨store, options, depth⟩ =>
  match action store with
  | .ok result store => .ok result ⟨store, options, depth⟩
  | .error e store => unresolved e ⟨store, options, depth⟩

/-- A member of nil. -/
def memberOfNil (name : String) : Eval Value := do
  if (← options).safe then return .nil else fail (.nilAccess name)

/-- Run a step one level deeper, for the node at a place.  An error that has no
place yet happened at this one. -/
def entering {α : Type} (span : Span) (step : Eval α) : Eval α :=
  fun ⟨store, options, depth⟩ =>
    match depth.enter with
    | .error limit => .error (.error ⟨.stackOverflow limit, some span⟩) ⟨store, options, depth⟩
    | .ok deeper =>
      match step ⟨store, options, deeper⟩ with
      | .ok result run => .ok result { run with depth := run.depth.exit }
      | .error signal run => .error (signal.located span) { run with depth := run.depth.exit }

/-- Run a step as the body of a function: what it returns is the result, and no
other exit leaves it. -/
def atFunctionEnd (body : Eval Value) : Eval Value := fun run =>
  match body run with
  | .ok value run => .ok value run
  | .error (.returned value) run => .ok value run
  | .error signal run =>
    match signal.toError? with
    | some e => .error (.error e) run
    | none => .error signal run

/-- Stop if the run has been cancelled. -/
def poll (ctx : ContextRef) : Eval Unit := do
  if ← look ctx.isCancelled then fail .cancelled

end Eval

end ScriptEngine

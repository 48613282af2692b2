import ScriptEngine.Tree

/-!
# Options of an evaluation

How failures and resources are handled.  A script may override the four
switches with directives of its own; other directives are left to the embedder.
-/

namespace ScriptEngine

/-- How an evaluation handles failures and resources. -/
structure Options where
  /-- Names, members and indices that are not found are errors instead of nil. -/
  strict : Bool
  /-- A member of nil is nil instead of an error. -/
  safe : Bool
  /-- Any error of the whole evaluation becomes nil. -/
  silent : Bool
  /-- A cancelled evaluation is an error instead of nil. -/
  cancellable : Bool
  /-- The greatest number of evaluations inside one another. -/
  maxDepth : Nat
  deriving DecidableEq, Repr

namespace Options

/-- What holds unless an embedder says otherwise. -/
def standard : Options :=
  { strict := false, safe := true, silent := false, cancellable := true, maxDepth := 2048 }

instance : Inhabited Options := ⟨standard⟩

/-- The options with one switch set, if the key is that of a switch. -/
def override (o : Options) (key : String) (flag : Bool) : Options :=
  match key with
  | "jexl.strict" => { o with strict := flag }
  | "jexl.safe" => { o with safe := flag }
  | "jexl.silent" => { o with silent := flag }
  | "jexl.cancellable" => { o with cancellable := flag }
  | _ => o

/-- The options with one directive of a script applied. -/
def withPragma (o : Options) (pragma : Pragma) : Options :=
  match pragma.value with
  | .bool flag => o.override pragma.key flag
  | _ => o

/-- The options with the directives of a script applied in order. -/
def withPragmas (o : Options) (pragmas : List Pragma) : Options := pragmas.foldl withPragma o

/-- The options for the operand of a fallback: nothing that is not found is an
error, nor is a member of nil. -/
def lenient (o : Options) : Options := { o with strict := false, safe := true }

/-- The options as a summary shows them. -/
def render (o : Options) : String :=
  s!"Options \x7b strict: {o.strict}, safe: {o.safe}, silent: {o.silent}, " ++
    s!"cancellable: {o.cancellable}, max_depth: {o.maxDepth} \x7d"

end Options

end ScriptEngine

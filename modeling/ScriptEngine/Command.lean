import ScriptEngine.Report

/-!
# The command line

What the program does with its arguments.  It evaluates an expression, runs a
script file, or shows the tree or the tokens of one.  A run is a function of the
arguments and of what can be read from files, with a `Result`: the texts for
the two output streams and the exit code.
-/

namespace ScriptEngine.Command

/-- Why a file cannot be read. -/
inductive FileFault where
  | missing
  | denied
  /-- The bytes are no UTF-8 text. -/
  | notText
  | other (reason : String)
  deriving DecidableEq, Repr

/-- The reason in words, for the file of a path. -/
def FileFault.message (path : String) : FileFault → String
  | missing => s!"cannot find file '{path}'"
  | denied => s!"permission denied reading '{path}'"
  | notText => s!"'{path}' contains invalid UTF-8 data"
  | other reason => s!"error reading '{path}': {reason}"

/-- What can be read under a path. -/
abbrev Files := String → Except FileFault String

/-- What a run writes, and its exit code. -/
structure Result where
  code : Nat
  output : String
  errors : String
  deriving DecidableEq, Repr

/-- Lines of text. -/
def textOf (lines : List String) : String := String.join (lines.map (· ++ "\n"))

namespace Result

/-- A run that succeeds and writes some lines. -/
def success (lines : List String) : Result := ⟨0, textOf lines, ""⟩

/-- A run that fails and says why in some lines. -/
def failure (lines : List String) : Result := ⟨1, "", textOf lines⟩

end Result

/-- The version of the program. -/
def version : String := "0.1.0"

/-- How the program is used. -/
def usage : List String :=
  ["jexl - expression and script evaluator",
   "",
   "Usage: jexl <command> [options]",
   "",
   "Commands:",
   "  eval <expr>     Evaluate an expression and print the result",
   "  run <file>      Execute a script file",
   "  parse <file>    Parse a script and print the tree",
   "  lex <file>      Tokenize a file and print the tokens",
   "  help            Show this message",
   "  version         Show version information",
   "",
   "Set RUST_LOG (e.g. RUST_LOG=jexl=debug) for tracing output."]

/-- How the command that runs a script is used. -/
def runUsage : List String :=
  ["Usage: jexl run <file> [options]",
   "",
   "Options:",
   "  --strict            Fail on undefined variables and members",
   "  --lenient           Resolve undefined names to null (default)",
   "  --silent            Print null instead of failing",
   "  --unsafe            Fail on navigation through null",
   "  --set name=value    Define a variable (value is an expression)"]

/-! ## Evaluation -/

/-- A report of a failure as the result of a run. -/
def reported (name source : String) (failure : Failure) : Result :=
  ⟨1, "", Report.render name source failure⟩

/-- What to do with the outcome of an evaluation. -/
def concluded (name source : String) (show? : Value → Bool) : Outcome × Store → Result
  | (.value value, s) => .success (if show? value then [s.display value] else [])
  | (.failure e, _) => reported name source (.evaluation e)
  | (.exhausted, _) => .failure ["evaluation did not end"]

/-- Evaluate an expression without variables and show its value. -/
def evaluate (source : String) : Result :=
  let (ctx, s) := Store.empty.newContext (.vars .empty none)
  match Engine.standard.expression source s with
  | (.error fault, _, _) => reported "<expr>" source (.grammar fault)
  | (.ok x, engine, s) => concluded "<expr>" source (fun _ => true) (engine.evaluate x ctx s)

/-! ## Running a script -/

/-- What the arguments of a run ask for. -/
structure Request where
  path : Option String
  options : Options
  /-- Names of variables with the texts of their values. -/
  bindings : List (String × String)

/-- What is asked for without arguments. -/
def Request.empty : Request := ⟨none, .standard, []⟩

/-- A name and a text on the two sides of the first equals sign. -/
def binding? (text : String) : Option (String × String) :=
  let cs := text.toList
  let name := Search.trim (cs.takeWhile (· ≠ '='))
  match cs.dropWhile (· ≠ '=') with
  | _ :: value => if name.isEmpty then none else some (String.ofList name, String.ofList value)
  | [] => none

/-- The request with one more variable. -/
def Request.bind (r : Request) (text : String) : Except String Request :=
  match binding? text with
  | some entry => .ok { r with bindings := r.bindings ++ [entry] }
  | none => .error s!"invalid binding '{text}', expected name=value"

/-- The request with one more argument that is no option. -/
def Request.operand (r : Request) (arg : String) : Except String Request :=
  if r.path.isNone then .ok { r with path := some arg }
  else .error s!"unexpected argument '{arg}'"

/-- Read an argument that starts with a hyphen and is no option on its own. -/
def Request.option (r : Request) (arg : String) : Except String Request :=
  let start := "--set="
  if start.toList.isPrefixOf arg.toList then
    r.bind (String.ofList (arg.toList.drop start.length))
  else .error s!"unknown option '{arg}'"

/-- Read the arguments of a run. -/
def Request.read (r : Request) : List String → Except String Request
  | [] => .ok r
  | "--strict" :: rest => read { r with options := { r.options with strict := true } } rest
  | "--lenient" :: rest => read { r with options := { r.options with strict := false } } rest
  | "--silent" :: rest => read { r with options := { r.options with silent := true } } rest
  | "--unsafe" :: rest => read { r with options := { r.options with safe := false } } rest
  | ["--set"] => .error "--set needs name=value"
  | "--set" :: binding :: rest => do read (← r.bind binding) rest
  | arg :: rest => do
    read (← if ['-'].isPrefixOf arg.toList then r.option arg else r.operand arg) rest

/-- The value of a variable: that of its text as an expression, or the text
itself if there is none. -/
def variableValue (text : String) (s : Store) : Value × Store :=
  let (ctx, s) := s.newContext (.vars .empty none)
  let engine := Engine.ofSettings { Engine.Settings.standard with cacheCapacity := 0 }
  match engine.expression text s with
  | (.error _, _, s) => (.text text, s)
  | (.ok x, engine, s) =>
    match engine.evaluate x ctx s with
    | (.value value, s) => (value, s)
    | (_, s) => (.text text, s)

/-- The values of the variables, in order. -/
def variableValues : List (String × String) → OrderedMap Value → Store →
    OrderedMap Value × Store
  | [], made, s => (made, s)
  | (name, text) :: rest, made, s =>
    let (value, s) := variableValue text s
    variableValues rest (made.insert name value) s

/-- Run a script with some variables and show its value unless it is nil. -/
def execute (path source : String) (request : Request) : Result :=
  let (bindings, s) := variableValues request.bindings .empty .empty
  let (ctx, s) := s.newContext (.vars bindings none)
  let engine := Engine.ofSettings { Engine.Settings.standard with options := request.options }
  match engine.script source [] s with
  | (.error fault, _, _) => reported path source (.grammar fault)
  | (.ok x, engine, s) => concluded path source (!·.isNil) (engine.execute x [] ctx s)

/-! ## Commands -/

/-- Go on with the text of a file. -/
def withFile (files : Files) (path : String) (next : String → Result) : Result :=
  match files path with
  | .ok source => next source
  | .error fault => .failure [fault.message path]

/-- Run a script file as the arguments say. -/
def runFile (files : Files) (args : List String) : Result :=
  match Request.read .empty args with
  | .error reason => .failure ["error: " ++ reason]
  | .ok request =>
    match request.path with
    | none => .failure ["error: missing file path"]
    | some path => withFile files path fun source => execute path source request

/-- Show the tree of a script. -/
def showTree (path source : String) : Result :=
  match Engine.standard.script source [] .empty with
  | (.error fault, _, _) => reported path source (.grammar fault)
  | (.ok x, _, _) => .success [x.tree.render]

/-- Show the tokens of a text. -/
def showTokens (path source : String) : Result :=
  let tokens := Token.ofSource source
  .success (s!"Tokens for '{path}' ({tokens.length} tokens):" ::
    tokens.map fun token => s!"  {token.kind.listing} @ {token.span.render}")

/-- The file that the program reads, if its arguments name one. -/
def wanted? : List String → Option String
  | "run" :: args =>
    match Request.read .empty args with
    | .ok request => request.path
    | .error _ => none
  | "parse" :: path :: _ | "lex" :: path :: _ => some path
  | _ => none

/-- What the program does with its arguments. -/
def run (files : Files) : List String → Result
  | [] => .success usage
  | "eval" :: args =>
    if args.isEmpty then .failure ["Usage: jexl eval <expression>"]
    else evaluate (" ".intercalate args)
  | "run" :: args => if args.isEmpty then .failure runUsage else runFile files args
  | "parse" :: args =>
    match args with
    | [] => .failure ["Usage: jexl parse <file>"]
    | path :: _ => withFile files path (showTree path)
  | "lex" :: args =>
    match args with
    | [] => .failure ["Usage: jexl lex <file>"]
    | path :: _ => withFile files path (showTokens path)
  | "help" :: _ | "--help" :: _ | "-h" :: _ => .success usage
  | "version" :: _ | "--version" :: _ | "-V" :: _ => .success ["jexl " ++ version]
  | command :: _ => ⟨1, textOf usage, textOf [s!"Unknown command: {command}", ""]⟩

end ScriptEngine.Command

import ScriptEngine.Engine.Cache
import ScriptEngine.Evaluation.Node

/-!
# The engine

An engine compiles sources and runs what it has compiled.  It is put together
from `Engine.Settings`; whatever they leave open has a standard value, and
arithmetic is as strict as the options unless it is chosen on its own.

* `Engine.expression`, `Engine.script` — compile, through the cache;
* `Engine.evaluate`, `Engine.execute` — run in a context of the store;
* `Script.curry` — fix arguments of a script ahead of a run.
-/

namespace ScriptEngine

/-- A failure of the engine: of the grammar or of an evaluation. -/
inductive Failure where
  | grammar (e : ParseError)
  | evaluation (e : EvalError)
  deriving DecidableEq, Repr

namespace Failure

/-- The place of the failure, if it is known. -/
def span? : Failure → Option Span
  | grammar e => some e.span
  | evaluation e => e.span

def message : Failure → String
  | grammar e => e.message
  | evaluation e => e.message

end Failure

/-- A compiled expression. -/
structure Expression where
  source : String
  code : Lambda
  deriving Inhabited

/-- A compiled script: a function over the whole program, some of whose
arguments may be fixed. -/
structure Script where
  source : String
  closure : Closure Value
  deriving Inhabited

namespace Expression

/-- The tree that was read. -/
def tree (e : Expression) : Node := e.code.body

/-- An expression as a summary shows it. -/
def summary (e : Expression) : String := "Expression(" ++ Quoted.shown e.source ++ ")"

end Expression

namespace Script

/-- The tree that was read. -/
def tree (s : Script) : Node := s.closure.lambda.body

/-- The directives of the script. -/
def pragmas (s : Script) : List Pragma := s.tree.pragmas

/-- The names of all parameters. -/
def params (s : Script) : List String := s.closure.params

/-- The parameters that no argument is fixed for. -/
def unbound (s : Script) : List String := s.closure.unbound

/-- The script with more arguments fixed. -/
def curry (s : Script) (args : List Value) : Script :=
  { s with closure := s.closure.curry args }

/-- A script as a summary shows it. -/
def summary (s : Script) : String :=
  "Script \x7b source: " ++ Quoted.shown s.source ++ ", unbound: " ++
    Store.bracketed (s.unbound.map Quoted.shown) ++ ", .. \x7d"

end Script

/-- Compiles sources and runs them. -/
structure Engine where
  rules : Semantics
  features : Features
  options : Options
  cache : Cache

namespace Engine

/-- What an embedder may choose about an engine. -/
structure Settings where
  options : Options
  /-- How strict arithmetic is, if that does not follow the options. -/
  strictArithmetic : Option Bool
  features : Features
  permissions : Option Permissions
  embedder : Embedder
  /-- The number of compilations to keep; none at all if it is zero. -/
  cacheCapacity : Nat
  /-- The greatest length in bytes of a source whose compilation is kept. -/
  cacheThreshold : Nat

namespace Settings

/-- What holds unless an embedder says otherwise. -/
def standard : Settings :=
  { options := .standard
    strictArithmetic := none
    features := .standard
    permissions := none
    embedder := .none
    cacheCapacity := 512
    cacheThreshold := 4096 }

instance : Inhabited Settings := ⟨standard⟩

end Settings

/-- The engine of some settings. -/
def ofSettings (settings : Settings) : Engine :=
  { rules :=
      { arithmetic := ⟨settings.strictArithmetic.getD settings.options.strict⟩
        members := ⟨settings.permissions, settings.embedder⟩ }
    features := settings.features
    options := settings.options
    cache := .empty settings.cacheCapacity settings.cacheThreshold }

/-- An engine with the standard settings. -/
def standard : Engine := ofSettings .standard

instance : Inhabited Engine := ⟨standard⟩

/-- The number of compilations in the cache. -/
def cachedCount (e : Engine) : Nat := e.cache.count

/-- The engine with an empty cache. -/
def clearCache (e : Engine) : Engine := { e with cache := e.cache.clear }

/-- An engine as a summary shows it. -/
def summary (e : Engine) : String :=
  "Engine \x7b features: " ++ e.features.render ++ ", options: " ++ e.options.render ++
    s!", cached: {e.cachedCount}, .. \x7d"

/-- Compile a source, or find its compilation in the cache.  A source that
compiles and is short enough is used last in the cache from now on. -/
def compile (e : Engine) (source : Source) (s : Store) :
    Except ParseError Lambda × Engine × Store :=
  match if e.cache.accepts source then e.cache.find? source else none with
  | some code => (.ok code, { e with cache := e.cache.use source code }, s)
  | none =>
    let (unit, s) := s.newUnit
    match source.compile ⟨e.features, unit⟩ with
    | .error fault => (.error fault, e, s)
    | .ok code =>
      let cache := if e.cache.accepts source then e.cache.use source code else e.cache
      (.ok code, { e with cache := cache }, s)

/-- Compile an expression. -/
def expression (e : Engine) (text : String) (s : Store) :
    Except ParseError Expression × Engine × Store :=
  let (result, e, s) := e.compile (.ofExpression text) s
  (result.map fun code => ⟨text, code⟩, e, s)

/-- Compile a script with parameters. -/
def script (e : Engine) (text : String) (params : List String) (s : Store) :
    Except ParseError Script × Engine × Store :=
  let (result, e, s) := e.compile (.ofScript text params) s
  (result.map fun code => ⟨text, .ofLambda code none⟩, e, s)

/-- Run an expression. -/
def evaluate (e : Engine) (x : Expression) (ctx : ContextRef) (s : Store) : Outcome × Store :=
  e.rules.interpret e.options x.tree ctx s

/-- Run a script with arguments for its open parameters.  The directives of the
script override the options of the engine. -/
def execute (e : Engine) (x : Script) (args : List Value) (ctx : ContextRef) (s : Store) :
    Outcome × Store :=
  e.rules.call (e.options.withPragmas x.pragmas) x.closure args ctx s

/-- A new context whose variables are the properties of a value. -/
def objectContext (e : Engine) (object : Value) (s : Store) : ContextRef × Store :=
  s.newContext (.members object e.rules.members.permissions)

end Engine

end ScriptEngine

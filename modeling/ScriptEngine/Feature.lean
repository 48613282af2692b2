/-!
# Grammar features

The constructs of the language that an embedder can switch off one by one.
A set of features is a predicate on `Feature`; `Features.standard` is
everything but the two lexical checks, which only make the grammar stricter.
-/

namespace ScriptEngine

/-- The constructs and checks that can be switched. -/
inductive Feature where
  /-- Loops: `for`, `while` and `do`. -/
  | loops
  /-- Function literals such as `(a, b) -> body`. -/
  | lambda
  /-- Declarations such as `var x = 1`. -/
  | localVar
  /-- Calls of the form `object.method(args)`. -/
  | methodCall
  /-- Constructor calls: `new(className, args)`. -/
  | newInstance
  /-- Array, map and set literals. -/
  | structuredLiteral
  /-- Directives: `#pragma key value`. -/
  | pragma
  /-- Annotated statements: `@name(args) statement`. -/
  | annotations
  /-- More than one statement in a script. -/
  | script
  /-- Assignment, compound assignment and steps. -/
  | sideEffect
  /-- Reject a second `var` of one name in one block. -/
  | lexical
  /-- Reject a `var` that hides a local of an enclosing block. -/
  | lexicalShade
  /-- The word operators `eq ne lt le gt ge and or not`. -/
  | comparatorNames
  deriving DecidableEq, Repr

namespace Feature

/-- Every feature, in the order in which they are listed and numbered. -/
def all : List Feature :=
  [loops, lambda, localVar, methodCall, newInstance, structuredLiteral, pragma, annotations,
   script, sideEffect, lexical, lexicalShade, comparatorNames]

/-- The name an embedder writes. -/
def name : Feature → String
  | loops => "LOOPS"
  | lambda => "LAMBDA"
  | localVar => "LOCAL_VAR"
  | methodCall => "METHOD_CALL"
  | newInstance => "NEW_INSTANCE"
  | structuredLiteral => "STRUCTURED_LITERAL"
  | pragma => "PRAGMA"
  | annotations => "ANNOTATION"
  | script => "SCRIPT"
  | sideEffect => "SIDE_EFFECT"
  | lexical => "LEXICAL"
  | lexicalShade => "LEXICAL_SHADE"
  | comparatorNames => "COMPARATOR_NAMES"

/-- The feature that an embedder's name stands for. -/
def ofName? (s : String) : Option Feature := all.find? (·.name = s)

/-- What a message calls the construct; the lexical checks reject nothing on
their own account and have no name of their own. -/
def describe : Feature → String
  | loops => "loops"
  | lambda => "lambdas"
  | localVar => "local variables"
  | methodCall => "method calls"
  | newInstance => "new instance"
  | structuredLiteral => "structured literals"
  | pragma => "pragmas"
  | annotations => "annotations"
  | script => "scripts"
  | sideEffect => "side effects"
  | comparatorNames => "comparator names"
  | lexical | lexicalShade => "feature"

end Feature

/-- A set of features. -/
structure Features where
  has : Feature → Bool

namespace Features

/-- No feature at all. -/
def empty : Features := ⟨fun _ => false⟩

/-- Every construct, without the lexical checks. -/
def standard : Features := ⟨fun f => f ≠ .lexical && f ≠ .lexicalShade⟩

/-- Exactly the features listed. -/
def ofList (fs : List Feature) : Features := ⟨fun f => fs.contains f⟩

def insert (s : Features) (f : Feature) : Features := ⟨fun g => g = f || s.has g⟩

def erase (s : Features) (f : Feature) : Features := ⟨fun g => g ≠ f && s.has g⟩

/-- The features of the set, in order. -/
def toList (s : Features) : List Feature := Feature.all.filter s.has

/-- The set as a number with one binary digit for each feature, the first the
lowest. -/
def bits (s : Features) : Nat :=
  Feature.all.foldr (fun f n => (if s.has f then 1 else 0) + 2 * n) 0

/-- A set of one feature is called by its name; any other is a "feature". -/
def describe (s : Features) : String :=
  match s.toList with
  | [f] => f.describe
  | _ => "feature"

/-- The set as it is shown in an engine's summary. -/
def render (s : Features) : String :=
  let names := s.toList.map Feature.name
  "Features(" ++ (if names.isEmpty then "0x0" else " | ".intercalate names) ++ ")"

instance : Inhabited Features := ⟨standard⟩

end Features

end ScriptEngine

import ScriptEngine.Grammar.Program
import ScriptEngine.Token.Lexer

/-!
# Sources and their compilation

A source is a text together with what it is to be read as.  Compiling it gives
the code of a function: its parameters are those of the source and its body is
the tree that was read.
-/

namespace ScriptEngine

/-- What a text is read as. -/
inductive SourceKind where
  | expression
  | script
  deriving DecidableEq, Repr

/-- A text to compile.  Expressions have no parameters. -/
structure Source where
  kind : SourceKind
  text : String
  params : List String
  deriving DecidableEq, Repr

namespace Source

/-- A single expression. -/
def ofExpression (text : String) : Source := ⟨.expression, text, []⟩

/-- A script with parameters. -/
def ofScript (text : String) (params : List String) : Source := ⟨.script, text, params⟩

/-- The tree that a source is read as. -/
def tree (source : Source) (dialect : Dialect) : Except ParseError Node :=
  let tokens := Token.ofSource source.text
  match source.kind with
  | .expression => Node.ofExpression dialect tokens
  | .script => Node.ofScript dialect source.params tokens

/-- The code that a source is compiled to. -/
def compile (source : Source) (dialect : Dialect) : Except ParseError Lambda :=
  (source.tree dialect).map fun tree => ⟨⟨dialect.unit, 0⟩, source.params, tree⟩

end Source

end ScriptEngine

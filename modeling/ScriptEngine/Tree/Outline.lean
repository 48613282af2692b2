import ScriptEngine.Tree.Printer

/-!
# Names for the forms of nodes

Every form of node has a name, and most have something beside their parts that
tells two nodes of one form apart: a name, an operator, a list of parameters.
Together they outline a tree for readers.
-/

namespace ScriptEngine

namespace Node

/-- The name of a node's form. -/
def formName : Node → String
  | literal .. => "Literal" | ident .. => "Ident" | binary .. => "Binary"
  | unary .. => "Unary" | property .. => "Property" | index .. => "Index"
  | methodCall .. => "MethodCall" | call .. => "Call" | construct .. => "New"
  | assign .. => "Assign" | ternary .. => "Ternary" | elvis .. => "Elvis"
  | range .. => "Range" | array .. => "Array" | map .. => "Map" | set .. => "Set"
  | lambda .. => "Lambda" | ifElse .. => "If" | forLoop .. => "For"
  | foreach .. => "Foreach" | whileLoop .. => "While" | doWhile .. => "DoWhile"
  | block .. => "Block" | breakLoop _ => "Break" | continueLoop _ => "Continue"
  | returnValue .. => "Return" | var .. => "Var" | annotated .. => "Annotated"
  | script .. => "Script"

/-- What tells a node from others of its form, apart from its parts. -/
def detail : Node → String
  | literal _ value => value.render
  | ident _ name | property _ _ name | methodCall _ _ name _ | var _ name _ => name
  | binary _ op _ _ => op.symbol
  | unary _ op _ => op.symbol
  | assign _ _ _ isPostfix => if isPostfix then "postfix" else ""
  | elvis _ _ _ coalesce => if coalesce then "??" else "?:"
  | foreach _ name declared _ _ => if declared then "var " ++ name else name
  | lambda _ _ params _ => ",".intercalate params
  | annotated _ name args _ => s!"{name}/{args.length}"
  | _ => ""

end Node

end ScriptEngine

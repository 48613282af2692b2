import ScriptEngine.Text.Quoted
import ScriptEngine.Tree

/-!
# Trees as source text

The canonical text of a tree.  Parentheses stand only where binding power asks
for them, simple statements end with a semicolon, and compound assignments are
written out (`x += 1` becomes `x = x + 1`), except that postfix steps keep
their form.

* `Node.render` — the text of a tree;
* `Node.bare` — the text of a node without parentheses of its own.
-/

namespace ScriptEngine

/-- A literal as it is written in a source. -/
def Literal.render : Literal → String
  | nil => "null"
  | bool value => if value then "true" else "false"
  | number value => value.render
  | text value => Quoted.source value

/-- A directive as it is written in a source. -/
def Pragma.render (p : Pragma) : String := s!"#pragma {p.key} {p.value.render}"

namespace Node

/-- How tightly the construct at the root of a node binds. -/
def bindingPower : Node → Nat
  | binary _ op _ _ => op.precedence
  | range .. => Binding.predicate
  | unary .. => Binding.unary
  | ternary .. | elvis .. => Binding.conditional
  | assign _ _ _ isPostfix => if isPostfix then Binding.postfixChain else Binding.assignment
  | lambda .. => Binding.assignment
  | _ => Binding.atom

/-- The text of a node where at least the binding power `least` is needed. -/
def grouped (least : Nat) (node : Node) (text : String) : String :=
  if node.bindingPower < least then "(" ++ text ++ ")" else text

/-- The text of a statement in a sequence. -/
def terminated (node : Node) (text : String) : String :=
  if node.isBlock then text else text ++ ";"

/-- The texts of several operands, separated by commas. -/
def listed (nodes : List Node) (texts : List String) : String :=
  ", ".intercalate (List.zipWith (grouped Binding.assignment) nodes texts)

/-- The texts of several statements, one after the other. -/
def sequenced (nodes : List Node) (texts : List String) : String :=
  " ".intercalate (List.zipWith terminated nodes texts)

/-- The text of one entry of a map. -/
def entryText (entry : Node × Node) (texts : String × String) : String :=
  grouped (Binding.conditional + 1) entry.1 texts.1 ++ ": " ++
    grouped Binding.assignment entry.2 texts.2

/-- The sign of a postfix step whose new value is `value`; only a binary
operation is a step. -/
def stepSign? : Node → Option String
  | binary _ op _ _ => some (if op = .sub then "--" else "++")
  | _ => none

mutual

/-- The text of a node, without parentheses around it. -/
def bare : Node → String
  | literal _ value => value.render
  | ident _ name => name
  | binary _ op left right =>
    grouped op.precedence left left.bare ++ " " ++ op.symbol ++ " " ++
      grouped (op.precedence + 1) right right.bare
  | unary _ op operand =>
    op.symbol ++ (if op.isWord then " " else "") ++
      grouped (Binding.unary + 1) operand operand.bare
  | property _ object name => grouped Binding.postfixChain object object.bare ++ "." ++ name
  | index _ object key =>
    grouped Binding.postfixChain object object.bare ++ "[" ++
      grouped Binding.assignment key key.bare ++ "]"
  | methodCall _ object method args =>
    grouped Binding.postfixChain object object.bare ++ "." ++ method ++ "(" ++
      listed args (bareAll args) ++ ")"
  | call _ callee args =>
    grouped Binding.postfixChain callee callee.bare ++ "(" ++ listed args (bareAll args) ++ ")"
  | construct _ className args =>
    "new(" ++ listed (className :: args) (className.bare :: bareAll args) ++ ")"
  | assign _ target value isPostfix =>
    let assigned :=
      grouped Binding.postfixChain target target.bare ++ " = " ++
        grouped Binding.assignment value value.bare
    if isPostfix then
      match value.stepSign? with
      | some sign => grouped Binding.postfixChain target target.bare ++ sign
      | none => assigned
    else assigned
  | ternary _ cond thenBranch elseBranch =>
    grouped (Binding.conditional + 1) cond cond.bare ++ " ? " ++
      grouped Binding.conditional thenBranch thenBranch.bare ++ " : " ++
      grouped Binding.conditional elseBranch elseBranch.bare
  | elvis _ left right coalesce =>
    grouped (Binding.conditional + 1) left left.bare ++
      (if coalesce then " ?? " else " ?: ") ++
      grouped Binding.conditional right right.bare
  | range _ first last =>
    grouped Binding.predicate first first.bare ++ " .. " ++
      grouped (Binding.predicate + 1) last last.bare
  | array _ items => "[" ++ listed items (bareAll items) ++ "]"
  | map _ entries =>
    if entries.isEmpty then "\x7b:\x7d"
    else
      "\x7b" ++ ", ".intercalate (List.zipWith entryText entries (bareEntries entries)) ++
        "\x7d"
  | set _ items => "\x7b" ++ listed items (bareAll items) ++ "\x7d"
  | lambda _ _ params body =>
    "(" ++ ", ".intercalate params ++ ") -> " ++
      (if body.isBlock then body.bare else grouped Binding.assignment body body.bare)
  | ifElse _ cond thenBranch elseBranch =>
    "if (" ++ grouped Binding.assignment cond cond.bare ++ ") " ++
      terminated thenBranch thenBranch.bare ++
      match elseBranch, bareOption elseBranch with
      | some node, some text => " else " ++ terminated node text
      | _, _ => ""
  | forLoop _ init cond step body =>
    "for (" ++ (bareOption init).getD "" ++ "; " ++
      (match cond, bareOption cond with
        | some node, some text => grouped Binding.assignment node text
        | _, _ => "") ++ "; " ++
      (match step, bareOption step with
        | some node, some text => grouped Binding.assignment node text
        | _, _ => "") ++ ") " ++ terminated body body.bare
  | foreach _ name declared iterable body =>
    "for (" ++ (if declared then "var " else "") ++ name ++ " : " ++
      grouped Binding.assignment iterable iterable.bare ++ ") " ++ terminated body body.bare
  | whileLoop _ cond body =>
    "while (" ++ grouped Binding.assignment cond cond.bare ++ ") " ++ terminated body body.bare
  | doWhile _ body cond =>
    "do " ++ terminated body body.bare ++ " while (" ++
      grouped Binding.assignment cond cond.bare ++ ")"
  | block _ statements =>
    if statements.isEmpty then "\x7b \x7d"
    else "\x7b " ++ sequenced statements (bareAll statements) ++ " \x7d"
  | breakLoop _ => "break"
  | continueLoop _ => "continue"
  | returnValue _ value =>
    match value, bareOption value with
    | some node, some text => "return " ++ grouped Binding.assignment node text
    | _, _ => "return"
  | var _ name init =>
    "var " ++ name ++
      match init, bareOption init with
      | some node, some text => " = " ++ grouped Binding.assignment node text
      | _, _ => ""
  | annotated _ name args statement =>
    "@" ++ name ++ (if args.isEmpty then "" else "(" ++ listed args (bareAll args) ++ ")") ++
      " " ++ statement.bare
  | script _ body pragmas =>
    String.join (pragmas.map fun p => p.render ++ "\n") ++ sequenced body (bareAll body)

/-- The texts of several nodes. -/
def bareAll : List Node → List String
  | [] => []
  | node :: rest => node.bare :: bareAll rest

/-- The text of a part that may be left out. -/
def bareOption : Option Node → Option String
  | none => none
  | some node => some node.bare

/-- The texts of the keys and values of a map. -/
def bareEntries : List (Node × Node) → List (String × String)
  | [] => []
  | (key, value) :: rest => (key.bare, value.bare) :: bareEntries rest

end

/-- The canonical text of a tree. -/
def render (node : Node) : String := grouped Binding.assignment node node.bare

end Node

end ScriptEngine

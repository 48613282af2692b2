import ScriptEngine.Store
import ScriptEngine.Text.Quoted

/-!
# Values as text

The text of a value.  Inside a collection texts are quoted; at the top they
stand for themselves.  A collection that is met again on the way down from the
root is elided, because it contains itself.  A collection
that merely occurs twice is written twice.

* `Store.display` — the text shown for a value;
* `Store.plain` — the text that concatenation uses: nil is empty;
* `Store.inspect` — the text that also tells the kinds of values apart.
-/

namespace ScriptEngine.Store

variable (s : Store)

/-- The text of a value below the collections on `path`; `depth` bounds the
number of collections still to be entered. -/
def displayWithin : (depth : Nat) → (path : List Collection) → Value → String
  | _, _, .nil => "null"
  | _, _, .bool value => if value then "true" else "false"
  | _, _, .number value => value.render
  | _, _, .text value => Quoted.shown value
  | _, _, .function closure => "function(" ++ ", ".intercalate closure.params ++ ")"
  | _, _, .object ref => "<" ++ (s.host ref).typeName ++ ">"
  | 0, _, .array _ => "[...]"
  | 0, _, .map _ => "\x7b...\x7d"
  | depth + 1, path, .array ref =>
    if path.contains (.array ref) then "[...]"
    else
      let path := .array ref :: path
      "[" ++ ", ".intercalate ((s.items ref).toList.map (displayWithin depth path)) ++ "]"
  | depth + 1, path, .map ref =>
    if path.contains (.map ref) then "\x7b...\x7d"
    else
      let path := .map ref :: path
      let entries := (s.entries ref).entries
      if entries.isEmpty then "\x7b:\x7d"
      else
        "\x7b" ++ ", ".intercalate (entries.map fun (key, value) =>
          Quoted.shown key ++ ": " ++ displayWithin depth path value) ++ "\x7d"

/-- The text shown for a value. -/
def display : Value → String
  | .text value => value
  | value => s.displayWithin (s.collectionCount + 1) [] value

/-- The text of a value in a concatenation. -/
def plain : Value → String
  | .nil => ""
  | value => s.display value

/-- Texts in brackets, separated by commas. -/
def bracketed (texts : List String) : String := "[" ++ ", ".intercalate texts ++ "]"

/-- The text of a closure that tells its parameters, the number of its fixed
arguments and whether it captured a context. -/
def inspectClosure (c : Closure Value) : String :=
  "Closure \x7b params: " ++ bracketed (c.params.map Quoted.shown) ++
    s!", bound: {c.bound.length}, captured: {c.captured.isSome} " ++ "\x7d"

/-- The text of a value with the kind of everything in it, below the
collections on `path`. -/
def inspectWithin : (depth : Nat) → (path : List Collection) → Value → String
  | _, _, .nil => "Nil"
  | _, _, .bool value => s!"Bool({value})"
  | _, _, .number value => "Number(" ++ value.render ++ ")"
  | _, _, .text value => "Str(" ++ Quoted.shown value ++ ")"
  | _, _, .function closure => inspectClosure closure
  | _, _, .object ref => "Object(" ++ (s.host ref).typeName ++ ")"
  | 0, _, .array _ => "Array([...])"
  | 0, _, .map _ => "Map(\x7b...\x7d)"
  | depth + 1, path, .array ref =>
    if path.contains (.array ref) then "Array([...])"
    else
      let path := .array ref :: path
      "Array(" ++ bracketed ((s.items ref).toList.map (inspectWithin depth path)) ++ ")"
  | depth + 1, path, .map ref =>
    if path.contains (.map ref) then "Map(\x7b...\x7d)"
    else
      let path := .map ref :: path
      "Map(\x7b" ++ ", ".intercalate ((s.entries ref).entries.map fun (key, value) =>
        Quoted.shown key ++ ": " ++ inspectWithin depth path value) ++ "\x7d)"

/-- The text of a value with the kind of everything in it. -/
def inspect (value : Value) : String := s.inspectWithin (s.collectionCount + 1) [] value

end ScriptEngine.Store

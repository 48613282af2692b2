import ScriptEngine.EvalError
import ScriptEngine.Number.Word
import ScriptEngine.Text.CaseMapping
import ScriptEngine.Text.Search
import ScriptEngine.Value.Equality
import ScriptEngine.Value.Printer

/-!
# Builtin methods

The methods of texts, arrays, maps and functions.  Positions in a text count
characters.  Each method checks the number and the kinds of its arguments, and
the positions among them, before it changes anything; a failed call leaves the
store as it was.

`Builtin.ofName?` finds the method of a value by name and `Builtin.run` runs
it.
-/

namespace ScriptEngine

/-- A computation on the store that may fail. -/
abbrev Action (α : Type) := EStateM EvalError Store α

/-- The builtin methods. -/
inductive Builtin where
  | size | isEmpty
  | upper | lower | trim | substring | textIndexOf | textContains | startsWith | endsWith
  | split | replace | charAt
  | arrayGet | arrayContains | arrayIndexOf | arrayAdd | arraySet | arrayRemove | arrayJoin
  | mapGet | mapContainsKey | mapPut | mapRemove | mapKeys | mapValues
  | curry
  deriving DecidableEq, Repr

namespace Builtin

/-- The methods of texts. -/
def ofText? : String → Option Builtin
  | "length" | "size" => some size
  | "isEmpty" => some isEmpty
  | "toUpperCase" => some upper
  | "toLowerCase" => some lower
  | "trim" => some trim
  | "substring" => some substring
  | "indexOf" => some textIndexOf
  | "contains" => some textContains
  | "startsWith" => some startsWith
  | "endsWith" => some endsWith
  | "split" => some split
  | "replace" => some replace
  | "charAt" => some charAt
  | _ => none

/-- The methods of arrays. -/
def ofArray? : String → Option Builtin
  | "length" | "size" => some size
  | "isEmpty" => some isEmpty
  | "get" => some arrayGet
  | "contains" => some arrayContains
  | "indexOf" => some arrayIndexOf
  | "add" => some arrayAdd
  | "set" => some arraySet
  | "remove" => some arrayRemove
  | "join" => some arrayJoin
  | _ => none

/-- The methods of maps. -/
def ofMap? : String → Option Builtin
  | "size" => some size
  | "isEmpty" => some isEmpty
  | "get" => some mapGet
  | "containsKey" => some mapContainsKey
  | "put" => some mapPut
  | "remove" => some mapRemove
  | "keys" => some mapKeys
  | "values" => some mapValues
  | _ => none

/-- The methods of functions that need no evaluation. -/
def ofFunction? : String → Option Builtin
  | "curry" => some curry
  | _ => none

/-- The method of a value by its name. -/
def ofName? : Value → String → Option Builtin
  | .text _, name => ofText? name
  | .array _, name => ofArray? name
  | .map _, name => ofMap? name
  | .function _, name => ofFunction? name
  | _, _ => none

/-- The computed properties of texts, arrays and maps. -/
def ofProperty? : String → Option Builtin
  | "length" | "size" => some size
  | "empty" => some isEmpty
  | _ => none

/-! ## Arguments -/

/-- Refuse a number of arguments. -/
def wrongCount {α : Type} (method : String) (expected got : Nat) : Action α :=
  let word := if expected = 1 then "argument" else "arguments"
  throw (.custom s!"{method} expects {expected} {word}, got {got}")

/-- Refuse the kind of an argument. -/
def wrongKind {α : Type} (method expected : String) (got : Value) : Action α := do
  let s ← get
  throw (.custom s!"{method} expects a {expected} argument, got {got.typeName s}")

/-- Refuse an index. -/
def outOfBounds {α : Type} (index : Value) (length : Nat) : Action α := do
  let s ← get
  throw (.ofCause (.indexOutOfBounds (s.display index) length))

/-- Refuse a receiver. -/
def wrongReceiver {α : Type} (operation : String) (receiver : Value) : Action α := do
  let s ← get
  throw (.ofCause (.unsupportedOperand operation (receiver.typeName s)))

/-- Go on only with the number of arguments expected. -/
def arity (method : String) (args : List Value) (expected : Nat) : Action Unit :=
  if args.length = expected then pure () else wrongCount method expected args.length

/-- The text at a place among the arguments. -/
def textArg (method : String) (args : List Value) (place : Nat) : Action (List Char) :=
  match args[place]? with
  | some (.text value) => return value.toList
  | some other => wrongKind method "string" other
  | none => wrongCount method (place + 1) args.length

/-- The word at a place among the arguments. -/
def wordArg (method : String) (args : List Value) (place : Nat) : Action Int :=
  match args[place]? with
  | some (.number value) => return value.clampInt64
  | some other => wrongKind method "number" other
  | none => wrongCount method (place + 1) args.length

/-- A position from 0 up to and including `length`. -/
def position (method : String) (args : List Value) (place length : Nat) : Action Nat := do
  let raw ← wordArg method args place
  if 0 ≤ raw ∧ raw ≤ length then return raw.toNat
  else outOfBounds (args.getD place .nil) length

/-- The index of an element: a position below `length`. -/
def element (method : String) (args : List Value) (place length : Nat) : Action Nat := do
  let p ← position method args place length
  if p < length then return p else outOfBounds (args.getD place .nil) length

/-- A place in a text or an array, or -1 if there is none. -/
def placeValue : Option Nat → Value
  | some i => .count i
  | none => .int (-1)

/-! ## Receivers -/

def receiverText : Value → Action (List Char)
  | .text value => return value.toList
  | other => wrongReceiver "string method" other

/-- The receiver of an array method, and its items. -/
def receiverArray (method : String) : Value → Action (ArrayRef × Array Value)
  | .array ref => return (ref, (← get).items ref)
  | other => wrongReceiver method other

/-- The receiver of a map method, and its entries. -/
def receiverMap (method : String) : Value → Action (MapRef × OrderedMap Value)
  | .map ref => return (ref, (← get).entries ref)
  | other => wrongReceiver method other

/-- A new array of the items given. -/
def newArray (items : List Value) : Action Value := do
  let (ref, s) := (← get).newArray items.toArray
  set s
  return .array ref

def textOf (cs : List Char) : Value := .text (String.ofList cs)

/-! ## Methods -/

/-- The number of characters, items or entries. -/
def sizeOf (receiver : Value) : Action Value := do
  match receiver with
  | .text value => return .count value.length
  | .array ref => return .count ((← get).items ref).size
  | .map ref => return .count ((← get).entries ref).size
  | other => wrongReceiver "size" other

/-- Whether there are no characters, items or entries. -/
def emptiness (receiver : Value) : Action Value := do
  match receiver with
  | .text value => return .bool value.isEmpty
  | .array ref => return .bool ((← get).items ref).isEmpty
  | .map ref => return .bool ((← get).entries ref).isEmpty
  | other => wrongReceiver "empty" other

/-- The characters from one position to another, or to the end. -/
def runSubstring (receiver : Value) (args : List Value) : Action Value := do
  let cs ← receiverText receiver
  if args.isEmpty ∨ 2 < args.length then wrongCount "substring" 2 args.length
  let start ← position "substring" args 0 cs.length
  let stop ← if args.length = 2 then position "substring" args 1 cs.length else pure cs.length
  if stop < start then outOfBounds (args.getD 1 .nil) cs.length
  return textOf ((cs.take stop).drop start)

/-- Replace an element and give back the one before. -/
def runArraySet (receiver : Value) (args : List Value) : Action Value := do
  arity "set" args 2
  let (ref, items) ← receiverArray "set" receiver
  let i ← element "set" args 0 items.size
  modify fun s => s.modifyItems ref fun items => items.set! i (args.getD 1 .nil)
  return items.getD i .nil

/-- Remove an element and give it back; those after it move up. -/
def runArrayRemove (receiver : Value) (args : List Value) : Action Value := do
  arity "remove" args 1
  let (ref, items) ← receiverArray "remove" receiver
  let i ← element "remove" args 0 items.size
  modify fun s => s.modifyItems ref fun items => items.eraseIdxIfInBounds i
  return items.getD i .nil

/-- The texts of the items with a separator between them. -/
def runArrayJoin (receiver : Value) (args : List Value) : Action Value := do
  let (_, items) ← receiverArray "join" receiver
  let sep ← match args with
    | [] => pure [',']
    | [_] => textArg "join" args 0
    | _ => wrongCount "join" 1 args.length
  let s ← get
  return .text ((String.ofList sep).intercalate (items.toList.map s.plain))

/-- Run a builtin method. -/
def run (b : Builtin) (receiver : Value) (args : List Value) : Action Value := do
  let arg (i : Nat) : Value := args.getD i .nil
  match b with
  | size =>
    arity "size" args 0
    sizeOf receiver
  | isEmpty =>
    arity "isEmpty" args 0
    emptiness receiver
  | upper =>
    arity "toUpperCase" args 0
    return .text (upperCase (String.ofList (← receiverText receiver)))
  | lower =>
    arity "toLowerCase" args 0
    return .text (lowerCase (String.ofList (← receiverText receiver)))
  | trim =>
    arity "trim" args 0
    return textOf (Search.trim (← receiverText receiver))
  | substring => runSubstring receiver args
  | textIndexOf =>
    arity "indexOf" args 1
    let cs ← receiverText receiver
    return placeValue (Search.indexOf? (← textArg "indexOf" args 0) cs)
  | textContains =>
    arity "contains" args 1
    let cs ← receiverText receiver
    return .bool (Search.contains (← textArg "contains" args 0) cs)
  | startsWith =>
    arity "startsWith" args 1
    let cs ← receiverText receiver
    return .bool ((← textArg "startsWith" args 0).isPrefixOf cs)
  | endsWith =>
    arity "endsWith" args 1
    let cs ← receiverText receiver
    return .bool ((← textArg "endsWith" args 0).isSuffixOf cs)
  | split =>
    arity "split" args 1
    let cs ← receiverText receiver
    let sep ← textArg "split" args 0
    newArray ((Search.splitOn sep cs).map textOf)
  | replace =>
    arity "replace" args 2
    let cs ← receiverText receiver
    let old ← textArg "replace" args 0
    let new ← textArg "replace" args 1
    return textOf (Search.replaceAll old new cs)
  | charAt =>
    arity "charAt" args 1
    let cs ← receiverText receiver
    let i ← element "charAt" args 0 cs.length
    return match cs[i]? with
      | some c => textOf [c]
      | none => .nil
  | arrayGet =>
    arity "get" args 1
    let (_, items) ← receiverArray "get" receiver
    let i ← element "get" args 0 items.size
    return items.getD i .nil
  | arrayContains =>
    arity "contains" args 1
    let (_, items) ← receiverArray "contains" receiver
    let s ← get
    return .bool (items.any fun x => s.equal x (arg 0))
  | arrayIndexOf =>
    arity "indexOf" args 1
    let (_, items) ← receiverArray "indexOf" receiver
    let s ← get
    return placeValue (items.findIdx? fun x => s.equal x (arg 0))
  | arrayAdd =>
    arity "add" args 1
    let (ref, _) ← receiverArray "add" receiver
    modify fun s => s.modifyItems ref fun items => items.push (arg 0)
    return .bool true
  | arraySet => runArraySet receiver args
  | arrayRemove => runArrayRemove receiver args
  | arrayJoin => runArrayJoin receiver args
  | mapGet =>
    arity "get" args 1
    let (_, entries) ← receiverMap "get" receiver
    return (entries.find? ((← get).plain (arg 0))).getD .nil
  | mapContainsKey =>
    arity "containsKey" args 1
    let (_, entries) ← receiverMap "containsKey" receiver
    return .bool (entries.contains ((← get).plain (arg 0)))
  | mapPut =>
    arity "put" args 2
    let (ref, entries) ← receiverMap "put" receiver
    let key := (← get).plain (arg 0)
    modify fun s => s.modifyEntries ref fun entries => entries.insert key (arg 1)
    return (entries.find? key).getD .nil
  | mapRemove =>
    arity "remove" args 1
    let (ref, entries) ← receiverMap "remove" receiver
    let key := (← get).plain (arg 0)
    modify fun s => s.modifyEntries ref fun entries => entries.erase key
    return (entries.find? key).getD .nil
  | mapKeys =>
    arity "keys" args 0
    let (_, entries) ← receiverMap "keys" receiver
    newArray (entries.keys.map .text)
  | mapValues =>
    arity "values" args 0
    let (_, entries) ← receiverMap "values" receiver
    newArray entries.values
  | curry =>
    match receiver with
    | .function closure => return .function (closure.curry args)
    | other => do
      let s ← get
      throw (.ofCause (.notCallable (other.typeName s)))

end Builtin

end ScriptEngine

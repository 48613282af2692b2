import ScriptEngine.Member.Builtin
import ScriptEngine.Member.Overload

/-!
# Members of values

How a program reaches the properties and methods of a value, and constructors
by name.  Each access has two steps: it is first resolved, which may find
nothing, and then run.

* The keys of a map are its properties, and the positions of an array are.
* Texts, arrays and maps have a computed length and emptiness, which a map
  hides behind its own keys.
* Texts, arrays, maps and functions have builtin methods.
* Host objects have the fields and methods that their embedder gives them.

Permissions hide members: what they deny is resolved to nothing, and a
constructor that they deny is refused.
-/

namespace ScriptEngine

/-- The embedder's own code: what writing a field and calling a method of a
host object do, and the constructors that programs may call. -/
structure Embedder where
  /-- Write a field; false if the object has no such field. -/
  assign : HostRef → String → Value → Action Bool
  /-- Call the overload at a place in the object's list of methods. -/
  invoke : HostRef → Nat → List Value → Action Value
  constructors : OrderedMap (List Value → Action Value)

namespace Embedder

/-- An embedder without objects and constructors. -/
def none : Embedder :=
  { assign := fun _ _ _ => return false
    invoke := fun _ _ _ => return .nil
    constructors := .empty }

instance : Inhabited Embedder := ⟨none⟩

/-- A summary: the names of the constructors in order. -/
def summary (e : Embedder) : String :=
  let names := e.constructors.keys.mergeSort fun a b => decide (a ≤ b)
  "JexlUberspect \x7b constructors: " ++ Store.bracketed (names.map Quoted.shown) ++ " \x7d"

end Embedder

/-- A place inside a value that a property name stands for. -/
inductive Place where
  | key (name : String)
  | position (index : Nat)
  | field (name : String)
  deriving DecidableEq, Repr

/-- A property: a place that holds a value, or something computed. -/
inductive Property where
  | stored (place : Place)
  | computed (builtin : Builtin)
  deriving DecidableEq, Repr

/-- A method: a builtin one, or an overload of a host object. -/
inductive Method where
  | builtin (builtin : Builtin)
  | overload (index : Nat)
  deriving DecidableEq, Repr

/-- Report a property that a value does not have. -/
def noProperty {α : Type} (name : String) (base : Value) : Action α := do
  let s ← get
  throw (.ofCause (.propertyNotFound name (base.typeName s)))

namespace Place

/-- Read a place of a value.  A key that is absent reads as nil. -/
def read (place : Place) (base : Value) : Action Value := do
  let s ← get
  match place, base with
  | key name, .map ref => return ((s.entries ref).find? name).getD .nil
  | position index, .array ref =>
    let items := s.items ref
    match items[index]? with
    | some item => return item
    | none => throw (.ofCause (.indexOutOfBounds (toString index) items.size))
  | field name, .object ref =>
    match (s.host ref).fields.find? name with
    | some value => return value
    | none => noProperty name base
  | key name, _ | field name, _ => noProperty name base
  | position index, _ => noProperty (toString index) base

/-- Write a place of a value. -/
def write (embedder : Embedder) (place : Place) (base value : Value) : Action Unit := do
  match place, base with
  | key name, .map ref => modify fun s => s.modifyEntries ref fun m => m.insert name value
  | position index, .array ref =>
    let length := ((← get).items ref).size
    if index < length then
      modify fun s => s.modifyItems ref fun items => items.setIfInBounds index value
    else throw (.ofCause (.indexOutOfBounds (toString index) length))
  | field name, .object ref =>
    unless ← embedder.assign ref name value do noProperty name base
  | key name, _ | field name, _ => noProperty name base
  | position index, _ => noProperty (toString index) base

end Place

/-- Read a property of a value. -/
def Property.read (property : Property) (base : Value) : Action Value :=
  match property with
  | stored place => place.read base
  | computed builtin => builtin.run base []

/-- Call a method of a value. -/
def Method.run (embedder : Embedder) (method : Method) (base : Value) (args : List Value) :
    Action Value :=
  match method, base with
  | builtin b, _ => b.run base args
  | overload index, .object ref => embedder.invoke ref index args
  | overload _, _ => do
    let s ← get
    throw (.ofCause (.notCallable (base.typeName s)))

/-- What programs can reach: the embedder's code, and the permissions that
hide part of it if there are any. -/
structure Members where
  permissions : Option Permissions
  embedder : Embedder
  deriving Inhabited

namespace Members

variable (m : Members)

/-- Whether the permissions show a member of a type. -/
def shows (typeName member : String) : Bool :=
  m.permissions.all fun p => p.allowed typeName member

/-- The property to read for a name. -/
def readable? (s : Store) (base : Value) (name : String) : Option Property :=
  let computed := (Builtin.ofProperty? name).map Property.computed
  if m.shows (base.typeName s) name then
    match base with
    | .map ref =>
      if (s.entries ref).contains name then some (.stored (.key name))
      else computed.or (some (.stored (.key name)))
    | .array _ =>
      match Number.indexOfText? name with
      | some index => some (.stored (.position index))
      | none => computed
    | .text _ => computed
    | .object ref =>
      if (s.host ref).fields.contains name then some (.stored (.field name)) else none
    | _ => none
  else none

/-- The place to write for a name. -/
def writable? (s : Store) (base : Value) (name : String) : Option Place :=
  if m.shows (base.typeName s) name then
    match base with
    | .map _ => some (.key name)
    | .array _ => (Number.indexOfText? name).map .position
    | .object _ => some (.field name)
    | _ => none
  else none

/-- The method to call for a name and arguments. -/
def method? (s : Store) (base : Value) (name : String) (args : List Value) : Option Method :=
  if m.shows (base.typeName s) name then
    match base with
    | .object ref => (MethodSignature.choose (s.host ref).methods name args).map .overload
    | _ => (Builtin.ofName? base name).map .builtin
  else none

/-- The constructor of a name. -/
def constructor (name : String) : Except EvalError (List Value → Action Value) :=
  if m.shows name "new" then
    match m.embedder.constructors.find? name with
    | some make => .ok make
    | none => .error (.ofCause (.notImplemented s!"constructor '{name}'"))
  else .error (.ofCause (.unsupportedOperation s!"new '{name}'"))

/-- Read a property by name. -/
def readProperty (base : Value) (name : String) : Action Value := do
  match m.readable? (← get) base name with
  | some property => property.read base
  | none => noProperty name base

/-- Write a property by name. -/
def writeProperty (base : Value) (name : String) (value : Value) : Action Unit := do
  match m.writable? (← get) base name with
  | some place => place.write m.embedder base value
  | none => noProperty name base

/-- Call a constructor by name. -/
def construct (name : String) (args : List Value) : Action Value :=
  match m.constructor name with
  | .ok make => make args
  | .error e => throw e

end Members

end ScriptEngine

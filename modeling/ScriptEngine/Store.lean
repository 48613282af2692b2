import ScriptEngine.Member.Permission
import ScriptEngine.OrderedMap
import ScriptEngine.Value

/-!
# The store

Everything that has an identity lives in a store: arrays, maps, host objects,
contexts and cancellation flags.  Values refer to them by their place, and a
place is never given away twice.  The store also counts compilations, so that
the function literals of different compilations are told apart.

A context resolves the variables of an evaluation.  There are three kinds:

* a table of variables, possibly with a cancellation flag;
* the frame of a call, over the context of the caller and the context that the
  function captured;
* the members of a value, as the permissions allow.

A host object belongs to the embedder.  The store holds what a program can see
of it without running the embedder's code: its type name, its readable fields,
the signatures of its methods and its numeric view.
-/

namespace ScriptEngine

/-- The kind of argument that a parameter of a host method takes. -/
inductive ParamKind where
  | any | bool | number | integer | text | array | map | function | object
  deriving DecidableEq, Repr

/-- The kind that a name stands for in a signature; other names take anything. -/
def ParamKind.ofName : String → ParamKind
  | "Bool" => bool
  | "Number" => number
  | "Integer" => integer
  | "Str" => text
  | "Array" => array
  | "Map" => map
  | "Function" => function
  | "Object" => object
  | _ => any

/-- One overload of a host method. -/
structure MethodSignature where
  name : String
  params : List ParamKind
  deriving DecidableEq, Repr

/-- What a program can see of an object of the embedder.  `tag` is for the
embedder to tell its own kinds of objects apart. -/
structure HostObject where
  typeName : String
  tag : Nat
  /-- The numeric view used by arithmetic and truth. -/
  number : Option Number
  /-- Every overload of every method, in order of declaration. -/
  methods : List MethodSignature
  fields : OrderedMap Value
  deriving Inhabited

/-- What the variables of an evaluation are resolved in. -/
inductive Context where
  | vars (bindings : OrderedMap Value) (token : Option TokenRef)
  | frame (bindings : OrderedMap Value) (parent : ContextRef) (captured : Option ContextRef)
  | members (object : Value) (permissions : Option Permissions)
  deriving Inhabited

/-- Everything that has an identity. -/
structure Store where
  arrays : Array (Array Value)
  maps : Array (OrderedMap Value)
  hosts : Array HostObject
  contexts : Array Context
  /-- For each cancellation flag, whether it is raised. -/
  tokens : Array Bool
  /-- The number of compilations so far. -/
  units : Nat
  deriving Inhabited

namespace Store

def empty : Store := ⟨#[], #[], #[], #[], #[], 0⟩

/-- The items of an array. -/
def items (s : Store) (ref : ArrayRef) : Array Value := s.arrays.getD ref.index #[]

/-- The entries of a map. -/
def entries (s : Store) (ref : MapRef) : OrderedMap Value := s.maps.getD ref.index .empty

/-- What can be seen of a host object. -/
def host (s : Store) (ref : HostRef) : HostObject := s.hosts.getD ref.index default

/-- A context; a reference without one is to an empty table. -/
def context (s : Store) (ref : ContextRef) : Context :=
  s.contexts.getD ref.index (.vars .empty none)

/-- Whether a cancellation flag is raised. -/
def isRaised (s : Store) (ref : TokenRef) : Bool := s.tokens.getD ref.index false

/-- A new array. -/
def newArray (s : Store) (items : Array Value) : ArrayRef × Store :=
  (⟨s.arrays.size⟩, { s with arrays := s.arrays.push items })

/-- A new map. -/
def newMap (s : Store) (entries : OrderedMap Value) : MapRef × Store :=
  (⟨s.maps.size⟩, { s with maps := s.maps.push entries })

/-- A new host object. -/
def newHost (s : Store) (object : HostObject) : HostRef × Store :=
  (⟨s.hosts.size⟩, { s with hosts := s.hosts.push object })

/-- A new context. -/
def newContext (s : Store) (context : Context) : ContextRef × Store :=
  (⟨s.contexts.size⟩, { s with contexts := s.contexts.push context })

/-- A new cancellation flag, not raised. -/
def newToken (s : Store) : TokenRef × Store :=
  (⟨s.tokens.size⟩, { s with tokens := s.tokens.push false })

/-- The number of a new compilation. -/
def newUnit (s : Store) : Nat × Store := (s.units, { s with units := s.units + 1 })

/-- Change the items of an array. -/
def modifyItems (s : Store) (ref : ArrayRef) (f : Array Value → Array Value) : Store :=
  { s with arrays := s.arrays.modify ref.index f }

/-- Change the entries of a map. -/
def modifyEntries (s : Store) (ref : MapRef) (f : OrderedMap Value → OrderedMap Value) : Store :=
  { s with maps := s.maps.modify ref.index f }

/-- Write a field of a host object. -/
def setField (s : Store) (ref : HostRef) (name : String) (value : Value) : Store :=
  { s with
    hosts := s.hosts.modify ref.index fun h => { h with fields := h.fields.insert name value } }

/-- Change the variables or bindings that a context itself holds. -/
def modifyBindings (s : Store) (ref : ContextRef) (f : OrderedMap Value → OrderedMap Value) :
    Store :=
  { s with
    contexts := s.contexts.modify ref.index fun
      | .vars bindings token => .vars (f bindings) token
      | .frame bindings parent captured => .frame (f bindings) parent captured
      | .members object permissions => .members object permissions }

/-- Raise a cancellation flag. -/
def raise (s : Store) (ref : TokenRef) : Store :=
  { s with tokens := s.tokens.modify ref.index fun _ => true }

/-- The number of collections: no path through them is longer without coming
back to one of its own. -/
def collectionCount (s : Store) : Nat := s.arrays.size + s.maps.size

end Store

namespace Value

/-- The name of a value's type, as messages and permissions know it. -/
def typeName (s : Store) : Value → String
  | nil => "null"
  | bool _ => "boolean"
  | number _ => "number"
  | text _ => "string"
  | array _ => "array"
  | map _ => "map"
  | function _ => "function"
  | object ref => (s.host ref).typeName

end Value

end ScriptEngine

import ScriptEngine.Tree

/-!
# Values

The values that programs compute with.  Scalars are immutable.  Arrays, maps
and host objects are references into a store, so that a change made through
one name of a collection shows through every other.  A closure is the code of
a function, the arguments fixed so far and the context it was made in.

`Value.identical` is the finest equality: scalars by their value, references by
what they refer to, closures by code, captured context and fixed arguments.
`Value.sameReference` is its restriction to values that are no scalars.
-/

namespace ScriptEngine

/-- A place for an array in a store. -/
structure ArrayRef where
  index : Nat
  deriving DecidableEq, Repr, Inhabited

/-- A place for a map in a store. -/
structure MapRef where
  index : Nat
  deriving DecidableEq, Repr, Inhabited

/-- A place for a host object in a store. -/
structure HostRef where
  index : Nat
  deriving DecidableEq, Repr, Inhabited

/-- A place for a context in a store. -/
structure ContextRef where
  index : Nat
  deriving DecidableEq, Repr, Inhabited

/-- A place for a cancellation flag in a store. -/
structure TokenRef where
  index : Nat
  deriving DecidableEq, Repr, Inhabited

/-- A function over values of type `V`: its code, the arguments fixed for its
first parameters and the context in which its literal was evaluated. -/
structure Closure (V : Type) where
  lambda : Lambda
  bound : List V
  captured : Option ContextRef
  deriving Inhabited

/-- A value of the language. -/
inductive Value where
  | nil
  | bool (value : Bool)
  | number (value : Number)
  | text (value : String)
  | array (ref : ArrayRef)
  | map (ref : MapRef)
  | function (closure : Closure Value)
  | object (ref : HostRef)
  deriving Inhabited

/-- An array or a map, as a place in a store. -/
inductive Collection where
  | array (ref : ArrayRef)
  | map (ref : MapRef)
  deriving DecidableEq, Repr

namespace Closure

variable {V : Type}

/-- A function without fixed arguments. -/
def ofLambda (lambda : Lambda) (captured : Option ContextRef) : Closure V :=
  ⟨lambda, [], captured⟩

/-- The names of all its parameters. -/
def params (c : Closure V) : List String := c.lambda.params

/-- The parameters that no argument is fixed for. -/
def unbound (c : Closure V) : List String := c.params.drop c.bound.length

/-- The number of parameters that no argument is fixed for. -/
def unboundCount (c : Closure V) : Nat := c.params.length - c.bound.length

/-- The function with more arguments fixed. -/
def curry (c : Closure V) (args : List V) : Closure V := { c with bound := c.bound ++ args }

end Closure

namespace Value

/-- An integer as a value. -/
def int (n : Int) : Value := .number n

/-- A count as a value. -/
def count (n : Nat) : Value := .number (n : Int)

def isNil : Value → Bool
  | nil => true
  | _ => false

/-- The collection that a value is, if it is one. -/
def collection? : Value → Option Collection
  | array ref => some (.array ref)
  | map ref => some (.map ref)
  | _ => none

/-- Values compared by what they hold and not by what they refer to. -/
def isScalar : Value → Bool
  | nil | bool _ | number _ | text _ => true
  | _ => false

mutual

/-- Equality of scalars by value and of all others by reference. -/
def identical : Value → Value → Bool
  | nil, nil => true
  | bool a, bool b => a = b
  | number a, number b => a = b
  | text a, text b => a = b
  | array a, array b => a = b
  | map a, map b => a = b
  | object a, object b => a = b
  | function ⟨a, as, c⟩, function ⟨b, bs, d⟩ => a.id = b.id && c = d && identicalAll as bs
  | _, _ => false

/-- Whether two lists of values agree item by item. -/
def identicalAll : List Value → List Value → Bool
  | [], [] => true
  | a :: as, b :: bs => identical a b && identicalAll as bs
  | _, _ => false

end

/-- Whether two values refer to the same thing; scalars refer to nothing. -/
def sameReference (a b : Value) : Bool := !a.isScalar && identical a b

end Value

/-- The arguments of a call paired with the parameters: first those fixed, then
those given.  Missing ones are nil, and those left over are dropped. -/
def Closure.arguments (c : Closure Value) (args : List Value) : List (String × Value) :=
  let supplied := c.bound ++ args
  c.params.zip (supplied ++ List.replicate (c.params.length - supplied.length) .nil)

end ScriptEngine

/-!
# Permissions

Which members of a type a program may use.  A rule allows or denies one member
of one type; `*` stands for all of them.  An explicit denial of a member beats
an explicit allowance, which beats a denial of all members.  Whatever no rule
speaks about is allowed.
-/

namespace ScriptEngine

/-- A rule about one member of one type. -/
structure Permissions.Rule where
  allows : Bool
  typeName : String
  member : String
  deriving DecidableEq, Repr

/-- A list of rules, in the order in which they were given. -/
structure Permissions where
  rules : List Permissions.Rule
  deriving DecidableEq, Repr, Inhabited

namespace Permissions

/-- The member name that stands for every member of a type. -/
def everyMember : String := "*"

def empty : Permissions := ⟨[]⟩

def allow (p : Permissions) (typeName member : String) : Permissions :=
  ⟨p.rules ++ [⟨true, typeName, member⟩]⟩

def deny (p : Permissions) (typeName member : String) : Permissions :=
  ⟨p.rules ++ [⟨false, typeName, member⟩]⟩

/-- Whether a member of a type may be used. -/
def allowed (p : Permissions) (typeName member : String) : Bool :=
  if p.rules.contains ⟨false, typeName, member⟩ then false
  else if p.rules.contains ⟨true, typeName, member⟩ then true
  else !p.rules.contains ⟨false, typeName, everyMember⟩

end Permissions

end ScriptEngine

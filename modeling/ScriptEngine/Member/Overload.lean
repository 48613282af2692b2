import ScriptEngine.Number.Decimal
import ScriptEngine.Store
import ScriptEngine.Text.Search

/-!
# Choosing among overloads

A host object may have several methods of one name.  An argument fits a
parameter better or worse, or not at all, and the overload with the greatest
total wins; of equal totals the one declared first.

* `ParamKind.score` — how well one argument fits;
* `MethodSignature.score` — the total of a call, if every argument fits;
* `MethodSignature.choose` — the overload that a call means.
-/

namespace ScriptEngine

namespace ParamKind

/-- The score of a value of exactly the kind asked for. -/
def exactFit : Nat := 4

/-- The score of what a parameter takes without looking at it. -/
def assignable : Nat := 3

/-- The score of a text that looks like a number. -/
def convertible : Nat := 2

/-- The score of a value that only counts as a number. -/
def countsAsNumber : Nat := 1

/-- How well an argument fits a parameter, if it fits at all.  Nil fits
everything that is a reference. -/
def score : ParamKind → Value → Option Nat
  | any, _ => some assignable
  | bool, .bool _ => some exactFit
  | number, .number _ => some exactFit
  | number, .bool _ => some countsAsNumber
  | number, .text value =>
    (Number.ofDecimal? (String.ofList (Search.trim value.toList))).map fun _ => convertible
  | integer, .number value => some (if value.isInteger then exactFit else countsAsNumber)
  | integer, .bool _ => some countsAsNumber
  | text, .text _ | array, .array _ | map, .map _ | function, .function _ | object, .object _ =>
    some exactFit
  | text, .nil | array, .nil | map, .nil | function, .nil | object, .nil => some assignable
  | _, _ => none

end ParamKind

namespace MethodSignature

/-- How well the arguments of a call fit an overload in total, if it has that
name, as many parameters as there are arguments, and each of them fits. -/
def score (signature : MethodSignature) (name : String) (args : List Value) : Option Nat :=
  if signature.name = name ∧ signature.params.length = args.length then
    ((signature.params.zip args).mapM fun (kind, arg) => ParamKind.score kind arg).map
      fun scores => List.foldl (· + ·) 0 scores
  else none

/-- The better of two candidates, each with its total; the earlier one unless
the later one is greater. -/
def better (earlier later : Option (Nat × Nat)) : Option (Nat × Nat) :=
  match earlier, later with
  | some (i, a), some (j, b) => if a < b then some (j, b) else some (i, a)
  | some found, none => some found
  | none, other => other

/-- The place of the overload that a call means. -/
def choose (signatures : List MethodSignature) (name : String) (args : List Value) :
    Option Nat :=
  let candidates := signatures.zipIdx.map fun (signature, i) =>
    (signature.score name args).map fun total => (i, total)
  (candidates.foldl better none).map Prod.fst

end MethodSignature

end ScriptEngine

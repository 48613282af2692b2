import ScriptEngine.Engine

/-!
# Currying

Fixing some arguments of a function ahead of a call makes no difference to what is called.
A function pairs its parameters with the arguments that are fixed, then with those given,
so that only the two lists together count: a parameter that they do not reach is nil, and
what they have beyond the last parameter is dropped.

* `Closure.arguments_eq` — the value that each parameter gets, by its place;
* `Closure.unbound_curry` — the parameters that are still open;
* `Engine.curried_call` — the whole, for functions and for scripts.
-/

namespace ScriptEngine

namespace Closure

variable (f : Closure Value) (xs ys : List Value)

@[simp]
theorem params_curry : (f.curry xs).params = f.params := rfl

@[simp]
theorem bound_curry : (f.curry xs).bound = f.bound ++ xs := rfl

/-- Arguments may be fixed at once or one list after the other. -/
theorem curry_curry : (f.curry xs).curry ys = f.curry (xs ++ ys) := by
  unfold curry
  rw [List.append_assoc]

/-- **What the parameters are bound to**: the parameter at a place gets the argument at the
same place of those fixed and given, and nil if there is none. -/
theorem arguments_eq :
    f.arguments ys = f.params.mapIdx fun i name => (name, (f.bound ++ ys).getD i .nil) := by
  unfold arguments
  apply List.ext_getElem
  · simp only [List.length_zip, List.length_append, List.length_replicate, List.length_mapIdx]
    omega
  · intro i hzip hparams
    have hi : i < f.params.length := by simpa using hparams
    rw [List.getElem_zip, List.getElem_mapIdx, List.getD_eq_getElem?_getD, Prod.mk.injEq]
    refine ⟨rfl, ?_⟩
    by_cases hgiven : i < (f.bound ++ ys).length
    · rw [List.getElem_append_left hgiven, List.getElem?_eq_getElem hgiven, Option.getD_some]
    · rw [List.getElem_append_right (Nat.le_of_not_lt hgiven), List.getElem_replicate,
        List.getElem?_eq_none (Nat.le_of_not_lt hgiven), Option.getD_none]

/-- Only the arguments fixed and given together count. -/
theorem arguments_curry : (f.curry xs).arguments ys = f.arguments (xs ++ ys) := by
  rw [arguments_eq, arguments_eq, params_curry, bound_curry, List.append_assoc]

/-- Three arguments are fixed for two parameters, and a fourth one is given. -/
example (body : Node) : ((ofLambda ⟨default, ["a", "b"], body⟩ none).curry
      [.int 1, .int 2, .int 3]).arguments [.int 4] = [("a", .int 1), ("b", .int 2)] := rfl

/-- Arguments are fixed for the first of the parameters that are open. -/
theorem unbound_curry : (f.curry xs).unbound = f.unbound.drop xs.length := by
  unfold unbound
  rw [params_curry, bound_curry, List.length_append, List.drop_drop]

/-- As many parameters are open as are counted. -/
theorem length_unbound : f.unbound.length = f.unboundCount := List.length_drop

end Closure

/-- A call of a function with fixed arguments is the call with all of them. -/
theorem Eval.callFunction_curry (ev : Evaluator) (f : Closure Value) (xs ys : List Value)
    (ctx : ContextRef) :
    callFunction ev (f.curry xs) ys ctx = callFunction ev f (xs ++ ys) ctx := by
  unfold callFunction
  rw [Closure.arguments_curry]
  rfl

/-- Functions are made of functions without a change to the store. -/
theorem Builtin.run_curry (f : Closure Value) (xs : List Value) (s : Store) :
    Builtin.curry.run (.function f) xs s = .ok (.function (f.curry xs)) s := rfl

namespace Engine

/-- **Currying makes no difference to what is called.**  Let `f` be any function.  A call of
`f.curry xs` with `ys` and a call of `f` with `xs ++ ys` are the same step of an evaluation,
and the same whole run: from any store, in any context and under any options they end with
the same value or error, and with the same store, in which all variables and collections
are.  So do the runs of a script.  Arguments that are fixed at once or one list after the
other bind the same: each parameter gets the argument at its own place, however many there
are.  The parameters left open are those of `f` after the first `xs.length` of them, as many
as are counted.  And `f` is what it was: the method `curry` leaves the store alone, so that a
later call of `f` ends as it would have before. -/
theorem curried_call (rules : Semantics) (f : Closure Value) (xs ys : List Value) :
    (∀ (ev : Evaluator) (ctx : ContextRef),
      Eval.callFunction ev (f.curry xs) ys ctx = Eval.callFunction ev f (xs ++ ys) ctx) ∧
    (∀ (options : Options) (ctx : ContextRef) (s : Store),
      rules.call options (f.curry xs) ys ctx s = rules.call options f (xs ++ ys) ctx s) ∧
    (∀ (e : Engine) (script : Script) (ctx : ContextRef) (s : Store),
      e.execute (script.curry xs) ys ctx s = e.execute script (xs ++ ys) ctx s ∧
      (script.curry xs).params = script.params ∧
      (script.curry xs).unbound = script.unbound.drop xs.length) ∧
    (∀ zs : List Value, ((f.curry xs).curry ys).arguments zs = (f.curry (xs ++ ys)).arguments zs ∧
      ((f.curry xs).curry ys).arguments zs = f.params.mapIdx fun i name =>
        (name, (f.bound ++ xs ++ ys ++ zs).getD i .nil)) ∧
    (f.curry xs).unbound = f.unbound.drop xs.length ∧
    (f.curry xs).unbound.length = (f.curry xs).unboundCount ∧
    ∀ s : Store, ∃ s', Builtin.curry.run (.function f) xs s = .ok (.function (f.curry xs)) s' ∧
      ∀ (options : Options) (zs : List Value) (ctx : ContextRef),
        rules.call options f zs ctx s' = rules.call options f zs ctx s := by
  have hcall (rules : Semantics) (f : Closure Value) (options : Options) (ctx : ContextRef)
      (s : Store) : rules.call options (f.curry xs) ys ctx s =
        rules.call options f (xs ++ ys) ctx s := by
    unfold Semantics.call
    rw [Eval.callFunction_curry]
  refine ⟨fun ev ctx => Eval.callFunction_curry ev f xs ys ctx, hcall rules f,
    fun e script ctx s => ⟨?_, rfl, script.closure.unbound_curry xs⟩, fun zs => ⟨?_, ?_⟩,
    f.unbound_curry xs, (f.curry xs).length_unbound, fun s => ⟨s, ?_, fun _ _ _ => rfl⟩⟩
  · exact hcall e.rules script.closure _ ctx s
  · rw [Closure.curry_curry]
  · rw [Closure.arguments_eq]
    rfl
  · exact Builtin.run_curry f xs s

end Engine

end ScriptEngine

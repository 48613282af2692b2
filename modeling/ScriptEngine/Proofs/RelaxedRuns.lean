import ScriptEngine.Proofs.Places
import ScriptEngine.Proofs.Region
import ScriptEngine.Proofs.Relaxation

/-!
# Relaxing the policy keeps every result

A program that ends with a value still ends with it, and leaves the same store,
when less is an error: options that are less strict, safer or deeper, and
arithmetic that is less strict.  Annotations that turn errors into nil are
excluded; they are the one construct that makes a result out of a failure.

* `Node.SilentFree` — trees without such annotations;
* `Semantics.following` — following is a coupling;
* `Semantics.follows_evaluate` — a whole evaluation;
* `Semantics.interpret_relaxed` — relaxing the policy of a run.
-/

namespace ScriptEngine

/-- A tree without annotations that turn errors into nil. -/
def Node.SilentFree (tree : Node) : Prop :=
  ∀ span args statement, ¬Node.Within (.annotated span "silent" args statement) tree

/-- The parts of a tree without such annotations have none either. -/
theorem Node.SilentFree.child {tree child : Node} (h : tree.SilentFree)
    (hchild : child ∈ tree.children) : child.SilentFree :=
  fun span args statement hwithin => h span args statement (.part hchild hwithin)

/-- A tree is free of such annotations if it is none and its parts are. -/
theorem Node.silentFree_of_children {tree : Node}
    (htree : ∀ span args statement, tree ≠ .annotated span "silent" args statement)
    (h : ∀ child ∈ tree.children, child.SilentFree) : tree.SilentFree := by
  intro span args statement hwithin
  cases hwithin with
  | here => exact htree _ _ _ rfl
  | part hchild hwithin => exact h _ hchild _ _ _ hwithin

/-- An annotation of this kind is not free of them. -/
theorem Node.not_silentFree {span : Span} {args : List Node} {statement : Node} :
    ¬(Node.annotated span "silent" args statement).SilentFree :=
  fun h => h span args statement .here

/-! ## Following as a coupling -/

/-- The territory of a region, whose code may stand anywhere. -/
def Region.discipline (g : Region) : Discipline :=
  { g.territory with
    code := fun _ => g.code
    exits := fun _ => True
    code_place := fun h hplace => g.code_child h (Node.mem_children_of_mem_places hplace)
    code_body := fun h => h
    functions_lambda := fun h => g.code_child h (by simp [Node.children])
    code_break := fun _ => trivial
    code_continue := fun _ => trivial
    exits_cause := fun _ _ _ => trivial
    code_target := fun _ => .inr trivial
    cancelled := trivial }

namespace Semantics

variable {g : Region} {rules relaxed : Semantics}

/-- **Following is a coupling**, for code without annotations that turn errors into
nil. -/
def following (hrules : rules.Relaxes relaxed) (he : g.Contains rules.members.embedder)
    (hsilent : ∀ {node : Node}, g.code node → node.SilentFree) :
    Coupling g.discipline rules relaxed where
  rel _ holds step step' := Eval.Follows g.territory holds step step'
  options := Options.Relaxes
  relaxes := hrules
  contains _ := he.territory
  rel_pure := Eval.follows_pure
  rel_bind := Eval.follows_bind
  rel_throw {_ _ _ signal} h _ := Eval.follows_throw fun v hv => by
    subst hv
    exact h
  rel_act _ := Eval.follows_act
  rel_assign _ hctx hvalue := Eval.follows_act (he.territory.keeps_assign _ hctx hvalue)
  rel_compute h _ := Eval.follows_compute h
  rel_resolve _ := Eval.follows_resolve
  rel_unresolved _ _ := Eval.follows_unresolved _
  rel_memberOfNil := Eval.follows_memberOfNil
  rel_callNil := Eval.follows_callNil
  rel_relational := Eval.follows_relational
  rel_options := Eval.follows_options
  rel_withOptions := Eval.follows_withOptions
  options_lenient := Options.Relaxes.lenient
  options_strict _ ho := { ho with strict := fun h => h }
  options_safe _ ho := { ho with safe := fun h => h }
  rel_atFunctionEnd := Eval.follows_atFunctionEnd
  rel_round := Eval.follows_round
  rel_silently h _ := (Node.not_silentFree (hsilent h)).elim

/-- **A whole evaluation follows** the same evaluation under relaxed options. -/
theorem follows_evaluate (hrules : rules.Relaxes relaxed) (he : g.Contains rules.members.embedder)
    (hsilent : ∀ {node : Node}, g.code node → node.SilentFree) (n : Nat) (tree : Node)
    (ctx : ContextRef) (htree : g.code tree) (hctx : g.contexts ctx) :
    Eval.Follows g.territory g.territory.Holds (rules.evaluate n tree ctx)
      (relaxed.evaluate n tree ctx) := by
  have hcouples : (following hrules he hsilent).Couples (rules.evaluate n)
      (relaxed.evaluate n) := by
    induction n with
    | zero =>
        intro inLoop tree ctx _ _
        exact Eval.follows_throw (by simp)
    | succ n ih =>
        intro inLoop tree ctx htree hctx
        exact Eval.follows_entering _
          ((following hrules he hsilent).rel_node (.inContext ih hctx) (fun _ => rfl) htree)
  have hfollows := @hcouples false tree ctx htree hctx
  exact hfollows

/-- An error is settled in the same way under relaxed options. -/
theorem settle_relaxed {o o' : Options} (ho : o.Relaxes o') (e : EvalError) :
    settle o' e = settle o e := by
  unfold settle
  rw [ho.cancellable, ho.silent]

/-- A signal ends a whole run in the same way under relaxed options. -/
theorem finish_relaxed {o o' : Options} (ho : o.Relaxes o') (signal : Signal) {t t' : Run}
    (hstore : t'.store = t.store) : finish o' (.error signal t') = finish o (.error signal t) := by
  cases signal with
  | error e => simp [finish, Signal.toError?, settle_relaxed ho, hstore]
  | _ => simp [finish, Signal.toError?, settle_relaxed ho, hstore]

/-- An end that is not lasting is no value, when silence is off. -/
theorem finish_ne_value {o : Options} (hoff : o.silent = false) {signal : Signal} {t : Run}
    (hsignal : ¬signal.Lasting) {v : Value} {s' : Store} :
    finish o (.error signal t) ≠ (.value v, s') := by
  intro h
  cases signal with
  | error e =>
      have he : ¬e.cause = .cancelled := hsignal
      simp [finish, Signal.toError?, settle, he, hoff] at h
  | exhausted => simp [finish, Signal.toError?] at h
  | _ => exact hsignal trivial

/-- A step that follows another one ends a whole run with the same value and
the same store, when silence is off. -/
theorem runStep_of_follows {o o' : Options} {step step' : Eval Value} {s s' : Store} {v : Value}
    (ho : o.Relaxes o') (hoff : o.silent = false) (hs : g.Closed s)
    (hstep : Eval.Follows g.territory g.territory.Holds step step')
    (hrun : runStep o step s = (.value v, s')) :
    runStep o' step' s = (.value v, s') := by
  have hstate : Run.Relaxes ⟨s, o, .top o.maxDepth⟩ ⟨s, o', .top o'.maxDepth⟩ :=
    { store := rfl, options := ho, depth := rfl, limit := ho.maxDepth }
  have hends := hstep _ _ (Region.closed_territory.mpr hs) hstate
  unfold runStep at hrun ⊢
  generalize step _ = x at hends hrun
  generalize step' _ = y at hends ⊢
  cases hends with
  | @ok a t t' ha ht hrelaxes =>
      rw [← hrun]
      show (Outcome.value a, t'.store) = (.value a, t.store)
      rw [hrelaxes.store]
  | @lasting signal t t' hsignal _ ht hrelaxes =>
      rw [← hrun]
      exact finish_relaxed ho signal hrelaxes.store
  | failed hsignal => exact (finish_ne_value hoff hsignal hrun).elim

/-- **Relaxing the policy never changes a successful run.**  Neither the tree
nor a function that can be reached from the context, or that the embedder's own
code holds on to (`held`), turns errors into nil, and that code stays within
what it can reach.  If the run ends with a value, then under relaxed options and
relaxed arithmetic it ends with the same value and the same store.  That holds
for a whole run and for an evaluation with any number of steps granted. -/
theorem interpret_relaxed {rules relaxed : Semantics} {o o' : Options} {tree : Node}
    {ctx : ContextRef} {s : Store} {held : Value → Prop}
    (hrules : rules.Relaxes relaxed) (ho : o.Relaxes o') (hoff : o.silent = false)
    (htree : tree.SilentFree)
    (hreached : ∀ c : Closure Value, s.Reaches ctx held (.function c) → c.lambda.body.SilentFree)
    (hhost : (Region.reachedFrom s ctx held Node.SilentFree Node.SilentFree.child).Contains
      rules.members.embedder) :
    (∀ v s', rules.interpret o tree ctx s = (.value v, s') →
      relaxed.interpret o' tree ctx s = (.value v, s')) ∧
    ∀ n v s', runStep o (rules.evaluate n tree ctx) s = (.value v, s') →
      runStep o' (relaxed.evaluate n tree ctx) s = (.value v, s') := by
  have hclosed : (Region.reachedFrom s ctx held Node.SilentFree Node.SilentFree.child).Closed s :=
    Region.closed_reachedFrom hreached
  have hfollows := fun n => follows_evaluate hrules hhost (fun h => h) n tree ctx htree (.inl .root)
  exact ⟨fun v s' => runStep_of_follows ho hoff hclosed (hfollows plenty),
    fun n v s' => runStep_of_follows ho hoff hclosed (hfollows n)⟩

/-- A fallback for a member of nil ends with a value under strict and unsafe
options, so it does under the standard ones. -/
theorem runStep_relaxed_fallback :
    runStep .standard ((⟨⟨false⟩, ⟨none, .none⟩⟩ : Semantics).evaluate 3
      (.elvis default (.property default (.literal default .nil) "x")
        (.literal default (.text "a")) true) ⟨0⟩) .empty = (.value (.text "a"), .empty) := by
  have hrules : Relaxes ⟨⟨true⟩, ⟨none, .none⟩⟩ ⟨⟨false⟩, ⟨none, .none⟩⟩ := ⟨fun _ => rfl, rfl⟩
  have ho : Options.Relaxes ⟨true, false, false, true, 4⟩ .standard :=
    ⟨fun _ => rfl, fun _ => rfl, rfl, rfl, by decide⟩
  have hliteral : ∀ value, (Node.literal default value).SilentFree :=
    fun _ => Node.silentFree_of_children (by simp) (by simp [Node.children])
  have hproperty : (Node.property default (.literal default .nil) "x").SilentFree :=
    Node.silentFree_of_children (by simp) (by simpa [Node.children] using hliteral _)
  have htree : (Node.elvis default (.property default (.literal default .nil) "x")
      (.literal default (.text "a")) true).SilentFree :=
    Node.silentFree_of_children (by simp) (by simpa [Node.children] using ⟨hproperty, hliteral _⟩)
  exact (interpret_relaxed hrules ho rfl htree (fun _ h => (Store.not_reaches_empty h).elim)
    Region.contains_none).2 3 _ _ rfl

end Semantics

end ScriptEngine

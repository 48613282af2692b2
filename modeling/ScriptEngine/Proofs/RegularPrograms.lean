import ScriptEngine.Proofs.PairedPrograms

/-!
# The programs that are read are regular

A node is made of parts that stand where they may: an exit is read where a loop is open, and
the target of an assignment is looked at before the assignment is made.  So every tree that
is read is regular, whatever the features and the source.

* `Reading.regular` — regular trees are kept by reading;
* `Source.regular_of_tree` — the tree of a source is regular.
-/

namespace ScriptEngine

/-- Reading in one dialect keeps the trees regular. -/
def Reading.regular (dialect : Dialect) : Reading where
  first := dialect
  second := dialect
  lenient := False
  Good inLoop _ _ node := node.Regular inLoop
  more _ h := h
  exact _ h := .inr h
  script := rfl
  lexical := rfl
  lexicalShade := rfl
  widen _ _ h := h
  build _ _ hfits _ hparts := .intro hfits hparts

/-- A whole program is regular, outside of all loops. -/
theorem Reading.Program.regular {dialect : Dialect} {c c' : Cursor} {tree : Node}
    (h : (Reading.regular dialect).Program c c' tree) : tree.Regular false := by
  cases h with
  | expression h => exact h.good
  | @script span body pragmas _ hbody _ =>
      have hparts : ∀ node ∈ body, node.Regular false := fun node hnode => (hbody node hnode).good
      exact .intro rfl (by simpa [Node.children] using hparts)

/-- **The tree of a source is regular**, whatever the features and the source. -/
theorem Source.regular_of_tree {source : Source} {dialect : Dialect} {tree : Node}
    (h : source.tree dialect = .ok tree) : tree.Regular false := by
  rw [source.tree_eq_read] at h
  have hresults : (Reading.regular dialect).Results (Token.ofSource source.text)
      (source.kind.read source.params (Token.ofSource source.text) dialect)
      (source.kind.read source.params (Token.ofSource source.text) dialect) :=
    Reading.results_read ..
  rw [h] at hresults
  obtain ⟨-, c, -, -, hprogram⟩ := hresults
  exact hprogram.regular

end ScriptEngine

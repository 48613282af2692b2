import ScriptEngine.Tree

/-!
# Places in a tree

The parts of a node stand inside a loop of their function or outside of all of
them.  A tree is regular when loops are left from inside them only, and when what
is assigned to can be assigned to.

* `Node.Within` — a tree is part of another one;
* `Node.places` — the parts of a node, with what is around them;
* `Node.Regular` — trees in which every part stands where it may.
-/

namespace ScriptEngine.Node

/-- A tree that is another one or is somewhere in it. -/
inductive Within (inner : Node) : Node → Prop
  | here : Within inner inner
  | part {outer child : Node} : child ∈ outer.children → Within inner child → Within inner outer

/-- A part of a tree is within all that the tree is within. -/
theorem Within.trans {inner middle outer : Node} (h : inner.Within middle)
    (houter : middle.Within outer) : inner.Within outer := by
  induction houter with
  | here => exact h
  | part hchild _ ih => exact .part hchild ih

/-- What holds of a tree and of everything in it holds of the tree and everywhere in
its parts. -/
theorem forall_within_iff {p : Node → Prop} {tree : Node} :
    (∀ node, node.Within tree → p node) ↔
      p tree ∧ ∀ child ∈ tree.children, ∀ node, node.Within child → p node := by
  constructor
  · exact fun h => ⟨h tree .here, fun child hchild node hnode => h node (.part hchild hnode)⟩
  · rintro ⟨htree, hparts⟩ node hnode
    cases hnode with
    | here => exact htree
    | part hchild hnode => exact hparts _ hchild node hnode

/-- The parts of a node, each with whether it stands inside a loop of its function.
`inLoop` says so of the node itself. -/
@[simp]
def places (inLoop : Bool) : Node → List (Bool × Node)
  | forLoop _ init cond step body =>
    (init.toList ++ cond.toList ++ step.toList).map (inLoop, ·) ++ [(true, body)]
  | foreach _ _ _ iterable body => [(inLoop, iterable), (true, body)]
  | whileLoop _ cond body => [(inLoop, cond), (true, body)]
  | doWhile _ body cond => [(true, body), (inLoop, cond)]
  | lambda _ _ _ body => [(false, body)]
  | node => node.children.map (inLoop, ·)

/-- What stands at a place of a node is a part of it. -/
theorem mem_children_of_mem_places {inLoop inside : Bool} {node part : Node}
    (h : (inside, part) ∈ node.places inLoop) : part ∈ node.children := by
  cases node <;> simp_all [children] <;> grind

/-- Every part of a node stands at a place of it. -/
theorem exists_place_of_mem_children (inLoop : Bool) {node part : Node}
    (h : part ∈ node.children) : ∃ inside, (inside, part) ∈ node.places inLoop := by
  cases node <;> simp_all [children] <;> grind

/-- A loop that goes on for as long as its condition says, unlike one over the items
that a value has. -/
def isOpenEnded : Node → Bool
  | forLoop .. | whileLoop .. | doWhile .. => true
  | _ => false

/-- Whether a node may stand where it does, as far as its parts do not matter. -/
def fits (inLoop : Bool) : Node → Bool
  | breakLoop _ | continueLoop _ => inLoop
  | assign _ target _ _ => target.isAssignable
  | _ => true

/-- **Regular trees**: `break` and `continue` stand inside a loop of their function,
and what is assigned to can be assigned to. -/
inductive Regular : (inLoop : Bool) → Node → Prop
  | intro {inLoop : Bool} {node : Node} : node.fits inLoop = true →
      (∀ place ∈ node.places inLoop, Regular place.1 place.2) → Regular inLoop node

variable {inLoop inside : Bool} {node part : Node}

theorem Regular.fits (h : node.Regular inLoop) : node.fits inLoop = true := by
  cases h with
  | intro h _ => exact h

/-- The parts of a regular tree are regular at their places. -/
theorem Regular.place (h : node.Regular inLoop) (hpart : (inside, part) ∈ node.places inLoop) :
    part.Regular inside := by
  cases h with
  | intro _ h => exact h _ hpart

/-- What is within a regular tree is regular, inside a loop or outside. -/
theorem Regular.within {inner : Node} (h : node.Regular inLoop) (hwithin : inner.Within node) :
    ∃ inside, inner.Regular inside := by
  induction hwithin generalizing inLoop with
  | here => exact ⟨inLoop, h⟩
  | part hchild _ ih =>
      obtain ⟨inside, hplace⟩ := exists_place_of_mem_children inLoop hchild
      exact ih (h.place hplace)

end ScriptEngine.Node

import ScriptEngine.Tree

/-!
# Trees up to places

`Node.erase` forgets where a tree was read: the spans of its nodes, and the
identities of its function literals, which are positions in a source.  Two
readings of one program have the same tree up to places.
-/

namespace ScriptEngine.Node

mutual

/-- The tree without its places. -/
def erase : Node → Node
  | literal _ value => literal .none value
  | ident _ name => ident .none name
  | binary _ op left right => binary .none op left.erase right.erase
  | unary _ op operand => unary .none op operand.erase
  | property _ object name => property .none object.erase name
  | index _ object key => index .none object.erase key.erase
  | methodCall _ object method args => methodCall .none object.erase method (eraseAll args)
  | call _ callee args => call .none callee.erase (eraseAll args)
  | construct _ className args => construct .none className.erase (eraseAll args)
  | assign _ target value isPostfix => assign .none target.erase value.erase isPostfix
  | ternary _ cond thenBranch elseBranch =>
    ternary .none cond.erase thenBranch.erase elseBranch.erase
  | elvis _ left right coalesce => elvis .none left.erase right.erase coalesce
  | range _ first last => range .none first.erase last.erase
  | array _ items => array .none (eraseAll items)
  | map _ entries => map .none (eraseEntries entries)
  | set _ items => set .none (eraseAll items)
  | lambda _ _ params body => lambda .none ⟨0, 0⟩ params body.erase
  | ifElse _ cond thenBranch elseBranch =>
    ifElse .none cond.erase thenBranch.erase (eraseOption elseBranch)
  | forLoop _ init cond step body =>
    forLoop .none (eraseOption init) (eraseOption cond) (eraseOption step) body.erase
  | foreach _ name declared iterable body =>
    foreach .none name declared iterable.erase body.erase
  | whileLoop _ cond body => whileLoop .none cond.erase body.erase
  | doWhile _ body cond => doWhile .none body.erase cond.erase
  | block _ statements => block .none (eraseAll statements)
  | breakLoop _ => breakLoop .none
  | continueLoop _ => continueLoop .none
  | returnValue _ value => returnValue .none (eraseOption value)
  | var _ name init => var .none name (eraseOption init)
  | annotated _ name args statement => annotated .none name (eraseAll args) statement.erase
  | script _ body pragmas => script .none (eraseAll body) pragmas

/-- Several trees without their places. -/
def eraseAll : List Node → List Node
  | [] => []
  | node :: rest => node.erase :: eraseAll rest

/-- A part that may be left out, without its places. -/
def eraseOption : Option Node → Option Node
  | none => none
  | some node => some node.erase

/-- The entries of a map without their places. -/
def eraseEntries : List (Node × Node) → List (Node × Node)
  | [] => []
  | (key, value) :: rest => (key.erase, value.erase) :: eraseEntries rest

end

/-- Two trees that are the same up to places. -/
def Alike (a b : Node) : Prop := a.erase = b.erase

/-- Two lists of trees that are the same up to places. -/
def AlikeAll (as bs : List Node) : Prop := eraseAll as = eraseAll bs

/-- Two lists of entries that are the same up to places. -/
def AlikeEntries (as bs : List (Node × Node)) : Prop := eraseEntries as = eraseEntries bs

/-- Two parts that may be left out, and are the same up to places. -/
def AlikeOption (a b : Option Node) : Prop := eraseOption a = eraseOption b

theorem Alike.refl (a : Node) : a.Alike a := rfl

theorem Alike.symm {a b : Node} (h : a.Alike b) : b.Alike a := Eq.symm h

theorem Alike.trans {a b c : Node} (h : a.Alike b) (h' : b.Alike c) : a.Alike c := Eq.trans h h'

theorem AlikeAll.cons {a b : Node} {as bs : List Node} (h : a.Alike b) (hs : AlikeAll as bs) :
    AlikeAll (a :: as) (b :: bs) := by
  show a.erase :: eraseAll as = b.erase :: eraseAll bs
  rw [show a.erase = b.erase from h, show eraseAll as = eraseAll bs from hs]

theorem AlikeEntries.cons {a b c d : Node} {as bs : List (Node × Node)} (h : a.Alike b)
    (h' : c.Alike d) (hs : AlikeEntries as bs) : AlikeEntries ((a, c) :: as) ((b, d) :: bs) := by
  show (a.erase, c.erase) :: eraseEntries as = (b.erase, d.erase) :: eraseEntries bs
  rw [show a.erase = b.erase from h, show c.erase = d.erase from h',
    show eraseEntries as = eraseEntries bs from hs]

/-- A list alike to one that is not empty has a first tree as well. -/
theorem AlikeAll.of_cons {b : Node} {as bs : List Node} (h : AlikeAll as (b :: bs)) :
    ∃ a rest, as = a :: rest ∧ a.Alike b ∧ AlikeAll rest bs := by
  cases as with
  | nil => cases h
  | cons a rest =>
      have hcons : a.erase :: eraseAll rest = b.erase :: eraseAll bs := h
      obtain ⟨hhead, htail⟩ := List.cons_eq_cons.mp hcons
      exact ⟨a, rest, rfl, hhead, htail⟩

theorem Alike.some {a b : Node} (h : a.Alike b) : AlikeOption (.some a) (.some b) :=
  congrArg Option.some h

/-- A part alike to one that is there is there as well. -/
theorem AlikeOption.of_some {a : Option Node} {b : Node} (h : AlikeOption a (.some b)) :
    ∃ node, a = .some node ∧ node.Alike b := by
  cases a with
  | none => cases h
  | some node => exact ⟨node, rfl, Option.some.inj h⟩

/-- Whether a tree may be assigned to does not depend on its places. -/
theorem Alike.isAssignable_eq {a b : Node} (h : a.Alike b) : a.isAssignable = b.isAssignable := by
  have herase : ∀ t : Node, t.erase.isAssignable = t.isAssignable := by
    intro t
    cases t <;> simp [erase, isAssignable]
  rw [← herase a, ← herase b, show a.erase = b.erase from h]

end ScriptEngine.Node

import ScriptEngine.Grammar.Progress

/-!
# The declarations of a program

A walk through a tree in the order of its source, with the scopes that are open.  Function
literals and the program itself open the scope of a function, which holds the parameters;
blocks and the heads of loops over counters and collections open ordinary ones.  A
declaration enters the innermost scope after its initial value.  Nothing is rejected on the
way: a walk only notes where each name is declared.

* `Declaration` — a name, and the scopes that are open where it is declared;
* `Walk.Does` — which declarations a walk meets, and which scopes it leaves open;
* `Node.walk` — the walk through a tree;
* `Node.declarations` — what a whole program declares;
* `Declaration.Repeats`, `Declaration.Hides` — declarations that a language may reject.
-/

namespace ScriptEngine

/-- A declaration: a name, and the scopes that are open where it is made, innermost first. -/
structure Declaration where
  name : String
  scopes : List Scope

/-- A part of a walk: from the scopes that are open it leads to the declarations that are
met, in order, and to the scopes that are open after them. -/
abbrev Walk := List Scope → List Declaration × List Scope

namespace Walk

/-- Nothing is declared. -/
def stay : Walk := fun scopes => ([], scopes)

/-- One part after another. -/
def andThen (first second : Walk) : Walk := fun scopes =>
  let (met, between) := first scopes
  let (more, last) := second between
  (met ++ more, last)

/-- A name enters the innermost scope. -/
def declare (name : String) : Walk := fun scopes =>
  ([⟨name, scopes⟩], Parse.declared name scopes)

/-- Several names enter the innermost scope. -/
def declareAll : List String → Walk
  | [] => stay
  | name :: rest => (declare name).andThen (declareAll rest)

/-- A part inside a scope of its own. -/
def inScope (isFunction : Bool) (inner : Walk) : Walk := fun scopes =>
  let (met, after) := inner (⟨[], isFunction⟩ :: scopes)
  (met, after.tail)

/-- **What a part of a walk does** from the scopes that are open: which declarations are met,
in whatever order and however often, and which scopes are open after them.  All of them but
the innermost are as they were. -/
structure Does (w : Walk) (before : List Scope) (met : List Declaration) (after : List Scope) :
    Prop where
  scopes : (w before).2 = after
  declarations : ∀ d, d ∈ (w before).1 ↔ d ∈ met
  outer : after.tail = before.tail

section

variable {first second : Walk} {before between after : List Scope} {met more : List Declaration}

theorem Does.stay : Walk.stay.Does before [] before := ⟨rfl, fun _ => .rfl, rfl⟩

theorem Does.andThen (h : first.Does before met between) (h' : second.Does between more after) :
    (first.andThen second).Does before (met ++ more) after where
  scopes := by
    show (second (first before).2).2 = after
    rw [h.scopes, h'.scopes]
  declarations d := by
    show d ∈ (first before).1 ++ (second (first before).2).1 ↔ _
    rw [h.scopes, List.mem_append, List.mem_append, h.declarations, h'.declarations]
  outer := h'.outer.trans h.outer

theorem Does.declare (name : String) :
    (Walk.declare name).Does before [⟨name, before⟩] (Parse.declared name before) where
  scopes := rfl
  declarations _ := .rfl
  outer := by cases before <;> rfl

/-- After a scope of its own, the scopes are open that were open before it. -/
theorem Does.inScope {isFunction : Bool} (h : first.Does (⟨[], isFunction⟩ :: before) met after) :
    (Walk.inScope isFunction first).Does before met before where
  scopes := by
    show (first (⟨[], isFunction⟩ :: before)).2.tail = before
    rw [h.scopes, h.outer, List.tail_cons]
  declarations := h.declarations
  outer := rfl

/-- Nothing more is met. -/
theorem Does.done (h : first.Does before met after) : first.Does before (met ++ []) after := by
  rwa [List.append_nil]

/-- The order and the number of the declarations are left open. -/
theorem Does.congr (h : first.Does before met after) (hmet : ∀ d, d ∈ met ↔ d ∈ more) :
    first.Does before more after :=
  ⟨h.scopes, fun d => (h.declarations d).trans (hmet d), h.outer⟩

end

end Walk

namespace Node

mutual

/-- **The walk through a tree** in the order of its source. -/
def walk : Node → Walk
  | literal _ _ | ident _ _ | breakLoop _ | continueLoop _ => .stay
  | binary _ _ left right => left.walk.andThen right.walk
  | unary _ _ operand => operand.walk
  | property _ object _ => object.walk
  | index _ object key => object.walk.andThen key.walk
  | methodCall _ object _ args => object.walk.andThen (walkAll args)
  | call _ callee args => callee.walk.andThen (walkAll args)
  | construct _ className args => className.walk.andThen (walkAll args)
  | assign _ target value _ => target.walk.andThen value.walk
  | ternary _ cond thenBranch elseBranch =>
    cond.walk.andThen (thenBranch.walk.andThen elseBranch.walk)
  | elvis _ left right _ => left.walk.andThen right.walk
  | range _ first last => first.walk.andThen last.walk
  | array _ items => walkAll items
  | map _ entries => walkEntries entries
  | set _ items => walkAll items
  | lambda _ _ params body => .inScope true ((Walk.declareAll params).andThen body.walk)
  | ifElse _ cond thenBranch elseBranch =>
    cond.walk.andThen (thenBranch.walk.andThen (walkOption elseBranch))
  | forLoop _ init cond step body =>
    .inScope false ((walkOption init).andThen
      ((walkOption cond).andThen ((walkOption step).andThen body.walk)))
  | foreach _ name declared iterable body =>
    .inScope false ((if declared then .declare name else .stay : Walk).andThen
      (iterable.walk.andThen body.walk))
  | whileLoop _ cond body => cond.walk.andThen body.walk
  | doWhile _ body cond => body.walk.andThen cond.walk
  | block _ statements => .inScope false (walkAll statements)
  | returnValue _ value => walkOption value
  | var _ name init => (walkOption init).andThen (.declare name)
  | annotated _ _ args statement => (walkAll args).andThen statement.walk
  | script _ body _ => walkAll body

/-- The walk through several trees. -/
def walkAll : List Node → Walk
  | [] => .stay
  | node :: rest => node.walk.andThen (walkAll rest)

/-- The walk through a part that may be left out. -/
def walkOption : Option Node → Walk
  | none => .stay
  | some node => node.walk

/-- The walk through the entries of a map. -/
def walkEntries : List (Node × Node) → Walk
  | [] => .stay
  | (key, value) :: rest => key.walk.andThen (value.walk.andThen (walkEntries rest))

end

/-- **What a program declares**: its parameters, in the scope of a function, and then all
that is declared in its tree. -/
def declarations (params : List String) (tree : Node) : List Declaration :=
  (Walk.inScope true ((Walk.declareAll params).andThen tree.walk) []).1

end Node

/-! ## What may be rejected -/

/-- The scopes up to and including that of the nearest function. -/
def Scope.enclosing : List Scope → List Scope
  | [] => []
  | scope :: outer => scope :: if scope.isFunction then [] else enclosing outer

namespace Declaration

/-- A second declaration of a name in one scope. -/
def Repeats : Declaration → Prop
  | ⟨_, []⟩ => False
  | ⟨name, scope :: _⟩ => name ∈ scope.names

/-- A declaration in an ordinary scope of a name that an enclosing scope has, up to and
including that of the nearest function. -/
def Hides : Declaration → Prop
  | ⟨_, []⟩ => False
  | ⟨name, scope :: outer⟩ =>
    scope.isFunction = false ∧ ∃ other ∈ Scope.enclosing outer, name ∈ other.names

instance (d : Declaration) : Decidable d.Repeats :=
  match d with
  | ⟨_, []⟩ => inferInstanceAs (Decidable False)
  | ⟨name, scope :: _⟩ => inferInstanceAs (Decidable (name ∈ scope.names))

instance (d : Declaration) : Decidable d.Hides :=
  match d with
  | ⟨_, []⟩ => inferInstanceAs (Decidable False)
  | ⟨name, scope :: outer⟩ => inferInstanceAs (Decidable
      (scope.isFunction = false ∧ ∃ other ∈ Scope.enclosing outer, name ∈ other.names))

end Declaration

namespace Parse

/-- A name is looked for in the scopes up to that of the nearest function. -/
theorem hides_iff {name : String} {scopes : List Scope} :
    hides name scopes = true ↔ ∃ scope ∈ Scope.enclosing scopes, name ∈ scope.names := by
  induction scopes with
  | nil => simp [hides, Scope.enclosing]
  | cons scope outer ih =>
      unfold hides Scope.enclosing
      cases hfunction : scope.isFunction <;> simp [ih]

/-- **What is rejected**: a declaration that repeats a name, if the features ask for that,
and one that hides a name, if they ask for that. -/
theorem declarationFault_eq_none {features : Features} {d : Declaration} :
    declarationFault? features d.name d.scopes = none ↔
      (features.has .lexical = true → ¬d.Repeats) ∧
        (features.has .lexicalShade = true → ¬d.Hides) := by
  obtain ⟨name, scopes⟩ := d
  cases scopes with
  | nil => simp [declarationFault?, Declaration.Repeats, Declaration.Hides]
  | cons scope outer =>
      have hhides : hides name outer = true ↔
          ∃ scope ∈ Scope.enclosing outer, name ∈ scope.names := hides_iff
      simp only [declarationFault?, Declaration.Repeats, Declaration.Hides, ← hhides]
      split
      · simp_all
      · split <;> simp_all

end Parse

end ScriptEngine

import Mathlib.Data.List.Forall2
import ScriptEngine.Proofs.ReadingExpressions

/-!
# Names and binary operators

A row of names with binary operators between them has one tree in which every operator is
above only what binds at least as tightly on its left, and more tightly on its right.  Its
root is the last of the operators that bind least tightly, so no other tree has the same
row, and the climb along the precedences builds that one.

* `Piece`, `Word.Is` — what such a row is made of, and the words that it is written in;
* `Node.Groups` — the trees of a row that respect the precedences;
* `Node.Groups.alike` — a row has one tree at most;
* `Node.ofExpression_groups` — it is the tree that is read.
-/

namespace ScriptEngine

/-- A name or a binary operator. -/
inductive Piece where
  | name (name : String)
  | operator (op : BinaryOp)
  deriving DecidableEq, Repr

/-- A name, and more names with an operator before each. -/
def Piece.alternating (first : String) (more : List (BinaryOp × String)) : List Piece :=
  .name first :: more.flatMap fun (op, next) => [.operator op, .name next]

/-- The word of a name, or a spelling of an operator, be it a symbol or a reserved word. -/
def Word.Is (w : Word) : Piece → Prop
  | .name name => w.kind = .ident name
  | .operator op => w.Spelled ∧ ∃ row, w.after? = some row ∧ row.operator = .binary op

namespace Node

/-- The binary operation that a tree applies last. -/
def operation? : Node → Option BinaryOp
  | binary _ op _ _ => some op
  | range _ _ _ => some .range
  | _ => none

/-- A tree that binds at least so tightly; names bind more tightly than anything. -/
def Binds (least : Nat) (tree : Node) : Prop :=
  ∀ op, tree.operation? = some op → least ≤ op.precedence

/-- **The trees of a row that respect the precedences.**  They are made of names and binary
operations, which stand in the row as they do in the tree from left to right.  The left
operand of an operation binds at least as tightly as the operation, the right one more
tightly. -/
inductive Groups : Node → List Piece → Prop
  | name {span : Span} {name : String} : Groups (.ident span name) [.name name]
  | operator {span : Span} {op : BinaryOp} {left right : Node} {before after : List Piece} :
      Groups left before → Groups right after → left.Binds op.precedence →
      right.Binds (op.precedence + 1) →
      Groups (Grammar.binaryNode span op left right) (before ++ .operator op :: after)

variable {tree other : Node} {op : BinaryOp} {span : Span} {left right : Node} {least : Nat}

@[simp]
theorem operation_binaryNode :
    (Grammar.binaryNode span op left right).operation? = some op := by
  unfold Grammar.binaryNode
  split
  · rename_i hrange
    rw [hrange]
    rfl
  · rfl

theorem binds_binaryNode :
    (Grammar.binaryNode span op left right).Binds least ↔ least ≤ op.precedence := by
  simp [Binds]

theorem Binds.mono {low : Nat} (h : tree.Binds least) (hle : low ≤ least) : tree.Binds low :=
  fun op hop => Nat.le_trans hle (h op hop)

/-! ## Up to places -/

/-- What a tree applies last does not depend on its places. -/
theorem Alike.operation_eq (h : tree.Alike other) : tree.operation? = other.operation? := by
  have herase (t : Node) : t.erase.operation? = t.operation? := by cases t <;> rfl
  rw [← herase tree, ← herase other, show tree.erase = other.erase from h]

theorem Binds.of_alike (h : other.Binds least) (halike : tree.Alike other) : tree.Binds least :=
  fun op hop => h op (halike.operation_eq ▸ hop)

theorem alike_binaryNode {span' : Span} {left' right' : Node} (hleft : left.Alike left')
    (hright : right.Alike right') :
    (Grammar.binaryNode span op left right).Alike (Grammar.binaryNode span' op left' right') := by
  unfold Grammar.binaryNode
  split
  · simp_all only [Alike, erase]
  · simp_all only [Alike, erase]

/-- What is alike to an operation is one of alike operands. -/
theorem Alike.exists_binaryNode
    (h : tree.Alike (Grammar.binaryNode span op left right)) :
    ∃ span' left' right', tree = Grammar.binaryNode span' op left' right' ∧
      left'.Alike left ∧ right'.Alike right := by
  unfold Grammar.binaryNode at h ⊢
  split at h
  · rename_i hrange
    cases tree <;> simp [Alike, erase] at h
    exact ⟨_, _, _, (if_pos hrange).symm, h⟩
  · rename_i hrange
    cases tree <;> simp [Alike, erase] at h
    obtain ⟨rfl, hparts⟩ := h
    exact ⟨_, _, _, (if_neg hrange).symm, hparts⟩

/-- A row does not depend on the places in its tree. -/
theorem Groups.of_alike {pieces : List Piece} (h : other.Groups pieces)
    (halike : tree.Alike other) : tree.Groups pieces := by
  induction h generalizing tree with
  | name =>
      cases tree <;> simp [Alike, erase] at halike
      subst halike
      exact .name
  | operator _ _ hleft hright ihleft ihright =>
      obtain ⟨span', left', right', rfl, hleft', hright'⟩ := halike.exists_binaryNode
      exact .operator (ihleft hleft') (ihright hright') (hleft.of_alike hleft')
        (hright.of_alike hright')

/-! ## One tree at most -/

theorem Groups.ne_nil {pieces : List Piece} (h : tree.Groups pieces) : pieces ≠ [] := by
  cases h with
  | name => exact List.cons_ne_nil _ _
  | operator => simp

/-- Every operator of a row binds at least as tightly as the tree. -/
theorem Groups.le_precedence {pieces : List Piece} (h : tree.Groups pieces)
    (hbinds : tree.Binds least) {op : BinaryOp} (hop : .operator op ∈ pieces) :
    least ≤ op.precedence := by
  induction h generalizing least with
  | name => simp at hop
  | @operator _ root _ _ _ _ _ _ hleft hright ihleft ihright =>
      have hroot : least ≤ root.precedence := binds_binaryNode.mp hbinds
      rcases List.mem_append.mp hop with hbefore | hafter
      · exact ihleft (hleft.mono hroot) hbefore
      · rcases List.mem_cons.mp hafter with heq | hafter
        · rw [Piece.operator.inj heq]
          exact hroot
        · exact ihright (hright.mono (Nat.le_succ_of_le hroot)) hafter

/-- The root of one tree of a row does not stand before that of another one: the operators
after a root bind more tightly than it, and those before it do not bind less tightly. -/
theorem root_le {op op' : BinaryOp} {before before' after after' between : List Piece}
    (hafter : ∀ x, .operator x ∈ after → op.precedence + 1 ≤ x.precedence)
    (hbefore' : ∀ x, .operator x ∈ before' → op'.precedence ≤ x.precedence)
    (hbefore : before' = before ++ between)
    (heq : .operator op :: after = between ++ .operator op' :: after') : between = [] := by
  cases between with
  | nil => rfl
  | cons piece between =>
      obtain ⟨rfl, hrest⟩ := List.cons_eq_cons.mp heq
      have hlater : op.precedence + 1 ≤ op'.precedence := hafter op' (by simp [hrest])
      have hearlier : op'.precedence ≤ op.precedence := hbefore' op (by simp [hbefore])
      omega

/-- **A row has one tree at most**, up to places. -/
theorem Groups.alike {pieces : List Piece} (h : tree.Groups pieces) (h' : other.Groups pieces) :
    other.Alike tree := by
  induction h generalizing other with
  | name =>
      generalize hpieces : [Piece.name _] = pieces at h'
      cases h' with
      | name =>
          obtain rfl : _ = _ := by simpa using hpieces
          exact .refl _
      | operator hleft =>
          have hlength := congrArg List.length hpieces
          have hpos := List.length_pos_iff.mpr hleft.ne_nil
          simp at hlength
          omega
  | @operator _ op _ _ before after hleft hright hbinds hbinds' ihleft ihright =>
      generalize hpieces : before ++ Piece.operator op :: after = pieces at h'
      cases h' with
      | name =>
          have hlength := congrArg List.length hpieces
          have hpos := List.length_pos_iff.mpr hleft.ne_nil
          simp at hlength
          omega
      | @operator _ op' _ _ before' after' hleft' hright' hbinds₁ hbinds₁' =>
          have hsame : before = before' ∧ op = op' ∧ after = after' := by
            rcases List.append_eq_append_iff.mp hpieces with
              ⟨between, hbefore, hrest⟩ | ⟨between, hbefore, hrest⟩
            · have hnil := root_le (fun _ => hright.le_precedence hbinds')
                (fun _ => hleft'.le_precedence hbinds₁) hbefore hrest
              simp_all
            · have hnil := root_le (fun _ => hright'.le_precedence hbinds₁')
                (fun _ => hleft.le_precedence hbinds) hbefore hrest
              simp_all
          obtain ⟨rfl, rfl, rfl⟩ := hsame
          exact alike_binaryNode (ihleft hleft') (ihright hright')

/-! ## One tree at least -/

/-- One more operator and name at the end of a row: the operator takes the place of the
topmost operations on the right edge of the tree that bind at least as tightly. -/
theorem Groups.exists_append {pieces : List Piece} (h : tree.Groups pieces) (op : BinaryOp)
    (name : String) :
    ∃ longer : Node, longer.Groups (pieces ++ [.operator op, .name name]) ∧
      ∀ least, tree.Binds least → least ≤ op.precedence → longer.Binds least := by
  have hlast {tree : Node} {pieces : List Piece} (h : tree.Groups pieces)
      (hbinds : tree.Binds op.precedence) :
      ∃ longer : Node, longer.Groups (pieces ++ [.operator op, .name name]) ∧
        ∀ least, tree.Binds least → least ≤ op.precedence → longer.Binds least := by
    refine ⟨Grammar.binaryNode .none op tree (.ident .none name), ?_, fun least _ hle => ?_⟩
    · exact .operator h .name hbinds nofun
    · exact binds_binaryNode.mpr hle
  induction h with
  | name => exact hlast .name nofun
  | @operator span root left right before after hleft hright hbinds hbinds' _ ihright =>
      by_cases hle : op.precedence ≤ root.precedence
      · exact hlast (.operator hleft hright hbinds hbinds') (binds_binaryNode.mpr hle)
      · obtain ⟨longer, hlonger, hkeeps⟩ := ihright
        refine ⟨Grammar.binaryNode span root left longer, ?_, fun least hroot _ => ?_⟩
        · rw [List.append_assoc]
          exact .operator hleft hlonger hbinds (hkeeps _ hbinds' (Nat.lt_of_not_le hle))
        · exact binds_binaryNode.mpr (binds_binaryNode.mp hroot)

/-- Every row of names with operators between them has a tree. -/
theorem exists_groups (first : String) (more : List (BinaryOp × String)) :
    ∃ tree : Node, tree.Groups (Piece.alternating first more) := by
  have hmore (tree : Node) (pieces : List Piece) (h : tree.Groups pieces) :
      ∃ longer : Node, longer.Groups
        (pieces ++ more.flatMap fun (op, next) => [.operator op, .name next]) := by
    induction more generalizing tree pieces with
    | nil => exact ⟨tree, by simpa using h⟩
    | cons next more ih =>
        obtain ⟨longer, hlonger, -⟩ := h.exists_append next.1 next.2
        simpa using ih longer _ hlonger
  exact hmore (.ident .none first) [.name first] .name

end Node

/-! ## Reading -/

/-- Whether a row of the table binds as tightly as its operator, if that is a binary one. -/
def Operator.Row.agrees (row : Operator.Row) : Bool :=
  match row.operator with
  | .binary op => row.precedence = op.precedence
  | _ => true

/-- An operator binds in the table as tightly as it does. -/
theorem Word.after_eq {w : Word} {op : BinaryOp} {row : Operator.Row} (h : w.after? = some row)
    (hop : row.operator = .binary op) : row.precedence = op.precedence := by
  have hall : Operator.table.all Operator.Row.agrees = true := by decide
  have hrow : Operator.afterOperand? w.literal = some row := by
    unfold after? row? at h
    split at h <;> first | exact h | cases h
  have hmem := List.all_eq_true.mp hall row (List.mem_of_find?_eq_some hrow)
  rw [Operator.Row.agrees, hop] at hmem
  exact of_decide_eq_true hmem

/-- The words of a row spell the trees of the row. -/
theorem Node.Groups.spells {L : List Word → Node → Prop} {tree : Node} {pieces : List Piece}
    (h : tree.Groups pieces) {ws : List Word} (hws : List.Forall₂ Word.Is ws pieces) {least : Nat}
    (hbinds : tree.Binds least) (hleast : least ≤ Binding.unary) : Spells L least ws tree := by
  induction h generalizing ws least with
  | name =>
      obtain ⟨⟨kind, literal⟩, rest, hkind, hrest, rfl⟩ := List.forall₂_cons_right_iff.mp hws
      obtain rfl : rest = [] := List.forall₂_nil_right_iff.mp hrest
      obtain rfl : kind = _ := hkind
      exact .atom (Nat.le_trans hleast (by decide)) .ident
  | @operator span op left right before after _ _ hleft hright ihleft ihright =>
      have hsmall : op.precedence < Binding.unary := by cases op <;> decide
      have hus := List.forall₂_take_append ws before _ hws
      have hvs := List.forall₂_drop_append ws before _ hws
      rw [← List.take_append_drop before.length ws]
      obtain ⟨w, vs, ⟨hspelled, row, hrow, hoperator⟩, hvs, hdrop⟩ :=
        List.forall₂_cons_right_iff.mp hvs
      obtain ⟨symbol, arity, precedence, operator⟩ := row
      rw [hdrop]
      obtain rfl : operator = .binary op := hoperator
      obtain rfl : precedence = op.precedence := Word.after_eq hrow rfl
      exact .binary (binds_binaryNode.mp hbinds) hspelled hrow
        (ihleft hus hleft (Nat.le_of_lt hsmall)) (ihright hvs hright hsmall)

/-- **Climbing along the precedences builds the one right tree.**  Let names stand with
binary operators between them, in any of their spellings, and the end of the input after
them or nothing.  With the standard features they are read as an expression, up to the end.
The tree has them in their order, each operator above a left operand that binds at least as
tightly and a right one that binds more tightly, and no other tree does, up to places. -/
theorem Node.ofExpression_groups (unit : Nat) (first : String) (more : List (BinaryOp × String))
    (tokens : List Token) (ending : Option Span)
    (h : List.Forall₂ (fun t piece => t.word.Is piece) tokens (Piece.alternating first more)) :
    let source := tokens ++ ending.toList.map fun span => ⟨.eof, span, ""⟩
    ∃ (tree : Node) (s : Progress),
      Grammar.wholeExpression (source.length + 2) ⟨.standard, unit⟩ (Parse.start source) =
        .ok (tree, s) ∧
      s.cursor.after.map Token.word = ending.toList.map (fun _ => Word.final) ∧
      Node.ofExpression ⟨.standard, unit⟩ source = .ok tree ∧
      tree.Groups (Piece.alternating first more) ∧
      ∀ other : Node, other.Groups (Piece.alternating first more) → other.Alike tree := by
  intro source
  let σ : Frame := ⟨⟨.standard, unit⟩, 0, [], rfl⟩
  let rest : List Word := ending.toList.map fun _ => Word.final
  have hL : Grammar.Lambdas (fun _ _ => False) :=
    ⟨fun _ _ hfalse => hfalse.elim, fun _ _ hfalse => hfalse.elim, fun hfalse => hfalse.elim⟩
  have hwords : source.map Token.word = tokens.map Token.word ++ rest := by
    rw [List.map_append, List.map_map]
    rfl
  have hpieces : List.Forall₂ Word.Is (tokens.map Token.word) (Piece.alternating first more) :=
    List.forall₂_map_left_iff.mpr h
  obtain ⟨model, hmodel⟩ := exists_groups first more
  have hbinds : model.Binds Binding.assignment := fun op _ => by cases op <;> decide
  have hspells : Spells (fun _ _ => False) Binding.assignment (tokens.map Token.word) model :=
    hmodel.spells hpieces hbinds (by decide)
  have hvalid : ∀ w ∈ source.map Token.word, w.Valid := by
    rw [hwords]
    refine Word.Valid.append (hspells.valid hL.valid) fun w hw => ?_
    obtain ⟨-, -, rfl⟩ := List.mem_map.mp hw
    nofun
  have hstops : Word.Stops Binding.assignment rest := by
    cases ending with
    | none => trivial
    | some span =>
        show Word.Stops Binding.assignment [Word.final]
        exact ⟨trivial, by decide⟩
  have hrest : Word.headKind rest = .eof := by cases ending <;> rfl
  have hlen : (tokens.map Token.word).length + rest.length ≤ source.length + 2 := by
    have := congrArg List.length hwords
    simp only [List.length_map, List.length_append] at this ⊢
    omega
  have hreads : Reads σ (Grammar.wholeExpression (source.length + 2))
      (tokens.map Token.word ++ rest) rest (Node.Alike · model) :=
    Grammar.reads_wholeExpression hL hspells hstops hrest hlen
  obtain ⟨tree, s, hrun, hs, htree⟩ := hreads (Parse.start source) ⟨hwords, rfl, rfl⟩
  have hgroups := hmodel.of_alike htree
  refine ⟨tree, s, hrun, hs.words, ?_, hgroups, fun other hother => hgroups.alike hother⟩
  unfold ofExpression ofTokens
  rw [Grammar.firstError_eq_none hvalid]
  show (Grammar.wholeExpression (source.length + 2) σ.dialect (Parse.start source)).map (·.1) = _
  rw [hrun]
  rfl

/-- In `a lt b .. c - d - e` the subtractions go from left to right, and the range is around
the comparison and the rest. -/
theorem Node.ofExpression_groups_range :
    let row := Piece.alternating "a" [(.lt, "b"), (.range, "c"), (.sub, "d"), (.sub, "e")]
    let tokens : List Token := [⟨.ident "a", ⟨0, 1⟩, "a"⟩, ⟨.keyword .kwLt, ⟨2, 4⟩, "lt"⟩,
      ⟨.ident "b", ⟨5, 6⟩, "b"⟩, ⟨.symbol .dotDot, ⟨7, 9⟩, ".."⟩, ⟨.ident "c", ⟨10, 11⟩, "c"⟩,
      ⟨.symbol .minus, ⟨12, 13⟩, "-"⟩, ⟨.ident "d", ⟨14, 15⟩, "d"⟩,
      ⟨.symbol .minus, ⟨16, 17⟩, "-"⟩, ⟨.ident "e", ⟨18, 19⟩, "e"⟩]
    let tree : Node := .range ⟨0, 19⟩
      (.binary ⟨0, 6⟩ .lt (.ident ⟨0, 1⟩ "a") (.ident ⟨5, 6⟩ "b"))
      (.binary ⟨10, 19⟩ .sub
        (.binary ⟨10, 15⟩ .sub (.ident ⟨10, 11⟩ "c") (.ident ⟨14, 15⟩ "d")) (.ident ⟨18, 19⟩ "e"))
    List.Forall₂ (fun t piece => t.word.Is piece) tokens row ∧
    Node.ofExpression ⟨.standard, 0⟩ (tokens ++ [⟨.eof, ⟨19, 19⟩, ""⟩]) = .ok tree ∧
    tree.Groups row ∧ ∀ other : Node, other.Groups row → other.Alike tree := by
  intro row tokens tree
  have hwords : List.Forall₂ (fun t piece => t.word.Is piece) tokens row :=
    .cons rfl (.cons ⟨rfl, _, rfl, rfl⟩ (.cons rfl (.cons ⟨rfl, _, rfl, rfl⟩ (.cons rfl
      (.cons ⟨rfl, _, rfl, rfl⟩ (.cons rfl (.cons ⟨rfl, _, rfl, rfl⟩ (.cons rfl .nil))))))))
  have hread : Node.ofExpression ⟨.standard, 0⟩ (tokens ++ [⟨.eof, ⟨19, 19⟩, ""⟩]) = .ok tree := rfl
  obtain ⟨found, -, -, -, hfound, hgroups, honly⟩ :=
    Node.ofExpression_groups 0 "a" _ tokens (some ⟨19, 19⟩) hwords
  obtain rfl : found = tree := Except.ok.inj (hfound.symm.trans hread)
  exact ⟨hwords, hread, hgroups, honly⟩

end ScriptEngine

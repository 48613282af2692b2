import ScriptEngine.Grammar.Statement

/-!
# What a feature is needed for

A feature is needed for forms of nodes, or, in the case of the word operators, for tokens:
`a eq b` and `a == b` are the same tree.  A word operator is an operator wherever it stands
in the source, except where a name is taken: after a point, in an annotation and in a
directive.

* `Node.needs` — the features that a form of node needs;
* `Token.isComparatorWord`, `Cursor.takesName` — word operators, and where they are names;
* `Cursor.Path` — a way along the tokens that passes each of them where it may be passed.
-/

namespace ScriptEngine

/-- The features that the form of a node needs, whatever its parts are. -/
def Node.needs : Node → List Feature
  | lambda .. => [.lambda]
  | methodCall .. => [.methodCall]
  | construct .. => [.newInstance]
  | assign .. => [.sideEffect]
  | array .. | map .. | set .. => [.structuredLiteral]
  | forLoop .. | whileLoop .. | doWhile .. => [.loops]
  | foreach _ _ declared _ _ => if declared then [.loops, .localVar] else [.loops]
  | var .. => [.localVar]
  | annotated .. => [.annotations]
  | script _ _ pragmas => if pragmas.isEmpty then [] else [.pragma]
  | _ => []

/-- Whether a token is one of the words `eq ne lt le gt ge and or not`. -/
def Token.isComparatorWord (t : Token) : Bool :=
  match t.kind with
  | .keyword word => word.isComparatorName && t.literal = word.spelling
  | _ => false

/-- A token of a kind that is no such word is none. -/
theorem Token.isComparatorWord_eq_false {t : Token} (h : t.kind.isComparatorName = false) :
    t.isComparatorWord = false := by
  unfold isComparatorWord
  unfold TokenKind.isComparatorName at h
  split
  · rename_i word hkind
    rw [hkind] at h
    rw [show word.isComparatorName = false from h]
    rfl
  · rfl

/-- Such a token is a word of this kind in its own spelling. -/
theorem Token.exists_of_isComparatorWord {t : Token} (h : t.isComparatorWord = true) :
    ∃ word, t.kind = .keyword word ∧ word.isComparatorName = true ∧
      t.literal = word.spelling := by
  unfold isComparatorWord at h
  split at h
  · rename_i word hkind
    obtain ⟨hname, hliteral⟩ := Bool.and_eq_true_iff.mp h
    exact ⟨word, hkind, hname, of_decide_eq_true hliteral⟩
  · cases h

/-- The only word operator that stands before an operand is `not`. -/
theorem Keyword.beforeOperand_of_comparator {word : Keyword} (h : word.isComparatorName = true) :
    Operator.beforeOperand? word.spelling =
      if word = .kwNot then some (.ofUnary "not" .not) else none := by
  cases word <;> first | rfl | cases h

/-- The words that stand as operators after an operand are binary. -/
theorem Keyword.afterOperand_spelling (word : Keyword) :
    Operator.afterOperand? word.spelling = none ∨
      ∃ op, Operator.afterOperand? word.spelling = some (.ofBinary word.spelling op) := by
  cases word <;> first | exact .inl rfl | exact .inr ⟨_, rfl⟩

namespace Cursor

/-- Whether a token announces a name: a point, the sign of an annotation or that of a
directive. -/
def announcesName (t : Token) : Bool :=
  t.kind = .symbol .dot || t.kind = .symbol .atSign || t.kind = .symbol .hash

theorem announcesName_of_kind {t : Token}
    (h : t.kind = .symbol .dot ∨ t.kind = .symbol .atSign ∨ t.kind = .symbol .hash) :
    announcesName t = true := by
  unfold announcesName
  rcases h with h | h | h <;> rw [h] <;> rfl

/-- **Whether a name is taken at a cursor**: right after a token that announces one, and
after the word that follows the sign of a directive. -/
def takesName (c : Cursor) : Bool :=
  match c.before with
  | [] => false
  | last :: rest => announcesName last || rest.head?.any fun t => t.kind = .symbol .hash

/-- **Whether the token at a cursor may be passed**: it is there, and word operators need
their feature except where a name is taken. -/
structure Passable (F : Features) (c : Cursor) : Prop where
  here : c.after ≠ []
  word : c.current.isComparatorWord = true →
    F.has .comparatorNames = true ∨ c.takesName = true

/-- **A way from one cursor to another** along the tokens of a source, all of which may be
passed where they stand. -/
inductive Path (F : Features) : Cursor → Cursor → Prop
  | refl (c : Cursor) : Path F c c
  | step {c c' : Cursor} : c.Passable F → Path F c.advance c' → Path F c c'

/-- A way that passes the token at its start. -/
def Passes (F : Features) (c c' : Cursor) : Prop := c.Passable F ∧ c.advance.Path F c'

variable {F : Features} {c c' c'' : Cursor}

theorem Path.trans (h : c.Path F c') (h' : c'.Path F c'') : c.Path F c'' := by
  induction h with
  | refl c => exact h'
  | step hpass _ ih => exact .step hpass (ih h')

theorem Passable.path (h : c.Passable F) : c.Path F c.advance := .step h (.refl _)

theorem Passable.passes (h : c.Passable F) : c.Passes F c.advance := ⟨h, .refl _⟩

theorem Passes.path (h : c.Passes F c') : c.Path F c' := .step h.1 h.2

theorem Passes.later (h : c.Passes F c') (h' : c'.Path F c'') : c.Passes F c'' :=
  ⟨h.1, h.2.trans h'⟩

theorem Passes.earlier (h : c.Path F c') (h' : c'.Passes F c'') : c.Passes F c'' := by
  cases h with
  | refl _ => exact h'
  | step hpass h => exact ⟨hpass, h.trans h'.path⟩

/-- There is a token at a cursor that is not at the end of its source. -/
theorem after_ne_nil (h : c.currentKind ≠ .eof) : c.after ≠ [] := by
  intro hnil
  refine h ?_
  unfold currentKind current
  rw [hnil]
  rfl

/-- Tokens of other kinds may be passed. -/
theorem Passable.of_kind {kind : TokenKind} (h : c.currentKind = kind) (hend : kind ≠ .eof)
    (hword : kind.isComparatorName = false) : c.Passable F where
  here := after_ne_nil (h ▸ hend)
  word hcurrent := by
    have hnone : c.current.isComparatorWord = false :=
      Token.isComparatorWord_eq_false ((congrArg TokenKind.isComparatorName h).trans hword)
    rw [hnone] at hcurrent
    cases hcurrent

/-- Any token may be passed where a name is taken. -/
theorem Passable.of_name (here : c.after ≠ []) (h : c.takesName = true) : c.Passable F :=
  ⟨here, fun _ => .inr h⟩

/-- The token before a cursor that has been moved on. -/
theorem before_advance (h : c.after ≠ []) : c.advance.before = c.current :: c.before := by
  unfold advance current
  cases hafter : c.after with
  | nil => exact absurd hafter h
  | cons t rest => rfl

/-- A name is taken after what announces one. -/
theorem takesName_advance (h : c.after ≠ []) (hname : announcesName c.current = true) :
    c.advance.takesName = true := by
  unfold takesName
  rw [before_advance h]
  simp only [hname, Bool.true_or]

/-- A name is taken after the word that follows the sign of a directive. -/
theorem takesName_advance_advance (h : c.after ≠ []) (h' : c.advance.after ≠ [])
    (hhash : c.currentKind = .symbol .hash) : c.advance.advance.takesName = true := by
  unfold takesName
  rw [before_advance h', before_advance h]
  show (announcesName c.advance.current || decide (c.current.kind = .symbol .hash)) = true
  rw [show c.current.kind = .symbol .hash from hhash, decide_eq_true rfl, Bool.or_true]

/-- The kind of the next token. -/
theorem currentKind_advance (h : c.after ≠ []) : c.advance.currentKind = c.peek 1 := by
  unfold advance peek currentKind current
  cases hafter : c.after with
  | nil => exact absurd hafter h
  | cons t rest => cases rest <;> rfl

/-- The span of the token at a cursor is all that lies between the cursor and the next. -/
theorem span_current (h : c.currentKind ≠ .eof) :
    c.current.span = c.currentSpan.merge c.advance.previousSpan := by
  have hcurrent : c.currentSpan = c.current.span := if_neg fun hend => h hend.1
  have hprevious : c.advance.previousSpan = c.current.span := by
    unfold previousSpan
    rw [before_advance (after_ne_nil h)]
  rw [hcurrent, hprevious]
  simp [Span.merge]

end Cursor

namespace Grammar

variable {F : Features} {lookup : String → Option Operator.Row} {c : Cursor} {row : Operator.Row}

/-- An operator is found for the text of a token that is there. -/
theorem of_operatorAt (h : operatorAt lookup c = some row) :
    c.after ≠ [] ∧ lookup c.current.literal = some row := by
  unfold operatorAt at h
  split at h
  · cases h
  · cases h
  · cases h
  · cases h
  · cases h
  · rename_i word hkind
    exact ⟨Cursor.after_ne_nil (hkind ▸ nofun), h⟩
  · rename_i sign hkind
    exact ⟨Cursor.after_ne_nil (hkind ▸ nofun), h⟩

/-- The operators of assignments are no words. -/
theorem passable_of_assigns (h : operatorAt Operator.afterOperand? c = some row)
    (hbinary : ∀ op, row.operator ≠ .binary op) : c.Passable F := by
  obtain ⟨hhere, hrow⟩ := of_operatorAt h
  refine ⟨hhere, fun hword => ?_⟩
  obtain ⟨word, -, -, hliteral⟩ := Token.exists_of_isComparatorWord hword
  rw [hliteral] at hrow
  rcases word.afterOperand_spelling with hnone | ⟨op, hsome⟩
  · rw [hnone] at hrow
    cases hrow
  · rw [hsome] at hrow
    cases hrow
    exact absurd rfl (hbinary op)

/-- An operator before an operand is a word only if it is `not`. -/
theorem passable_of_before (h : operatorAt Operator.beforeOperand? c = some row)
    (hnot : row.operator = .unary .not → c.currentKind = .keyword .kwNot →
      F.has .comparatorNames = true) : c.Passable F := by
  obtain ⟨hhere, hrow⟩ := of_operatorAt h
  refine ⟨hhere, fun hword => .inl ?_⟩
  obtain ⟨word, hkind, hname, hliteral⟩ := Token.exists_of_isComparatorWord hword
  rw [hliteral, Keyword.beforeOperand_of_comparator hname] at hrow
  split at hrow
  · rename_i hword
    cases hrow
    exact hnot rfl (hword ▸ hkind)
  · cases hrow

/-- A binary operator is a word only if its token is the name of a comparator. -/
theorem passable_of_after (h : operatorAt Operator.afterOperand? c = some row)
    (hname : c.currentKind.isComparatorName = true → F.has .comparatorNames = true) :
    c.Passable F := by
  refine ⟨(of_operatorAt h).1, fun hword => .inl (hname ?_)⟩
  obtain ⟨word, hkind, hcomparator, -⟩ := Token.exists_of_isComparatorWord hword
  rw [Cursor.currentKind, hkind]
  exact hcomparator

end Grammar

end ScriptEngine

import ScriptEngine.Grammar.Expression

/-!
# Words

A word is a token without its place: what it means and how it is written.  The
grammar looks at nothing else of a token when it decides how to go on.

* `Word.row?` — the operator that a word is;
* `Word.reach` — how tightly a word binds an expression that ends before it;
* `Word.Spelled` — whether a word is written as the symbol or reserved word that
  it is;
* `Word.Stops` — whether an expression of some level ends before certain words.
-/

namespace ScriptEngine

/-- A token without its place. -/
structure Word where
  kind : TokenKind
  literal : String
  deriving DecidableEq, Repr

/-- What is left of a token when its place is forgotten. -/
def Token.word (t : Token) : Word := ⟨t.kind, t.literal⟩

namespace Word

/-- The word that a symbol is written as. -/
def sign (s : Symbol) : Word := ⟨.symbol s, s.spelling⟩

/-- The word that a reserved word is written as. -/
def reserved (k : Keyword) : Word := ⟨.keyword k, k.spelling⟩

/-- The word that stands at the end of the input. -/
def final : Word := ⟨.eof, ""⟩

/-- The row that a lookup finds for a word, unless its text is free to look like
an operator. -/
def row? (lookup : String → Option Operator.Row) (w : Word) : Option Operator.Row :=
  match w.kind with
  | .ident _ | .text _ | .number _ | .error _ | .eof => none
  | .keyword _ | .symbol _ => lookup w.literal

/-- The word as an operator after an operand. -/
def after? (w : Word) : Option Operator.Row := w.row? Operator.afterOperand?

/-- The word as an operator before an operand. -/
def before? (w : Word) : Option Operator.Row := w.row? Operator.beforeOperand?

/-- The literal that a word is. -/
def literal? (w : Word) : Option Literal :=
  match w.kind with
  | .number value => some (.number value)
  | .text value => some (.text value)
  | .keyword .kwTrue => some (.bool true)
  | .keyword .kwFalse => some (.bool false)
  | .keyword .kwNull => some .nil
  | _ => none

/-- The name that a word stands for after a point. -/
def member? (w : Word) : Option String := Grammar.memberName? ⟨w.kind, .none, w.literal⟩

/-- How tightly a word binds an expression that ends before it; a word that goes
on with no expression binds nothing. -/
def reach (w : Word) : Nat :=
  match w.kind with
  | .symbol .arrow | .symbol .fatArrow => Binding.atom
  | .symbol .dot | .symbol .lbracket | .symbol .lparen | .symbol .plusPlus
  | .symbol .minusMinus => Binding.postfixChain
  | _ => (w.after?.map Operator.Row.precedence).getD 0

/-- A symbol or reserved word that is written as such. -/
def Spelled (w : Word) : Prop :=
  match w.kind with
  | .symbol s => w.literal = s.spelling
  | .keyword k => Keyword.ofSpelling? w.literal = some k
  | _ => True

/-- A word that is no error. -/
def Valid (w : Word) : Prop := ∀ reason, w.kind ≠ .error reason

/-- The kind of the first of some words; the end of the input if there is none. -/
def headKind : List Word → TokenKind
  | [] => .eof
  | w :: _ => w.kind

/-- Whether an expression of a level ends before these words: the first of them
does not bind that tightly. -/
def Stops (level : Nat) : List Word → Prop
  | [] => True
  | w :: _ => w.Spelled ∧ w.reach < level

/-- An operator after an operand binds as tightly as its row says. -/
theorem reach_of_after {w : Word} {row : Operator.Row} (hs : w.Spelled)
    (h : w.after? = some row) : w.reach = row.precedence := by
  obtain ⟨kind, literal⟩ := w
  cases kind with
  | keyword k => simp [reach, h]
  | symbol s =>
      have hliteral : literal = s.spelling := hs
      have hrow : Operator.afterOperand? s.spelling = some row := hliteral ▸ h
      have hplain : s ∉ [Symbol.arrow, .fatArrow, .dot, .lbracket, .lparen, .plusPlus,
          .minusMinus] := by
        intro hmem
        have hnone : ∀ s ∈ [Symbol.arrow, .fatArrow, .dot, .lbracket, .lparen, .plusPlus,
            .minusMinus], Operator.afterOperand? s.spelling = none := by decide
        rw [hnone s hmem] at hrow
        cases hrow
      simp only [List.mem_cons, List.not_mem_nil, or_false, not_or] at hplain
      unfold reach
      split <;> simp_all
  | ident name => cases h
  | number value => cases h
  | text value => cases h
  | error reason => cases h
  | eof => cases h

/-- Every operator after an operand binds something. -/
theorem precedence_pos {text : String} {row : Operator.Row}
    (h : Operator.afterOperand? text = some row) : 0 < row.precedence := by
  have hall : ∀ row ∈ Operator.table, 0 < row.precedence := by decide
  exact hall row (List.mem_of_find?_eq_some h)

namespace Stops

variable {level : Nat} {ws : List Word}

/-- What ends an expression ends a tighter one. -/
theorem mono {high : Nat} (h : Stops level ws) (hle : level ≤ high) : Stops high ws := by
  cases ws with
  | nil => trivial
  | cons w rest => exact ⟨h.1, Nat.lt_of_lt_of_le h.2 hle⟩

/-- An operator that ends an expression binds less tightly. -/
theorem precedence_lt {row : Operator.Row} (h : Stops level ws)
    (hrow : (ws.headD final).after? = some row) : row.precedence < level := by
  cases ws with
  | nil => cases hrow
  | cons w rest =>
      obtain ⟨hs, hreach⟩ := h
      rw [reach_of_after hs hrow] at hreach
      exact hreach

/-- What ends an operand is no arrow. -/
theorem headKind_ne_arrow (h : Stops Binding.atom ws) :
    headKind ws ≠ .symbol .arrow ∧ headKind ws ≠ .symbol .fatArrow := by
  cases ws with
  | nil => exact ⟨nofun, nofun⟩
  | cons w rest =>
      obtain ⟨-, hreach⟩ := h
      refine ⟨fun hkind => ?_, fun hkind => ?_⟩
      all_goals
        have hkind' : w.kind = _ := hkind
        simp [reach, hkind'] at hreach

/-- What ends an access is no symbol that goes on with one. -/
theorem headKind_ne_access (h : Stops Binding.postfixChain ws) :
    headKind ws ≠ .symbol .dot ∧ headKind ws ≠ .symbol .lbracket ∧
      headKind ws ≠ .symbol .lparen ∧ headKind ws ≠ .symbol .plusPlus ∧
      headKind ws ≠ .symbol .minusMinus := by
  cases ws with
  | nil => exact ⟨nofun, nofun, nofun, nofun, nofun⟩
  | cons w rest =>
      obtain ⟨-, hreach⟩ := h
      refine ⟨?_, ?_, ?_, ?_, ?_⟩
      all_goals
        intro hkind
        have hkind' : w.kind = _ := hkind
        simp [reach, hkind'] at hreach

/-- What ends a conditional form is no question mark. -/
theorem headKind_ne_question (h : Stops Binding.conditional ws) :
    headKind ws ≠ .symbol .question ∧ headKind ws ≠ .symbol .questionQuestion := by
  have hsymbol : ∀ s : Symbol, Binding.conditional ≤
      ((Operator.afterOperand? s.spelling).map Operator.Row.precedence).getD 0 →
      headKind ws ≠ .symbol s := by
    intro s hs hkind
    cases ws with
    | nil => cases hkind
    | cons w rest =>
        obtain ⟨kind, literal⟩ := w
        obtain rfl : kind = .symbol s := hkind
        have hliteral : literal = s.spelling := h.1
        cases hrow : Operator.afterOperand? s.spelling with
        | none =>
            rw [hrow] at hs
            exact absurd hs (by decide)
        | some row =>
            rw [hrow] at hs
            have hafter : Word.after? ⟨.symbol s, literal⟩ = some row := by
              rw [hliteral]
              exact hrow
            exact absurd (h.precedence_lt hafter) (Nat.not_lt_of_le hs)
  exact ⟨hsymbol .question (by decide), hsymbol .questionQuestion (by decide)⟩

/-- What ends an assignment is no operator. -/
theorem after_eq_none (h : Stops Binding.assignment ws) : (ws.headD final).after? = none := by
  cases hrow : (ws.headD final).after? with
  | none => rfl
  | some row =>
      have hlt : row.precedence < 1 := h.precedence_lt hrow
      have hpos : 0 < row.precedence := by
        unfold after? row? at hrow
        split at hrow
        all_goals first | exact precedence_pos hrow | cases hrow
      omega

end Stops

end Word

end ScriptEngine

import Mathlib.Algebra.Order.Ring.Unbundled.Rat
import Mathlib.Data.Rat.Lemmas
import ScriptEngine.Proofs.ReadingScripts
import ScriptEngine.Proofs.Rendering

/-!
# The trees that are read

The grammar as a relation between places in a program and trees: which trees may stand as an
operand, as what a counting loop starts with, or as a statement.  Beside the shape of a tree it
says what its tokens make sure of: names are names, numbers are not negative and have finitely
many places.  An `if` that has an `else` has a first branch that would not have taken it.

* `Token.Lawful` — what is known of a token by itself;
* `Token.lawful_of_mem_ofSource` — the tokens of a source are lawful, unless they are errors;
* `Node.Formed` — trees that may stand at a place;
* `Node.FormedScript` — trees of whole scripts.
-/

namespace ScriptEngine

open Word

/-! ## Tokens -/

/-- What a token says beside its kind: an identifier is a name, a number can be written, and
what is taken for a word is made of name characters. -/
structure Token.Lawful (t : Token) : Prop where
  ident : ∀ name, t.kind = .ident name → IsName name
  number : ∀ q, t.kind = .number q → (Literal.number q).IsWritable
  word : ∀ name, Grammar.word? t = some name → IsWordName name

/-- Characters of a name that is not reserved are a name. -/
theorem isName_of_nameChars {name : String} (h : NameChars name.toList)
    (hnone : Keyword.ofSpelling? name = none) : IsName name := by
  have hscan := writes_name h [] [final] trivial .done
  rw [List.append_nil] at hscan
  have hkinds := congrArg (List.map Word.kind) hscan.ofSource
  rw [List.map_map] at hkinds
  have hkind : nameKind name = .ident name := by unfold nameKind; rw [hnone]
  exact hkinds.trans (by rw [List.singleton_append, List.map_cons, hkind]; rfl)

/-- The value of a numeral can be written. -/
theorem IsNumeral.isWritable {cs : List Char} {q : Number} (h : IsNumeral cs)
    (hvalue : Number.ofDecimal? (String.ofList cs) = some q) : (Literal.number q).IsWritable := by
  have hmk (n k : Nat) : (Literal.number (mkRat n (10 ^ k))).IsWritable := by
    refine ⟨Rat.mkRat_nonneg (Int.natCast_nonneg n) _, k, ?_⟩
    have hdvd := Rat.den_dvd n ((10 ^ k : Nat) : Int)
    rw [← Rat.mkRat_eq_divInt] at hdvd
    exact Int.natCast_dvd_natCast.mp hdvd
  have htext : (String.ofList cs).toList = cs := String.toList_ofList
  rcases h with hdigits | ⟨whole, fraction, rfl, hwhole, hfraction⟩
  · rw [Number.ofDecimal_digits (htext.symm ▸ hdigits)] at hvalue
    obtain rfl := Option.some.inj hvalue
    exact hmk _ 0
  · rw [Number.ofDecimal_point htext hwhole hfraction] at hvalue
    obtain rfl := Option.some.inj hvalue
    exact hmk _ _

/-- The end of the input is lawful. -/
theorem Token.lawful_eof (span : Span) : Token.Lawful ⟨.eof, span, ""⟩ := ⟨nofun, nofun, nofun⟩

namespace Lexeme

/-- A lexeme makes a lawful token, wherever it stands. -/
def Lawful (l : Lexeme) : Prop := ∀ span, Token.Lawful ⟨l.kind, span, String.ofList l.taken⟩

theorem lawful_number {c : Char} {cs : List Char} (hdigit : c.isDigit = true)
    (hvalid : ∀ reason, (number (c :: cs)).kind ≠ .error reason) :
    (number (c :: cs)).Lawful := by
  intro span
  cases hkind : (number (c :: cs)).kind with
  | number q =>
      rcases hnumber : number (c :: cs) with ⟨kind, taken, rest⟩
      rw [hnumber] at hkind
      obtain rfl : kind = .number q := hkind
      obtain ⟨-, hnumeral, hvalue⟩ := isNumeral_of_number hdigit hnumber
      refine ⟨nofun, fun q' hq' => ?_, nofun⟩
      obtain rfl := TokenKind.number.inj hq'
      exact hnumeral.isWritable hvalue
  | error reason => exact absurd hkind (hvalid reason)
  | _ =>
      unfold number at hkind
      dsimp only at hkind
      split at hkind <;> cases hkind

theorem lawful_string {quote : Char} {cs : List Char}
    (hvalid : ∀ reason, (string quote cs).kind ≠ .error reason) : (string quote cs).Lawful := by
  intro span
  rcases stringBody_kind quote (cs.length + 1) ⟨[], none⟩ cs with ⟨value, hkind⟩ | ⟨reason, hkind⟩
  · rw [show (string quote cs).kind = .text value from hkind]
    exact ⟨nofun, nofun, nofun⟩
  · exact absurd hkind (hvalid reason)

theorem lawful_word {c : Char} {cs : List Char} (hstart : startsName c = true) :
    (word (c :: cs)).Lawful := by
  intro span
  have hcontinues := (startsName_plain hstart).1
  have hchars : NameChars (String.ofList ((c :: cs).takeWhile continuesName)).toList := by
    rw [String.toList_ofList, List.takeWhile_cons_of_pos hcontinues]
    exact ⟨c, _, rfl, hstart, fun d hd => List.mem_takeWhile_imp hd⟩
  unfold word
  dsimp only
  generalize String.ofList ((c :: cs).takeWhile continuesName) = name at hchars
  have hword : ∀ found,
      (if Grammar.isWord name = true then some name else none) = some found →
      IsWordName found := by
    intro found hfound
    split at hfound
    case isTrue hword =>
      obtain rfl := Option.some.inj hfound
      exact ⟨hchars, hword⟩
    case isFalse => cases hfound
  cases hkeyword : Keyword.ofSpelling? name with
  | some k => exact ⟨nofun, nofun, hword⟩
  | none =>
      refine ⟨fun name' hname => ?_, nofun, hword⟩
      obtain rfl := TokenKind.ident.inj hname
      exact isName_of_nameChars hchars hkeyword

theorem lawful_symbol {c : Char} {cs : List Char}
    (hvalid : ∀ reason, (symbol c cs).kind ≠ .error reason) : (symbol c cs).Lawful := by
  intro span
  have hspelled := spelled_symbol c cs
  cases hkind : (symbol c cs).kind with
  | symbol s =>
      have hliteral : String.ofList (symbol c cs).taken = s.spelling := by
        unfold Spelled at hspelled
        rw [hkind] at hspelled
        exact hspelled
      have hword : Grammar.isWord s.spelling = false := by cases s <;> rfl
      rw [hliteral]
      refine ⟨nofun, nofun, fun name hname => ?_⟩
      have hname' : (if Grammar.isWord s.spelling = true then some s.spelling else none) =
          some name := hname
      rw [hword] at hname'
      cases hname'
  | error reason => exact absurd hkind (hvalid reason)
  | _ =>
      unfold symbol at hkind
      split at hkind <;> cases hkind

/-- **A lexeme is lawful**, unless it is an error. -/
theorem lawful_next {c : Char} {cs : List Char}
    (hvalid : ∀ reason, (next c cs).kind ≠ .error reason) : (next c cs).Lawful := by
  unfold next at hvalid ⊢
  split
  case isTrue hdigit =>
    rw [if_pos hdigit] at hvalid
    exact lawful_number hdigit hvalid
  case isFalse hdigit =>
    rw [if_neg hdigit] at hvalid
    split
    case isTrue hquote =>
      rw [if_pos hquote] at hvalid
      exact lawful_string hvalid
    case isFalse hquote =>
      rw [if_neg hquote] at hvalid
      split
      case isTrue hstart => exact lawful_word hstart
      case isFalse hstart =>
        rw [if_neg hstart] at hvalid
        exact lawful_symbol hvalid

end Lexeme

/-- The tokens of characters are lawful, unless they are errors. -/
theorem Token.lawful_ofChars (fuel pos : Nat) (cs : List Char) :
    ∀ token ∈ ofChars fuel pos cs, (∀ reason, token.kind ≠ .error reason) → token.Lawful := by
  induction fuel generalizing pos cs with
  | zero =>
      intro token hmem _
      rw [List.mem_singleton.mp hmem]
      exact lawful_eof _
  | succ fuel ih =>
      intro token hmem hvalid
      unfold ofChars at hmem
      dsimp only at hmem
      split at hmem
      case h_1 =>
        rcases List.mem_cons.mp hmem with rfl | hmem
        · exact absurd rfl (hvalid _)
        · exact ih _ _ token hmem hvalid
      case h_2 =>
        rw [List.mem_singleton.mp hmem]
        exact lawful_eof _
      case h_3 c rest _ _ =>
        rcases List.mem_cons.mp hmem with rfl | hmem
        · exact Lexeme.lawful_next hvalid _
        · exact ih _ _ token hmem hvalid

/-- **The tokens of a source are lawful**, unless they are errors. -/
theorem Token.lawful_of_mem_ofSource {source : String} {token : Token}
    (h : token ∈ ofSource source) (hvalid : ∀ reason, token.kind ≠ .error reason) :
    token.Lawful :=
  lawful_ofChars _ _ _ token h hvalid

/-! ## Directives -/

/-- Literals that a directive can hold: a number among them has finitely many places. -/
def Literal.IsSignedWritable : Literal → Prop
  | .number q => ∃ k, q.den ∣ 10 ^ k
  | _ => True

/-- Directives that a source can hold: the parts of the key are words. -/
structure Pragma.IsWritable (p : Pragma) : Prop where
  key : ∃ part parts, (∀ name ∈ part :: parts, IsWordName name) ∧ p.key = dottedName part parts
  value : p.value.IsSignedWritable

/-! ## Trees -/

/-- Where a tree stands: as an operand, as what a counting loop starts with, or as a statement,
inside a loop of its function or outside of all. -/
inductive Role where
  | operand
  | start
  | statement (inLoop : Bool)

/-- **The trees that are read**, by the places where they stand. -/
inductive Node.Formed : Role → Node → Prop
  | literal {span : Span} {value : Literal} : value.IsWritable →
      Formed .operand (.literal span value)
  | ident {span : Span} {name : String} : IsName name → Formed .operand (.ident span name)
  | binary {span : Span} {op : BinaryOp} {left right : Node} : op ≠ .range →
      Formed .operand left → Formed .operand right → Formed .operand (.binary span op left right)
  | range {span : Span} {first last : Node} : Formed .operand first → Formed .operand last →
      Formed .operand (.range span first last)
  | unary {span : Span} {op : UnaryOp} {operand : Node} : Formed .operand operand →
      Formed .operand (.unary span op operand)
  | ternary {span : Span} {cond thenBranch elseBranch : Node} : Formed .operand cond →
      Formed .operand thenBranch → Formed .operand elseBranch →
      Formed .operand (.ternary span cond thenBranch elseBranch)
  | elvis {span : Span} {left right : Node} {coalesce : Bool} : Formed .operand left →
      Formed .operand right → Formed .operand (.elvis span left right coalesce)
  | assign {span : Span} {target value : Node} : target.isAssignable = true →
      Formed .operand target → Formed .operand value →
      Formed .operand (.assign span target value false)
  | step {span inner place : Span} {op : BinaryOp} {target : Node} : op = .add ∨ op = .sub →
      target.isAssignable = true → Formed .operand target →
      Formed .operand
        (.assign span target (.binary inner op target (.literal place (.number 1))) true)
  | property {span : Span} {object : Node} {name : String} : Formed .operand object →
      Formed .operand (.property span object name)
  | index {span : Span} {object key : Node} : Formed .operand object → Formed .operand key →
      Formed .operand (.index span object key)
  | methodCall {span : Span} {object : Node} {name : String} {args : List Node} :
      Formed .operand object → (∀ arg ∈ args, Formed .operand arg) →
      Formed .operand (.methodCall span object name args)
  | call {span : Span} {callee : Node} {args : List Node} : Formed .operand callee →
      (∀ arg ∈ args, Formed .operand arg) → Formed .operand (.call span callee args)
  | construct {span : Span} {className : Node} {args : List Node} : Formed .operand className →
      (∀ arg ∈ args, Formed .operand arg) → Formed .operand (.construct span className args)
  | array {span : Span} {items : List Node} : (∀ item ∈ items, Formed .operand item) →
      Formed .operand (.array span items)
  | map {span : Span} {entries : List (Node × Node)} :
      (∀ entry ∈ entries, Formed .operand entry.1) → (∀ entry ∈ entries, Formed .operand entry.2) →
      Formed .operand (.map span entries)
  | set {span : Span} {items : List Node} : items ≠ [] → (∀ item ∈ items, Formed .operand item) →
      Formed .operand (.set span items)
  | lambda {span : Span} {id : LambdaId} {params : List String} {body : Node} : params.Nodup →
      (∀ name ∈ params, IsName name) → Formed .operand body →
      Formed .operand (.lambda span id params body)
  | lambdaBlock {span : Span} {id : LambdaId} {params : List String} {body : Node} : params.Nodup →
      (∀ name ∈ params, IsName name) → body.isBlock = true → Formed (.statement false) body →
      Formed .operand (.lambda span id params body)
  | expression {t : Node} : Formed .operand t → Formed .start t
  | var {span : Span} {name : String} {init : Option Node} : IsName name →
      (∀ value ∈ init, Formed .operand value) → Formed .start (.var span name init)
  | simple {inLoop : Bool} {t : Node} : Formed .start t → Formed (.statement inLoop) t
  | ifThen {inLoop : Bool} {span : Span} {cond thenBranch : Node} : Formed .operand cond →
      Formed (.statement inLoop) thenBranch →
      Formed (.statement inLoop) (.ifElse span cond thenBranch none)
  | ifElse {inLoop : Bool} {span : Span} {cond thenBranch elseBranch : Node} :
      Formed .operand cond → thenBranch.hangs = false → Formed (.statement inLoop) thenBranch →
      Formed (.statement inLoop) elseBranch →
      Formed (.statement inLoop) (.ifElse span cond thenBranch (some elseBranch))
  | forLoop {inLoop : Bool} {span : Span} {init cond step : Option Node} {body : Node} :
      (∀ t ∈ init, Formed .start t) → (∀ t ∈ cond, Formed .operand t) →
      (∀ t ∈ step, Formed .operand t) → Formed (.statement true) body →
      Formed (.statement inLoop) (.forLoop span init cond step body)
  | foreach {inLoop : Bool} {span : Span} {name : String} {declared : Bool}
      {iterable body : Node} : IsName name → Formed .operand iterable →
      Formed (.statement true) body →
      Formed (.statement inLoop) (.foreach span name declared iterable body)
  | whileLoop {inLoop : Bool} {span : Span} {cond body : Node} : Formed .operand cond →
      Formed (.statement true) body → Formed (.statement inLoop) (.whileLoop span cond body)
  | doWhile {inLoop : Bool} {span : Span} {body cond : Node} : Formed (.statement true) body →
      Formed .operand cond → Formed (.statement inLoop) (.doWhile span body cond)
  | block {inLoop : Bool} {span : Span} {statements : List Node} :
      (∀ t ∈ statements, Formed (.statement inLoop) t) →
      Formed (.statement inLoop) (.block span statements)
  | breakLoop {span : Span} : Formed (.statement true) (.breakLoop span)
  | continueLoop {span : Span} : Formed (.statement true) (.continueLoop span)
  | returnValue {inLoop : Bool} {span : Span} {value : Option Node} :
      (∀ t ∈ value, Formed .operand t) → Formed (.statement inLoop) (.returnValue span value)
  | annotated {inLoop : Bool} {span : Span} {name : String} {args : List Node}
      {statement : Node} : IsWordName name → (∀ arg ∈ args, Formed .operand arg) →
      Formed (.statement inLoop) statement →
      Formed (.statement inLoop) (.annotated span name args statement)

/-- The trees of whole scripts. -/
inductive Node.FormedScript : Node → Prop
  | intro {span : Span} {body : List Node} {pragmas : List Pragma} :
      (∀ t ∈ body, Formed (.statement false) t) → (∀ p ∈ pragmas, p.IsWritable) →
      FormedScript (.script span body pragmas)

namespace Node

/-- An operand is no statement. -/
theorem Formed.isStatement_eq_false {t : Node} (h : t.Formed .operand) : t.isStatement = false := by
  cases h <;> rfl

/-- What is no statement is no block. -/
theorem isBlock_of_isStatement {t : Node} (h : t.isStatement = false) : t.isBlock = false := by
  cases t <;> first | rfl | cases h

end Node

end ScriptEngine

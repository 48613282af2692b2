import ScriptEngine.Proofs.OperandTexts
import ScriptEngine.Proofs.ReadingExpressions

/-!
# Reading what was written

The canonical text of an expression built from operators, accesses, calls and
collections is read as the same expression, up to places.

* `OperatorTree` — these expressions;
* `OperatorTree.prints` — their text is read as a spelling of them;
* `ofExpression_render` — reading undoes writing.
-/

namespace ScriptEngine

/-- Whether a node is an access to a named member. -/
def Node.isProperty : Node → Bool
  | .property .. => true
  | _ => false

/-- Expressions built, to any depth, from literals, names, operators, assignments,
steps, accesses, calls and collections.  Nothing is accessed or called right after
a step, and what is called is no property: those would be another expression. -/
inductive OperatorTree : Node → Prop
  | literal {span : Span} {value : Literal} : value.IsWritable →
      OperatorTree (.literal span value)
  | ident {span : Span} {name : String} : IsName name → name ≠ "new" →
      name.toList.head? ≠ some '$' → OperatorTree (.ident span name)
  | binary {span : Span} {op : BinaryOp} {left right : Node} : op ≠ .range →
      OperatorTree left → OperatorTree right → OperatorTree (.binary span op left right)
  | range {span : Span} {first last : Node} : OperatorTree first → OperatorTree last →
      OperatorTree (.range span first last)
  | unary {span : Span} {op : UnaryOp} {operand : Node} : OperatorTree operand →
      OperatorTree (.unary span op operand)
  | ternary {span : Span} {cond thenBranch elseBranch : Node} : OperatorTree cond →
      OperatorTree thenBranch → OperatorTree elseBranch →
      OperatorTree (.ternary span cond thenBranch elseBranch)
  | elvis {span : Span} {left right : Node} {coalesce : Bool} : OperatorTree left →
      OperatorTree right → OperatorTree (.elvis span left right coalesce)
  | assign {span : Span} {target value : Node} : target.isAssignable = true →
      OperatorTree target → OperatorTree value → OperatorTree (.assign span target value false)
  | step {span inner place : Span} {op : BinaryOp} {target old : Node} :
      op = .add ∨ op = .sub → target.isAssignable = true → OperatorTree target →
      old.Alike target →
      OperatorTree (.assign span target (.binary inner op old (.literal place (.number 1))) true)
  | property {span : Span} {object : Node} {name : String} : object.isPostfixStep = false →
      IsName name → OperatorTree object → OperatorTree (.property span object name)
  | index {span : Span} {object key : Node} : object.isPostfixStep = false →
      OperatorTree object → OperatorTree key → OperatorTree (.index span object key)
  | methodCall {span : Span} {object : Node} {name : String} {args : List Node} :
      object.isPostfixStep = false → IsName name → OperatorTree object →
      (∀ arg ∈ args, OperatorTree arg) → OperatorTree (.methodCall span object name args)
  | call {span : Span} {callee : Node} {args : List Node} : callee.isPostfixStep = false →
      callee.isProperty = false → OperatorTree callee → (∀ arg ∈ args, OperatorTree arg) →
      OperatorTree (.call span callee args)
  | construct {span : Span} {className : Node} {args : List Node} : OperatorTree className →
      (∀ arg ∈ args, OperatorTree arg) → OperatorTree (.construct span className args)
  | array {span : Span} {items : List Node} : (∀ item ∈ items, OperatorTree item) →
      OperatorTree (.array span items)
  | map {span : Span} {entries : List (Node × Node)} :
      (∀ entry ∈ entries, OperatorTree entry.1) → (∀ entry ∈ entries, OperatorTree entry.2) →
      OperatorTree (.map span entries)
  | set {span : Span} {items : List Node} : items ≠ [] → (∀ item ∈ items, OperatorTree item) →
      OperatorTree (.set span items)

/-- A name that may be called where only `new` may not. -/
theorem OperatorTree.isCallable {t : Node} (h : OperatorTree t) (hproperty : t.isProperty = false) :
    t.isCallable = true := by
  cases h with
  | ident _ hnew => exact decide_eq_true hnew
  | property => cases hproperty
  | _ => rfl

/-- A member with a name that is an identifier is read back, unless it is one of a step. -/
theorem Node.admits_of_isName {object : Node} {name : String}
    (hstep : object.isPostfixStep = false) (hname : IsName name) : object.admits name = true := by
  obtain ⟨⟨c, cs, htext, hstart, -⟩, -⟩ := hname.nameChars
  have hdigit : c.isDigit = false := (startsName_plain hstart).2.1
  unfold admits
  rw [hstep, hname.isMemberText, htext]
  simp [hdigit]

/-- **The text of an operator tree is read as a spelling of it**, and, unless an
operator takes it apart, goes on with no symbol. -/
theorem OperatorTree.prints {L : List Word → Node → Prop} {t : Node} (h : OperatorTree t) :
    PrintsOperand L false t := by
  induction h with
  | literal h => exact .literal h
  | ident h _ hdollar => exact .ident h fun _ => hdollar
  | binary hop _ _ ihleft ihright => exact .binary hop ihleft ihright
  | range _ _ ihfirst ihlast => exact .range ihfirst ihlast
  | unary _ ih => exact .unary ih nofun
  | ternary _ _ _ ihcond ihthen ihelse => exact .ternary ihcond ihthen ihelse
  | elvis _ _ ihleft ihright => exact .elvis _ ihleft ihright
  | assign htarget _ _ ihtarget ihvalue => exact .assign htarget ihtarget ihvalue
  | step hop htarget _ hold ih => exact .step hop htarget ih hold
  | property hstep hname _ ih => exact .property ih (Node.admits_of_isName hstep hname)
  | index hstep _ _ ih ihkey => exact .index hstep ih ihkey
  | methodCall hstep hname _ _ ih ihargs =>
      exact .methodCall (Node.admits_of_isName hstep hname) ih ihargs
  | call hstep hproperty hcallee _ ih ihargs =>
      exact .call hstep (hcallee.isCallable hproperty) ih ihargs
  | construct _ _ ihclass ihargs => exact .construct ihclass ihargs
  | array _ ih => exact .array ih
  | map _ _ ihkeys ihvalues => exact .map ihkeys ihvalues
  | set hne _ ih => exact .set hne ih

/-! ## The round trip -/

/-- **Reading undoes writing.**  The text of an operator tree is read, with the
standard features, as the same tree up to places. -/
theorem ofExpression_render {t : Node} (h : OperatorTree t) (unit : Nat) :
    ∃ read, Node.ofExpression ⟨.standard, unit⟩ (Token.ofSource t.render) = .ok read ∧
      read.Alike t := by
  have hL : Grammar.Lambdas (fun _ _ => False) :=
    ⟨fun _ _ hfalse => hfalse.elim, fun _ _ hfalse => hfalse.elim, fun hfalse => hfalse.elim⟩
  have hprints : Prints (fun _ _ => False) Binding.assignment t.render t :=
    h.prints.1.operand (by decide)
  obtain ⟨ws, hspells, hwrites⟩ := hprints
  have hscan : Scans t.render.toList (ws ++ [Word.final]) := by
    have hwhole := hwrites [] [Word.final] trivial .done
    rwa [List.append_nil] at hwhole
  exact Node.ofExpression_of_spells hL hspells hscan.ofSource unit

/-- The parentheses of `(x + 1) * y.z` are written and read. -/
theorem ofExpression_render_product :
    ∃ read, Node.ofExpression ⟨.standard, 0⟩ (Token.ofSource (Node.render
      (.binary .none .mul (.binary .none .add (.ident .none "x") (.literal .none (.number 1)))
        (.property .none (.ident .none "y") "z")))) = .ok read ∧
      read.Alike (.binary .none .mul
        (.binary .none .add (.ident .none "x") (.literal .none (.number 1)))
        (.property .none (.ident .none "y") "z")) := by
  have hx : OperatorTree (.ident .none "x") := .ident rfl (by decide) (by decide)
  have hy : OperatorTree (.ident .none "y") := .ident rfl (by decide) (by decide)
  have hz : IsName "z" := rfl
  have hone : OperatorTree (.literal .none (.number 1)) := .literal ⟨by decide, 0, by decide⟩
  have hsum : OperatorTree (.binary .none .add (.ident .none "x") (.literal .none (.number 1))) :=
    .binary (by decide) hx hone
  exact ofExpression_render (.binary (by decide) hsum (.property rfl hz hy)) 0

end ScriptEngine

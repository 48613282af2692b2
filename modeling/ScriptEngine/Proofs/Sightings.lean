import ScriptEngine.Grammar.Progress
import ScriptEngine.Proofs.Erasure

/-!
# Trees as two readings see them

Two readings of related sources give the same trees, or the same trees up to places.
`Seen.look` is what is compared: all of a result, or what is left of it when places are
forgotten.  It goes through every form of node.

* `Seen` — what is compared of a result;
* `Node.look_binary`, `Node.look_ternary`, … — one equation for each form of node.
-/

namespace ScriptEngine

/-- **What two readings have in common of a result**: all of it, or what is left when
places are forgotten. -/
class Seen (α : Type) where
  look : (loose : Bool) → α → α

namespace Seen

/-- Results without places. -/
@[reducible]
def plain {α : Type} : Seen α := ⟨fun _ a => a⟩

instance : Seen Unit := plain
instance : Seen Bool := plain
instance : Seen String := plain
instance : Seen (List String) := plain
instance : Seen (String × Span) := plain
instance : Seen Token := plain
instance : Seen Literal := plain
instance : Seen Span := ⟨fun loose span => if loose then .none else span⟩
instance : Seen LambdaId := ⟨fun loose id => if loose then ⟨0, 0⟩ else id⟩
instance : Seen Node := ⟨fun loose node => if loose then node.erase else node⟩
instance : Seen (Option Node) :=
  ⟨fun loose node? => if loose then Node.eraseOption node? else node?⟩
instance : Seen (List Node) := ⟨fun loose nodes => if loose then Node.eraseAll nodes else nodes⟩
instance : Seen (List (Node × Node)) :=
  ⟨fun loose entries => if loose then Node.eraseEntries entries else entries⟩

end Seen

open Seen

namespace Node

variable (loose : Bool) (span : Span)

/-! ## Parts -/

@[simp]
theorem look_none : look loose (none : Option Node) = none := by cases loose <;> rfl

@[simp]
theorem look_some (node : Node) : look loose (some node) = some (look loose node) := by
  cases loose <;> rfl

@[simp]
theorem look_nil : look loose ([] : List Node) = [] := by cases loose <;> rfl

@[simp]
theorem look_cons (node : Node) (rest : List Node) :
    look loose (node :: rest) = look loose node :: look loose rest := by cases loose <;> rfl

@[simp]
theorem look_append (nodes rest : List Node) :
    look loose (nodes ++ rest) = look loose nodes ++ look loose rest := by
  induction nodes with
  | nil => rw [look_nil, List.nil_append, List.nil_append]
  | cons node nodes ih => rw [List.cons_append, look_cons, look_cons, ih, List.cons_append]

@[simp]
theorem look_toList (node? : Option Node) :
    look loose node?.toList = (look loose node?).toList := by
  cases node? <;> simp

@[simp]
theorem look_noEntries : look loose ([] : List (Node × Node)) = [] := by cases loose <;> rfl

@[simp]
theorem look_entry (key value : Node) (rest : List (Node × Node)) :
    look loose ((key, value) :: rest) = (look loose key, look loose value) :: look loose rest := by
  cases loose <;> rfl

/-! ## Forms -/

@[simp]
theorem look_literal (value : Literal) :
    look loose (literal span value) = literal (look loose span) value := by
  cases loose <;> rfl

@[simp]
theorem look_ident (name : String) :
    look loose (ident span name) = ident (look loose span) name := by
  cases loose <;> rfl

@[simp]
theorem look_binary (op : BinaryOp) (left right : Node) :
    look loose (binary span op left right) =
      binary (look loose span) op (look loose left) (look loose right) := by
  cases loose <;> rfl

@[simp]
theorem look_unary (op : UnaryOp) (operand : Node) :
    look loose (unary span op operand) = unary (look loose span) op (look loose operand) := by
  cases loose <;> rfl

@[simp]
theorem look_property (object : Node) (name : String) :
    look loose (property span object name) =
      property (look loose span) (look loose object) name := by
  cases loose <;> rfl

@[simp]
theorem look_index (object key : Node) :
    look loose (index span object key) =
      index (look loose span) (look loose object) (look loose key) := by
  cases loose <;> rfl

@[simp]
theorem look_methodCall (object : Node) (method : String) (args : List Node) :
    look loose (methodCall span object method args) =
      methodCall (look loose span) (look loose object) method (look loose args) := by
  cases loose <;> rfl

@[simp]
theorem look_call (callee : Node) (args : List Node) :
    look loose (call span callee args) =
      call (look loose span) (look loose callee) (look loose args) := by
  cases loose <;> rfl

@[simp]
theorem look_construct (className : Node) (args : List Node) :
    look loose (construct span className args) =
      construct (look loose span) (look loose className) (look loose args) := by
  cases loose <;> rfl

@[simp]
theorem look_assign (target value : Node) (isPostfix : Bool) :
    look loose (assign span target value isPostfix) =
      assign (look loose span) (look loose target) (look loose value) isPostfix := by
  cases loose <;> rfl

@[simp]
theorem look_ternary (cond thenBranch elseBranch : Node) :
    look loose (ternary span cond thenBranch elseBranch) =
      ternary (look loose span) (look loose cond) (look loose thenBranch)
        (look loose elseBranch) := by
  cases loose <;> rfl

@[simp]
theorem look_elvis (left right : Node) (coalesce : Bool) :
    look loose (elvis span left right coalesce) =
      elvis (look loose span) (look loose left) (look loose right) coalesce := by
  cases loose <;> rfl

@[simp]
theorem look_range (first last : Node) :
    look loose (range span first last) =
      range (look loose span) (look loose first) (look loose last) := by
  cases loose <;> rfl

@[simp]
theorem look_array (items : List Node) :
    look loose (array span items) = array (look loose span) (look loose items) := by
  cases loose <;> rfl

@[simp]
theorem look_map (entries : List (Node × Node)) :
    look loose (map span entries) = map (look loose span) (look loose entries) := by
  cases loose <;> rfl

@[simp]
theorem look_set (items : List Node) :
    look loose (set span items) = set (look loose span) (look loose items) := by
  cases loose <;> rfl

@[simp]
theorem look_lambda (id : LambdaId) (params : List String) (body : Node) :
    look loose (lambda span id params body) =
      lambda (look loose span) (look loose id) params (look loose body) := by
  cases loose <;> rfl

@[simp]
theorem look_ifElse (cond thenBranch : Node) (elseBranch : Option Node) :
    look loose (ifElse span cond thenBranch elseBranch) =
      ifElse (look loose span) (look loose cond) (look loose thenBranch)
        (look loose elseBranch) := by
  cases loose <;> rfl

@[simp]
theorem look_forLoop (init cond step : Option Node) (body : Node) :
    look loose (forLoop span init cond step body) =
      forLoop (look loose span) (look loose init) (look loose cond) (look loose step)
        (look loose body) := by
  cases loose <;> rfl

@[simp]
theorem look_foreach (name : String) (declared : Bool) (iterable body : Node) :
    look loose (foreach span name declared iterable body) =
      foreach (look loose span) name declared (look loose iterable) (look loose body) := by
  cases loose <;> rfl

@[simp]
theorem look_whileLoop (cond body : Node) :
    look loose (whileLoop span cond body) =
      whileLoop (look loose span) (look loose cond) (look loose body) := by
  cases loose <;> rfl

@[simp]
theorem look_doWhile (body cond : Node) :
    look loose (doWhile span body cond) =
      doWhile (look loose span) (look loose body) (look loose cond) := by
  cases loose <;> rfl

@[simp]
theorem look_block (statements : List Node) :
    look loose (block span statements) = block (look loose span) (look loose statements) := by
  cases loose <;> rfl

@[simp]
theorem look_breakLoop :
    look loose (breakLoop span) = breakLoop (look loose span) := by
  cases loose <;> rfl

@[simp]
theorem look_continueLoop :
    look loose (continueLoop span) = continueLoop (look loose span) := by
  cases loose <;> rfl

@[simp]
theorem look_returnValue (value : Option Node) :
    look loose (returnValue span value) = returnValue (look loose span) (look loose value) := by
  cases loose <;> rfl

@[simp]
theorem look_var (name : String) (init : Option Node) :
    look loose (var span name init) = var (look loose span) name (look loose init) := by
  cases loose <;> rfl

@[simp]
theorem look_annotated (name : String) (args : List Node) (statement : Node) :
    look loose (annotated span name args statement) =
      annotated (look loose span) name (look loose args) (look loose statement) := by
  cases loose <;> rfl

@[simp]
theorem look_script (body : List Node) (pragmas : List Pragma) :
    look loose (script span body pragmas) =
      script (look loose span) (look loose body) pragmas := by
  cases loose <;> rfl

end Node

end ScriptEngine

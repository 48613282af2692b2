import ScriptEngine.Evaluation.Node
import ScriptEngine.Proofs.Containment
import ScriptEngine.Proofs.Places
import ScriptEngine.Proofs.RelaxedArithmetic

/-!
# Evaluations side by side

Much of what is proved about evaluations has the same shape: two evaluators are
run side by side, or one and the same is, and a relation between the steps of both
is kept by everything that nodes are made of.  Which relation that is differs from
proof to proof.  A `Coupling` is any such relation.  What every form of node keeps
is shown for couplings, once; a proof about evaluations has only to show that its
relation is one.

* `Discipline` — which code may stand inside a loop and which may not;
* `Members.Does` — what evaluations do to the store;
* `Coupling` — a relation between steps that their combinations keep;
* `Coupling.rel_binary`, `Coupling.rel_readIndex`, … — operators and members.
-/

namespace ScriptEngine

/-! ## Disciplines -/

/-- Whether a form of node writes to the store itself, or runs code that may. -/
def Node.writes : Node → Bool
  | assign .. | var .. | methodCall .. | construct .. => true
  | foreach _ _ declared _ _ => declared
  | _ => false

/-- A territory with a discipline about loops and writing: which code may stand inside a
loop of its function and which outside, from where a loop may be left, and whether the
store is written to. -/
structure Discipline extends Territory where
  code : (inLoop : Bool) → Node → Prop
  exits : (inLoop : Bool) → Prop
  code_place : ∀ {inLoop inside : Bool} {node part : Node}, code inLoop node →
    (inside, part) ∈ node.places inLoop → code inside part
  /-- The body of a function stands outside of all loops. -/
  code_body : ∀ {body : Node}, functions body → code false body
  functions_lambda : ∀ {inLoop : Bool} {span : Span} {id : LambdaId} {params : List String}
    {body : Node}, code inLoop (.lambda span id params body) → functions body
  code_break : ∀ {inLoop : Bool} {span : Span}, code inLoop (.breakLoop span) → exits inLoop
  code_continue : ∀ {inLoop : Bool} {span : Span}, code inLoop (.continueLoop span) → exits inLoop
  /-- An exit that reaches the end of a function is a failure of it. -/
  exits_cause : ∀ {signal : Signal} {e : EvalError}, exits false →
    signal = .breakLoop ∨ signal = .continueLoop → signal.toError? = some e → causes e.cause
  /-- What an assignment goes to can be assigned to, or failing is no matter. -/
  code_target : ∀ {inLoop : Bool} {span : Span} {target value : Node} {isPostfix : Bool},
    code inLoop (.assign span target value isPostfix) →
    target.isAssignable = true ∨ causes (.invalidAssignment target.render)
  cancelled : causes .cancelled
  /-- Whether the steps granted may be used up. -/
  exhausts : Prop := True
  /-- They are used up by open-ended loops. -/
  code_openEnded : ∀ {inLoop : Bool} {node : Node}, code inLoop node →
    node.isOpenEnded = true → exhausts := by intros; trivial
  /-- Whether there is code that writes. -/
  writes : Prop := True
  code_writes : ∀ {inLoop : Bool} {node : Node}, code inLoop node → node.writes = true →
    writes := by intros; trivial
  /-- The variables of loops that do not declare them. -/
  loopVariables : String → Prop := fun _ => True
  code_foreach : ∀ {inLoop : Bool} {span : Span} {name : String} {iterable body : Node},
    code inLoop (.foreach span name false iterable body) → loopVariables name := by
      intros; trivial

/-- The ends of a step that a discipline permits. -/
def Discipline.Permits (t : Discipline) (inLoop : Bool) : Signal → Prop
  | .error e => t.causes e.cause
  | .breakLoop | .continueLoop => t.exits inLoop
  | .returned value => t.Holds value
  | .exhausted => t.exhausts

/-- A signal that is no error with a place: places are found on the way up. -/
def Signal.Unplaced : Signal → Prop
  | .error e => e.span = none
  | _ => True

/-! ## Actions of an evaluation -/

/-- **What evaluations do to the store**: look at it, make new arrays, maps and frames, read
members, and, where there is code that writes, write variables and members and call methods
and constructors. -/
inductive Members.Does (m : Members) (writes : Prop) : {α : Type} → Action α → Prop
  | look {α : Type} (f : Store → α) : Does m writes fun s => .ok (f s) s
  | newArray (items : Array Value) :
      Does m writes fun s => .ok (Value.array (s.newArray items).1) (s.newArray items).2
  | newMap (entries : OrderedMap Value) :
      Does m writes fun s => .ok (Value.map (s.newMap entries).1) (s.newMap entries).2
  | newFrame (bindings : OrderedMap Value) (parent : ContextRef) (captured : Option ContextRef) :
      Does m writes fun s => .ok (s.newContext (.frame bindings parent captured)).1
        (s.newContext (.frame bindings parent captured)).2
  | readProperty (base : Value) (name : String) : Does m writes (m.readProperty base name)
  | declare (ctx : ContextRef) (name : String) (value : Value) :
      writes → Does m writes (ctx.declare m name value)
  | assign (ctx : ContextRef) (name : String) (value : Value) :
      writes → Does m writes (ctx.assign m name value)
  | writeProperty (base : Value) (name : String) (value : Value) :
      writes → Does m writes (do m.writeProperty base name value; return Value.nil)
  | method (found : Method) (base : Value) (args : List Value) :
      writes → Does m writes (found.run m.embedder base args)
  | construct (name : String) (args : List Value) : writes → Does m writes (m.construct name args)

/-! ## Couplings -/

/-- Scalars belong to every territory. -/
theorem Territory.holds_of_scalar {t : Territory} {v : Value} (h : Arithmetic.Scalar v) :
    t.Holds v := by
  cases v with
  | nil => exact .nil
  | bool b => exact .bool b
  | number x => exact .number x
  | text x => exact .text x
  | _ => cases h

open Eval in
/-- **A relation between steps that their combinations keep.**  `rel inLoop holds`
relates two steps that stand inside a loop or not, and whose results satisfy
`holds`; `options` relates the options under which they run. -/
structure Coupling (t : Discipline) (rules rules' : Semantics) where
  rel : {α : Type} → (inLoop : Bool) → (holds : α → Prop) → (step step' : Eval α) → Prop
  options : Options → Options → Prop
  relaxes : rules.Relaxes rules'
  contains : t.writes → t.Contains rules.members.embedder
  rel_pure : ∀ {α : Type} {inLoop : Bool} {holds : α → Prop} {a : α}, holds a →
    rel inLoop holds (pure a) (pure a)
  rel_bind : ∀ {α β : Type} {inLoop : Bool} {holds : α → Prop} {holds' : β → Prop}
    {step step' : Eval α} {next next' : α → Eval β}, rel inLoop holds step step' →
    (∀ a, holds a → rel inLoop holds' (next a) (next' a)) →
    rel inLoop holds' (step >>= next) (step' >>= next')
  rel_throw : ∀ {α : Type} {inLoop : Bool} {holds : α → Prop} {signal : Signal},
    t.Permits inLoop signal → signal.Unplaced → rel inLoop holds (throw signal) (throw signal)
  rel_act : ∀ {α : Type} {inLoop : Bool} {holds : α → Prop} {action : Action α},
    rules.members.Does t.writes action → t.Keeps holds action →
    rel inLoop holds (act action) (act action)
  /-- A loop over a value may assign its variable where nothing else is written. -/
  rel_assign : ∀ {inLoop : Bool} {ctx : ContextRef} {name : String} {value : Value},
    t.loopVariables name → t.contexts ctx → t.Holds value →
    rel inLoop (fun _ => True) (act (ctx.assign rules.members name value))
      (act (ctx.assign rules.members name value))
  /-- Operators may be relaxed ones on the second side, if the rules are. -/
  rel_compute : ∀ {α : Type} {inLoop : Bool} {holds : α → Prop}
    {f f' : Store → Except EvalError α}, (∀ s, Arithmetic.Kept holds (f s) (f' s)) →
    (rules = rules' → f = f') → rel inLoop holds (compute f) (compute f')
  rel_resolve : ∀ {inLoop : Bool} {action : Action Value}, rules.members.Does t.writes action →
    t.Keeps t.Holds action → rel inLoop t.Holds (resolve action) (resolve action)
  rel_unresolved : ∀ {inLoop : Bool} {e : EvalError}, t.causes e.cause → e.span = none →
    rel inLoop t.Holds (unresolved e) (unresolved e)
  rel_memberOfNil : ∀ {inLoop : Bool} (name : String),
    rel inLoop t.Holds (memberOfNil name) (memberOfNil name)
  /-- A call of nil. -/
  rel_callNil : ∀ {inLoop : Bool}, rel inLoop t.Holds
    (do if (← Eval.options).strict then fail (.notCallable "null") else return .nil)
    (do if (← Eval.options).strict then fail (.notCallable "null") else return .nil)
  rel_relational : ∀ {inLoop : Bool} (op : BinaryOp) (left right : Value),
    rel inLoop t.Holds (relational op left right) (relational op left right)
  rel_options : ∀ {α : Type} {inLoop : Bool} {holds : α → Prop} {next next' : Options → Eval α},
    (∀ o o', options o o' → rel inLoop holds (next o) (next' o')) →
    rel inLoop holds (Eval.options >>= next) (Eval.options >>= next')
  rel_withOptions : ∀ {α : Type} {inLoop : Bool} {holds : α → Prop} {inner inner' : Options}
    {step step' : Eval α}, options inner inner' → rel inLoop holds step step' →
    rel inLoop holds (withOptions inner step) (withOptions inner' step')
  options_lenient : ∀ {o o' : Options}, options o o' → options o.lenient o'.lenient
  options_strict : ∀ {o o' : Options} (flag : Bool), options o o' →
    options { o with strict := flag } { o' with strict := flag }
  options_safe : ∀ {o o' : Options} (flag : Bool), options o o' →
    options { o with safe := flag } { o' with safe := flag }
  rel_atFunctionEnd : ∀ {inLoop : Bool} {body body' : Eval Value}, rel false t.Holds body body' →
    rel inLoop t.Holds (atFunctionEnd body) (atFunctionEnd body')
  rel_round : ∀ {inLoop : Bool} {body body' : Eval Value} {last : Value},
    rel true t.Holds body body' → t.Holds last →
    rel inLoop (fun outcome : Bool × Value => t.Holds outcome.2) (round body last)
      (round body' last)
  rel_silently : ∀ {inLoop : Bool} {span : Span} {args : List Node} {statement : Node}
    {step step' : Eval Value}, t.code inLoop (.annotated span "silent" args statement) →
    rel inLoop t.Holds step step' → rel inLoop t.Holds (silently step) (silently step')

namespace Coupling

open Eval

variable {t : Discipline} {rules rules' : Semantics} (c : Coupling t rules rules')
variable {α β : Type} {inLoop : Bool} {holds : α → Prop} {holds' : β → Prop}

/-! ## Steps -/

/-- Looking at the store. -/
theorem rel_look {f : Store → α} (h : ∀ s, t.Closed s → holds (f s)) :
    c.rel inLoop holds (look f) (look f) := by
  have hact : t.Keeps holds (fun s => .ok (f s) s) := fun s hs => ⟨h s hs, hs⟩
  exact c.rel_act (.look f) hact

/-- Failing as operators and members do. -/
theorem rel_fail {cause : EvalError.Cause} (h : cause.isReserved = false) :
    c.rel inLoop holds (fail cause) (fail cause) :=
  c.rel_throw (t.ordinary h) rfl

/-- What is known of a result may be forgotten. -/
theorem rel_imp {weaker : α → Prop} {step step' : Eval α} (h : c.rel inLoop holds step step')
    (himp : ∀ a, holds a → weaker a) : c.rel inLoop weaker step step' := by
  have hbind := c.rel_bind h fun a ha => c.rel_pure (himp a ha)
  rwa [bind_pure, bind_pure] at hbind

theorem rel_newArray {items : Array Value} (h : ∀ v ∈ items, t.Holds v) :
    c.rel inLoop t.Holds (newArray items) (newArray items) := by
  have hact : t.Keeps t.Holds (fun s => .ok (.array (s.newArray items).1) (s.newArray items).2) :=
    fun s hs => ⟨.array (hs.newArray h).1, (hs.newArray h).2⟩
  exact c.rel_act (.newArray items) hact

theorem rel_newMap {entries : OrderedMap Value} (h : ∀ v ∈ entries.values, t.Holds v) :
    c.rel inLoop t.Holds (newMap entries) (newMap entries) := by
  have hact : t.Keeps t.Holds (fun s => .ok (.map (s.newMap entries).1) (s.newMap entries).2) :=
    fun s hs => ⟨.map (hs.newMap h).1, (hs.newMap h).2⟩
  exact c.rel_act (.newMap entries) hact

theorem rel_truth (value : Value) :
    c.rel inLoop (fun _ => True) (truth value) (truth value) :=
  c.rel_look fun _ _ => trivial

theorem rel_leniently {step step' : Eval α} (h : c.rel inLoop holds step step') :
    c.rel inLoop holds (leniently step) (leniently step') :=
  c.rel_options fun _ _ ho => c.rel_withOptions (c.options_lenient ho) h

/-- A run that has been cancelled is stopped. -/
theorem rel_poll (ctx : ContextRef) : c.rel inLoop (fun _ => True) (poll ctx) (poll ctx) := by
  refine c.rel_bind (c.rel_look fun _ _ => trivial) fun cancelled (_ : True) => ?_
  split
  · exact c.rel_throw t.cancelled rfl
  · exact c.rel_pure trivial

/-! ## Operators -/

/-- An operator that yields a scalar. -/
theorem rel_scalar {f f' : Store → Except EvalError Value}
    (h : ∀ s, Arithmetic.Kept Arithmetic.Scalar (f s) (f' s))
    (hsame : rules = rules' → f = f' := by rintro rfl; rfl) :
    c.rel inLoop t.Holds (compute f) (compute f') :=
  c.rel_imp (c.rel_compute h hsame) fun _ => Territory.holds_of_scalar

/-- A test of the store that does not depend on the rules, or that relaxed ones keep. -/
theorem rel_predicate (expected : Bool) {test test' : Store → Except EvalError Bool}
    (h : ∀ s, Arithmetic.Kept Arithmetic.Any (test s) (test' s))
    (hsame : rules = rules' → test = test' := by rintro rfl; rfl) :
    c.rel inLoop t.Holds (predicate expected test) (predicate expected test') :=
  c.rel_scalar (fun s => Arithmetic.kept_map (h s) fun _ => rfl) fun heq => by rw [hsame heq]

/-- The items of a range are numbers. -/
theorem holds_of_mem_range {x y : Number} {items : Array Value}
    (h : Arithmetic.range x y = .ok items) : ∀ v ∈ items, t.Holds v := by
  intro v hv
  unfold Arithmetic.range at h
  split at h
  · split at h
    · cases h
      obtain ⟨i, -, rfl⟩ := Array.mem_map.mp hv
      exact .number _
    · cases h
  · cases h

/-- The range from one value to another. -/
theorem rel_range (first last : Value) :
    c.rel inLoop t.Holds (range rules first last) (range rules' first last) := by
  have hitems : c.rel inLoop (fun items : Array Value => ∀ v ∈ items, t.Holds v)
      (compute fun s => do
        let x ← rules.arithmetic.toNumber s first
        let y ← rules.arithmetic.toNumber s last
        Arithmetic.range x y)
      (compute fun s => do
        let x ← rules'.arithmetic.toNumber s first
        let y ← rules'.arithmetic.toNumber s last
        Arithmetic.range x y) := by
    refine c.rel_compute (fun s => ?_) (by rintro rfl; rfl)
    refine Arithmetic.kept_bind (c.relaxes.arithmetic.toNumber s first) fun x _ => ?_
    refine Arithmetic.kept_bind (c.relaxes.arithmetic.toNumber s last) fun y _ => ?_
    have hkept := Arithmetic.kept_range x y
    cases hresult : Arithmetic.range x y with
    | ok items => exact Arithmetic.kept_ok (holds_of_mem_range hresult)
    | error e =>
        rw [hresult] at hkept
        exact hkept
  exact c.rel_bind hitems fun items h => c.rel_newArray h

/-- Binary operators. -/
theorem rel_binary (op : BinaryOp) (left right : Value) :
    c.rel inLoop t.Holds (binary rules op left right) (binary rules' op left right) := by
  have ha := c.relaxes.arithmetic
  cases op with
  | add => exact c.rel_scalar fun s => ha.add s left right
  | sub => exact c.rel_scalar fun s => ha.subtract s left right
  | mul => exact c.rel_scalar fun s => ha.multiply s left right
  | div => exact c.rel_scalar fun s => ha.divide s left right
  | mod => exact c.rel_scalar fun s => ha.modulo s left right
  | eq | notEq => exact c.rel_predicate _ fun s => Arithmetic.kept_ok trivial
  | lt | ltEq | gt | gtEq => exact c.rel_relational _ left right
  | and | or => exact c.rel_predicate _ fun s => Arithmetic.kept_ok trivial
  | bitAnd | bitOr | bitXor => exact c.rel_scalar fun s => ha.bitwise s _ _ _ left right
  | shl | shr | ushr => exact c.rel_scalar fun s => ha.shift s _ _ left right
  | within | notWithin =>
      exact c.rel_predicate _ fun s => Arithmetic.kept_contains s right left
  | startsWith | notStartsWith => exact c.rel_predicate _ fun s => ha.startsWith s left right
  | endsWith | notEndsWith => exact c.rel_predicate _ fun s => ha.endsWith s left right
  | range => exact c.rel_range left right

/-- Unary operators. -/
theorem rel_unary (op : UnaryOp) (operand : Value) :
    c.rel inLoop t.Holds (unary rules op operand) (unary rules' op operand) := by
  have ha := c.relaxes.arithmetic
  have hplus : c.rel inLoop t.Holds
      (compute fun s => (rules.arithmetic.toNumber s operand).map .number)
      (compute fun s => (rules'.arithmetic.toNumber s operand).map .number) :=
    c.rel_scalar fun s => Arithmetic.kept_map (ha.toNumber s operand) fun _ => rfl
  cases op with
  | neg => exact c.rel_scalar fun s => ha.negate s operand
  | plus =>
      cases operand with
      | bool value => exact c.rel_pure (.bool value)
      | _ => exact hplus
  | not | empty => exact c.rel_predicate _ fun s => Arithmetic.kept_ok trivial
  | bitNot => exact c.rel_scalar fun s => ha.bitComplement s operand
  | size =>
      have hsize := fun s => Arithmetic.kept_size s operand
      exact c.rel_scalar fun s => Arithmetic.kept_map (hsize s) fun _ => rfl

/-! ## Members -/

/-- Reading a property by name. -/
theorem rel_readMember {base : Value} (name : String) (h : t.Holds base) :
    c.rel inLoop t.Holds (readMember rules base name) (readMember rules' base name) := by
  unfold readMember
  rw [c.relaxes.members]
  split
  · exact c.rel_memberOfNil name
  · exact c.rel_resolve (.readProperty base name) (Territory.keeps_readProperty _ name h)

/-- A key that is no index of an array. -/
theorem rel_indexFault (key : Value) (length : Nat) :
    c.rel inLoop t.Holds (indexFault key length) (indexFault key length) :=
  c.rel_bind (c.rel_look fun _ _ => trivial) fun _ (_ : True) =>
    c.rel_unresolved (t.ordinary rfl) rfl

/-- Reading a property by key. -/
theorem rel_readIndex {base : Value} (key : Value) (h : t.Holds base) :
    c.rel inLoop t.Holds (readIndex rules base key) (readIndex rules' base key) := by
  unfold readIndex
  split
  · exact c.rel_bind (c.rel_look fun _ _ => trivial) fun _ (_ : True) => c.rel_memberOfNil _
  · refine c.rel_bind (c.rel_look fun _ _ => trivial) fun bad (_ : True) => ?_
    split
    · exact c.rel_indexFault _ _
    · exact c.rel_bind (c.rel_look fun _ _ => trivial) fun name (_ : True) =>
        c.rel_readMember name h

/-- Writing a property by name. -/
theorem rel_writeMember (hwrites : t.writes) {base value : Value} (name : String)
    (h : t.Holds base) (hvalue : t.Holds value) :
    c.rel inLoop (fun _ => True) (writeMember rules base name value)
      (writeMember rules' base name value) := by
  unfold writeMember
  rw [c.relaxes.members]
  split
  · exact c.rel_bind (c.rel_memberOfNil name) fun _ _ => c.rel_pure trivial
  · refine c.rel_bind (c.rel_resolve (.writeProperty base name value hwrites) ?_) fun _ _ =>
      c.rel_pure trivial
    have hkeeps := (c.contains hwrites).keeps_writeProperty name h hvalue
    exact Territory.keeps_bind hkeeps fun _ _ => Territory.keeps_pure .nil

/-- Writing a property by key. -/
theorem rel_writeIndex (hwrites : t.writes) {base value : Value} (key : Value)
    (h : t.Holds base) (hvalue : t.Holds value) :
    c.rel inLoop (fun _ => True) (writeIndex rules base key value)
      (writeIndex rules' base key value) := by
  refine c.rel_bind (c.rel_look fun _ _ => trivial) fun bad (_ : True) => ?_
  split
  · exact c.rel_bind (c.rel_indexFault _ _) fun _ _ => c.rel_pure trivial
  · exact c.rel_bind (c.rel_look fun _ _ => trivial) fun name (_ : True) =>
      c.rel_writeMember hwrites name h hvalue

end Coupling

end ScriptEngine

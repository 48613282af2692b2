import ScriptEngine.Proofs.Coupling

/-!
# Nodes side by side

Every form of node keeps a coupling of the evaluators for its parts.  The body of
a loop stands inside of a loop, the body of a function outside of all.

* `Coupling.Couples`, `Coupling.CouplesAt` — two evaluators with coupled answers,
  everywhere or in one context;
* `Coupling.rel_callFunction`, `Coupling.rel_rounds`, … — the forms of nodes;
* `Coupling.rel_node` — every form of node.
-/

namespace ScriptEngine.Coupling

open Eval

variable {t : Discipline} {rules rules' : Semantics} (c : Coupling t rules rules')

/-- Evaluators whose answers for code of the discipline are coupled, in contexts of
its territory. -/
def Couples (ev ev' : Evaluator) : Prop :=
  ∀ {inLoop : Bool} (node : Node) (ctx : ContextRef), t.code inLoop node → t.contexts ctx →
    c.rel inLoop t.Holds (ev node ctx) (ev' node ctx)

/-- Evaluators that are coupled in one context: their answers for code of the
discipline are, and their calls of functions of its territory. -/
structure CouplesAt (ev ev' : Evaluator) (ctx : ContextRef) : Prop where
  context : t.contexts ctx
  part : ∀ {inLoop : Bool} (node : Node), t.code inLoop node →
    c.rel inLoop t.Holds (ev node ctx) (ev' node ctx)
  call : ∀ {inLoop : Bool} {closure : Closure Value} {args : List Value},
    t.Holds (.function closure) → (∀ v ∈ args, t.Holds v) →
    c.rel inLoop t.Holds (callFunction ev closure args ctx) (callFunction ev' closure args ctx)

variable {α β : Type} {inLoop : Bool} {ev ev' : Evaluator} {ctx : ContextRef}

/-! ## Expressions -/

/-- Steps for the items of a list, one after the other. -/
theorem rel_mapM {γ : Type} {holds : β → Prop} {step step' : γ → Eval β} :
    ∀ {items : List γ}, (∀ x ∈ items, c.rel inLoop holds (step x) (step' x)) →
      c.rel inLoop (fun made : List β => ∀ y ∈ made, holds y) (items.mapM step) (items.mapM step')
  | [], _ => by
      rw [List.mapM_nil, List.mapM_nil]
      exact c.rel_pure (by simp)
  | x :: rest, h => by
      rw [List.mapM_cons, List.mapM_cons]
      refine c.rel_bind (h x (List.mem_cons_self ..)) fun y hy => ?_
      have hrest := rel_mapM fun z hz => h z (List.mem_cons_of_mem _ hz)
      refine c.rel_bind hrest fun made hmade => c.rel_pure fun z hz => ?_
      rcases List.mem_cons.mp hz with rfl | hz
      · exact hy
      · exact hmade z hz

section Parts

variable (hev : c.CouplesAt ev ev' ctx)

include hev

theorem rel_all {nodes : List Node} (h : ∀ node ∈ nodes, t.code inLoop node) :
    c.rel inLoop (fun made : List Value => ∀ v ∈ made, t.Holds v) (all ev nodes ctx)
      (all ev' nodes ctx) :=
  c.rel_mapM fun node hnode => hev.part node (h node hnode)

theorem rel_shortCircuit (deciding : Bool) {left right : Node} (hleft : t.code inLoop left)
    (hright : t.code inLoop right) :
    c.rel inLoop t.Holds (shortCircuit ev deciding left right ctx)
      (shortCircuit ev' deciding left right ctx) := by
  refine c.rel_bind (hev.part left hleft) fun x _ => ?_
  refine c.rel_bind (c.rel_truth x) fun b _ => ?_
  split
  · exact c.rel_pure (.bool _)
  · refine c.rel_bind (hev.part right hright) fun y _ => ?_
    exact c.rel_bind (c.rel_truth y) fun b _ => c.rel_pure (.bool b)

theorem rel_binaryNode (op : BinaryOp) {left right : Node}
    (hleft : t.code inLoop left) (hright : t.code inLoop right) :
    c.rel inLoop t.Holds (binaryNode rules ev op left right ctx)
      (binaryNode rules' ev' op left right ctx) := by
  unfold binaryNode
  split
  · exact c.rel_shortCircuit hev false hleft hright
  · exact c.rel_shortCircuit hev true hleft hright
  · refine c.rel_bind (hev.part left hleft) fun x _ => ?_
    exact c.rel_bind (hev.part right hright) fun y _ => c.rel_binary op x y

theorem rel_unaryNode (op : UnaryOp) {operand : Node}
    (h : t.code inLoop operand) :
    c.rel inLoop t.Holds (unaryNode rules ev op operand ctx)
      (unaryNode rules' ev' op operand ctx) := by
  have hoperand := hev.part operand h
  have hrest : ∀ value, t.Holds value →
      c.rel inLoop t.Holds (unary rules op value) (unary rules' op value) :=
    fun value _ => c.rel_unary op value
  unfold unaryNode
  split
  · exact c.rel_bind (c.rel_leniently hoperand) hrest
  · exact c.rel_bind (c.rel_leniently hoperand) hrest
  · exact c.rel_bind hoperand hrest

theorem rel_choice {cond thenBranch elseBranch : Node} (hcond : t.code inLoop cond)
    (hthen : t.code inLoop thenBranch) (helse : t.code inLoop elseBranch) :
    c.rel inLoop t.Holds (choice ev cond thenBranch elseBranch ctx)
      (choice ev' cond thenBranch elseBranch ctx) := by
  refine c.rel_bind (hev.part cond hcond) fun x _ => ?_
  refine c.rel_bind (c.rel_truth x) fun b _ => ?_
  split
  · exact hev.part thenBranch hthen
  · exact hev.part elseBranch helse

theorem rel_fallback {left right : Node} (hleft : t.code inLoop left)
    (hright : t.code inLoop right) :
    c.rel inLoop t.Holds (fallback ev left right ctx) (fallback ev' left right ctx) := by
  refine c.rel_bind (c.rel_leniently (hev.part left hleft)) fun value hvalue => ?_
  split
  · exact hev.part right hright
  · exact c.rel_pure hvalue

/-- The entries made so far and those still to be made. -/
theorem rel_entries : ∀ {nodes : List (Node × Node)} {made : OrderedMap Value},
    (∀ entry ∈ nodes, t.code inLoop entry.1 ∧ t.code inLoop entry.2) →
    (∀ v ∈ made.values, t.Holds v) →
      c.rel inLoop (fun m : OrderedMap Value => ∀ v ∈ m.values, t.Holds v)
        (entries ev ctx nodes made) (entries ev' ctx nodes made)
  | [], _, _, hmade => c.rel_pure hmade
  | (key, value) :: rest, made, h, hmade => by
      obtain ⟨hkey, hvalue⟩ := h _ (List.mem_cons_self ..)
      refine c.rel_bind (hev.part key hkey) fun k _ => ?_
      refine c.rel_bind (c.rel_look fun _ _ => trivial) fun name (_ : True) => ?_
      refine c.rel_bind (hev.part value hvalue) fun v hv => ?_
      refine rel_entries (fun entry hentry => h entry (List.mem_cons_of_mem _ hentry)) ?_
      intro w hw
      rcases OrderedMap.mem_values_insert hw with rfl | hw
      · exact hv
      · exact hmade w hw

/-- The items made so far and those still to be made. -/
theorem rel_distinct : ∀ {nodes : List Node} {made : List Value},
    (∀ node ∈ nodes, t.code inLoop node) → (∀ v ∈ made, t.Holds v) →
      c.rel inLoop (fun items : List Value => ∀ v ∈ items, t.Holds v)
        (distinct ev ctx nodes made) (distinct ev' ctx nodes made)
  | [], _, _, hmade => c.rel_pure hmade
  | node :: rest, made, h, hmade => by
      have hnode := hev.part node (h node (List.mem_cons_self ..))
      refine c.rel_bind hnode fun value hvalue => ?_
      refine c.rel_bind (c.rel_look fun _ _ => trivial) fun known (_ : True) => ?_
      refine rel_distinct (fun other hother => h other (List.mem_cons_of_mem _ hother)) ?_
      intro w hw
      split at hw
      · exact hmade w hw
      · rcases List.mem_cons.mp hw with rfl | hw
        · exact hvalue
        · exact hmade w hw

end Parts

theorem rel_variableValue (hctx : t.contexts ctx) (name : String) :
    c.rel inLoop t.Holds (variableValue rules name ctx) (variableValue rules' name ctx) := by
  unfold variableValue
  rw [c.relaxes.members]
  have hlook : c.rel inLoop (fun found : Option Value => ∀ v, found = some v → t.Holds v)
      (look fun s => ctx.lookup rules.members s name)
      (look fun s => ctx.lookup rules.members s name) :=
    c.rel_look fun s hs v hv => Territory.holds_lookup hs hctx hv
  refine c.rel_bind hlook fun found hfound => ?_
  split
  · exact c.rel_pure (hfound _ rfl)
  · exact c.rel_unresolved (t.ordinary rfl) rfl

/-! ## Calls -/

/-- The body of a function runs in a new frame of the territory. -/
theorem rel_callFunction (hev : c.Couples ev ev') (hctx : t.contexts ctx)
    {closure : Closure Value} {args : List Value} (h : t.Holds (.function closure))
    (hargs : ∀ v ∈ args, t.Holds v) :
    c.rel inLoop t.Holds (callFunction ev closure args ctx)
      (callFunction ev' closure args ctx) := by
  refine c.rel_bind (c.rel_poll ctx) fun _ _ => ?_
  have hvalues := fun v hv => h.arguments hargs v (OrderedMap.mem_values_ofList hv)
  have hlinks : ∀ c ∈ ctx :: closure.captured.toList, t.contexts c := by
    intro c hc
    rcases List.mem_cons.mp hc with rfl | hc
    · exact hctx
    · exact h.captured c (Option.mem_toList.mp hc)
  have hdoes : rules.members.Does t.writes fun s => .ok (s.newContext _).1 (s.newContext _).2 :=
    .newFrame (.ofList (closure.arguments args)) ctx closure.captured
  refine c.rel_bind (c.rel_act hdoes fun s hs => hs.newContext hvalues hlinks)
    fun frame hframe => ?_
  exact c.rel_atFunctionEnd (hev _ frame (t.code_body h.body) hframe)

variable {c} in
/-- Evaluators that are coupled everywhere are coupled in every context. -/
theorem CouplesAt.inContext (hev : c.Couples ev ev') (hctx : t.contexts ctx) :
    c.CouplesAt ev ev' ctx where
  context := hctx
  part node hnode := hev node ctx hnode hctx
  call := c.rel_callFunction hev hctx

section Parts

variable (hev : c.CouplesAt ev ev' ctx)

include hev

theorem rel_callNode {callee : Node} {args : List Node} (hcallee : t.code inLoop callee)
    (hargs : ∀ node ∈ args, t.code inLoop node) :
    c.rel inLoop t.Holds (callNode ev callee args ctx) (callNode ev' callee args ctx) := by
  refine c.rel_bind (hev.part callee hcallee) fun function hfunction => ?_
  refine c.rel_bind (c.rel_all hev hargs) fun values hvalues => ?_
  split
  · exact hev.call hfunction hvalues
  · exact c.rel_callNil
  · exact c.rel_bind (c.rel_look fun _ _ => trivial) fun _ (_ : True) => c.rel_fail rfl

omit hev in
/-- The functions that a map of a territory holds belong to it. -/
theorem rel_functionEntry {base : Value} (name : String) (h : t.Holds base) :
    c.rel inLoop (fun found : Option (Closure Value) => ∀ c, found = some c → t.Holds (.function c))
      (look fun s => functionEntry? s base name) (look fun s => functionEntry? s base name) := by
  refine c.rel_look fun s hs c hc => ?_
  unfold functionEntry? at hc
  split at hc
  · split at hc
    · rename_i hfind
      cases hc
      exact hs.entries h.maps _ (OrderedMap.mem_values_of_find hfind)
    · cases hc
  · cases hc

theorem rel_callMethod (hwrites : t.writes) {base : Value} {args : List Value} (method : String)
    (h : t.Holds base) (hargs : ∀ v ∈ args, t.Holds v) :
    c.rel inLoop t.Holds (callMethod rules ev base method args ctx)
      (callMethod rules' ev' base method args ctx) := by
  unfold callMethod
  split
  · exact hev.call h hargs
  · rw [c.relaxes.members]
    refine c.rel_bind (c.rel_look fun _ _ => trivial) fun found (_ : True) => ?_
    split
    · exact c.rel_resolve (.method _ base args hwrites)
        ((c.contains hwrites).keeps_method _ h hargs)
    · refine c.rel_bind (c.rel_functionEntry method h) fun found hfound => ?_
      split
      · exact hev.call (hfound _ rfl) hargs
      · exact c.rel_bind (c.rel_look fun _ _ => trivial) fun _ (_ : True) =>
          c.rel_unresolved (t.ordinary rfl) rfl

theorem rel_methodNode (hwrites : t.writes) {object : Node} {args : List Node} (method : String)
    (hobject : t.code inLoop object) (hargs : ∀ node ∈ args, t.code inLoop node) :
    c.rel inLoop t.Holds (methodNode rules ev object method args ctx)
      (methodNode rules' ev' object method args ctx) := by
  refine c.rel_bind (hev.part object hobject) fun base hbase => ?_
  refine c.rel_bind (c.rel_all hev hargs) fun values hvalues => ?_
  split
  · exact c.rel_memberOfNil method
  · exact c.rel_callMethod hev hwrites method hbase hvalues

theorem rel_constructNode (hwrites : t.writes) {className : Node} {args : List Node}
    (hclass : t.code inLoop className) (hargs : ∀ node ∈ args, t.code inLoop node) :
    c.rel inLoop t.Holds (constructNode rules ev className args ctx)
      (constructNode rules' ev' className args ctx) := by
  unfold constructNode
  rw [c.relaxes.members]
  refine c.rel_bind (hev.part className hclass) fun name _ => ?_
  refine c.rel_bind (c.rel_all hev hargs) fun values hvalues => ?_
  refine c.rel_bind (c.rel_look fun _ _ => trivial) fun name (_ : True) => ?_
  exact c.rel_act (.construct name values hwrites)
    ((c.contains hwrites).keeps_construct name hvalues)

/-! ## Assignment -/

theorem rel_assignTo (hwrites : t.writes) {target : Node} {value : Value}
    (htarget : t.code inLoop target)
    (hassign : target.isAssignable = true ∨ t.causes (.invalidAssignment target.render))
    (hvalue : t.Holds value) :
    c.rel inLoop (fun _ => True) (assignTo rules ev target value ctx)
      (assignTo rules' ev' target value ctx) := by
  have hpart : ∀ part, (inLoop, part) ∈ target.places inLoop → t.code inLoop part :=
    fun _ => t.code_place htarget
  unfold assignTo
  rw [c.relaxes.members]
  cases target with
  | ident span name =>
      exact c.rel_act (.assign ctx name value hwrites)
        ((c.contains hwrites).keeps_assign _ hev.context hvalue)
  | property span object name =>
      have hobject := hpart object (by simp [Node.children])
      refine c.rel_bind (hev.part object hobject) fun base hbase => ?_
      exact c.rel_writeMember hwrites name hbase hvalue
  | index span object key =>
      have hobject := hpart object (by simp [Node.children])
      have hkey := hpart key (by simp [Node.children])
      refine c.rel_bind (hev.part object hobject) fun base hbase => ?_
      refine c.rel_bind (hev.part key hkey) fun k _ => ?_
      exact c.rel_writeIndex hwrites k hbase hvalue
  | _ => exact c.rel_throw (hassign.resolve_left (by simp [Node.isAssignable])) rfl

theorem rel_stepAfter (hwrites : t.writes) (op : BinaryOp) {target left right : Node}
    (htarget : t.code inLoop target)
    (hassign : target.isAssignable = true ∨ t.causes (.invalidAssignment target.render))
    (hleft : t.code inLoop left) (hright : t.code inLoop right) :
    c.rel inLoop t.Holds (stepAfter rules ev op target left right ctx)
      (stepAfter rules' ev' op target left right ctx) := by
  refine c.rel_bind (hev.part left hleft) fun old hold => ?_
  refine c.rel_bind (hev.part right hright) fun amount _ => ?_
  refine c.rel_bind (c.rel_binary op old amount) fun new hnew => ?_
  refine c.rel_bind (c.rel_assignTo hev hwrites htarget hassign hnew) fun _ _ => ?_
  exact c.rel_pure hold

theorem rel_assignNode (hwrites : t.writes) {target value : Node} (isPostfix : Bool)
    (htarget : t.code inLoop target)
    (hassign : target.isAssignable = true ∨ t.causes (.invalidAssignment target.render))
    (hvalue : t.code inLoop value) :
    c.rel inLoop t.Holds (assignNode rules ev target value isPostfix ctx)
      (assignNode rules' ev' target value isPostfix ctx) := by
  unfold assignNode
  split
  · rename_i op left right
    have hleft : t.code inLoop left :=
      t.code_place hvalue (by simp [Node.children])
    have hright : t.code inLoop right :=
      t.code_place hvalue (by simp [Node.children])
    exact c.rel_stepAfter hev hwrites op htarget hassign hleft hright
  · refine c.rel_bind (hev.part value hvalue) fun result hresult => ?_
    refine c.rel_bind (c.rel_assignTo hev hwrites htarget hassign hresult) fun _ _ => ?_
    exact c.rel_pure hresult

/-! ## Statements -/

theorem rel_sequence : ∀ {statements : List Node} {last : Value},
    (∀ node ∈ statements, t.code inLoop node) → t.Holds last →
      c.rel inLoop t.Holds (sequence ev ctx statements last) (sequence ev' ctx statements last)
  | [], _, _, hlast => c.rel_pure hlast
  | statement :: rest, _, h, _ => by
      refine c.rel_bind (c.rel_poll ctx) fun _ _ => ?_
      have hstatement := hev.part statement (h _ (List.mem_cons_self ..))
      refine c.rel_bind hstatement fun value hvalue => ?_
      exact rel_sequence (fun node hnode => h node (List.mem_cons_of_mem _ hnode)) hvalue

theorem rel_optional {node : Option Node} (h : ∀ n ∈ node, t.code inLoop n) :
    c.rel inLoop t.Holds (optional ev node ctx) (optional ev' node ctx) := by
  cases node with
  | none => exact c.rel_pure .nil
  | some n => exact hev.part n (h n rfl)

theorem rel_conditional {cond thenBranch : Node} {elseBranch : Option Node}
    (hcond : t.code inLoop cond) (hthen : t.code inLoop thenBranch)
    (helse : ∀ n ∈ elseBranch, t.code inLoop n) :
    c.rel inLoop t.Holds (conditional ev cond thenBranch elseBranch ctx)
      (conditional ev' cond thenBranch elseBranch ctx) := by
  refine c.rel_bind (hev.part cond hcond) fun x _ => ?_
  refine c.rel_bind (c.rel_truth x) fun b _ => ?_
  split
  · exact hev.part thenBranch hthen
  · exact c.rel_optional hev helse

theorem rel_declaration (hwrites : t.writes) (name : String) {init : Option Node}
    (h : ∀ n ∈ init, t.code inLoop n) :
    c.rel inLoop t.Holds (declaration rules ev name init ctx)
      (declaration rules' ev' name init ctx) := by
  unfold declaration
  rw [c.relaxes.members]
  refine c.rel_bind (c.rel_optional hev h) fun value hvalue => ?_
  have hdeclare := (c.contains hwrites).keeps_declare name hev.context hvalue
  refine c.rel_bind (c.rel_act (.declare ctx name value hwrites) hdeclare) fun _ _ => ?_
  exact c.rel_pure hvalue

theorem rel_condition {cond : Option Node} (h : ∀ n ∈ cond, t.code inLoop n) :
    c.rel inLoop (fun _ => True) (condition ev cond ctx) (condition ev' cond ctx) := by
  cases cond with
  | none => exact c.rel_pure trivial
  | some n => exact c.rel_bind (hev.part n (h n rfl)) fun x _ => c.rel_truth x

end Parts

/-! ## Loops -/

theorem rel_rounds {before before' after after' : Eval Bool} {body body' : Eval Value}
    (hbefore : c.rel inLoop (fun _ => True) before before')
    (hbody : c.rel true t.Holds body body') (hafter : c.rel inLoop (fun _ => True) after after')
    (hexhausts : t.exhausts) (fuel : Nat) {last : Value} (hlast : t.Holds last) :
    c.rel inLoop t.Holds (rounds ctx before body after fuel last)
      (rounds ctx before' body' after' fuel last) := by
  induction fuel generalizing last with
  | zero => exact c.rel_throw hexhausts trivial
  | succ fuel ih =>
      refine c.rel_bind (c.rel_poll ctx) fun _ _ => ?_
      refine c.rel_bind hbefore fun goesOn _ => ?_
      split
      · refine c.rel_bind (c.rel_round hbody hlast) fun (goesOn, last) hlast => ?_
        dsimp only
        split
        · refine c.rel_bind hafter fun again _ => ?_
          split
          · exact ih hlast
          · exact c.rel_pure hlast
        · exact c.rel_pure hlast
      · exact c.rel_pure hlast

theorem rel_each {bind bind' : Value → Eval Unit} {body body' : Eval Value}
    (hbind : ∀ item, t.Holds item → c.rel inLoop (fun _ => True) (bind item) (bind' item))
    (hbody : c.rel true t.Holds body body') :
    ∀ {items : List Value} {last : Value}, (∀ v ∈ items, t.Holds v) → t.Holds last →
      c.rel inLoop t.Holds (each ctx bind body items last) (each ctx bind' body' items last)
  | [], _, _, hlast => c.rel_pure hlast
  | item :: rest, last, h, hlast => by
      refine c.rel_bind (c.rel_poll ctx) fun _ _ => ?_
      refine c.rel_bind (hbind item (h _ (List.mem_cons_self ..))) fun _ _ => ?_
      refine c.rel_bind (c.rel_round hbody hlast) fun (goesOn, last) hlast => ?_
      dsimp only
      split
      · exact rel_each hbind hbody (fun v hv => h v (List.mem_cons_of_mem _ hv)) hlast
      · exact c.rel_pure hlast

/-- What a loop over a value of a territory runs through belongs to it. -/
theorem holds_iteration {s : Store} {source : Value} (hs : t.Closed s) (h : t.Holds source) :
    ∀ v ∈ iteration s source, t.Holds v := by
  intro v hv
  unfold iteration at hv
  split at hv
  · cases hv
  · exact hs.items h.arrays v (Array.mem_toList_iff.mp hv)
  · exact hs.entries h.maps v hv
  · obtain ⟨c, -, rfl⟩ := List.mem_map.mp hv
    exact .text _
  · rw [List.mem_singleton.mp hv]
    exact h

section Parts

variable (hev : c.CouplesAt ev ev' ctx)

include hev

theorem rel_forNode (hexhausts : t.exhausts) (fuel : Nat) {init cond step : Option Node}
    {body : Node} (hinit : ∀ n ∈ init, t.code inLoop n) (hcond : ∀ n ∈ cond, t.code inLoop n)
    (hstep : ∀ n ∈ step, t.code inLoop n)
    (hbody : t.code true body) :
    c.rel inLoop t.Holds (forNode ev fuel init cond step body ctx)
      (forNode ev' fuel init cond step body ctx) := by
  refine c.rel_bind (c.rel_optional hev hinit) fun _ _ => ?_
  refine c.rel_rounds (c.rel_condition hev hcond) (hev.part body hbody) ?_ hexhausts fuel .nil
  exact c.rel_bind (c.rel_optional hev hstep) fun _ _ => c.rel_pure trivial

theorem rel_whileNode (hexhausts : t.exhausts) (fuel : Nat) {cond body : Node}
    (hcond : t.code inLoop cond) (hbody : t.code true body) :
    c.rel inLoop t.Holds (whileNode ev fuel cond body ctx) (whileNode ev' fuel cond body ctx) :=
  c.rel_rounds (c.rel_condition hev (by simpa using hcond)) (hev.part body hbody)
    (c.rel_pure trivial) hexhausts fuel .nil

theorem rel_doNode (hexhausts : t.exhausts) (fuel : Nat) {body cond : Node}
    (hbody : t.code true body) (hcond : t.code inLoop cond) :
    c.rel inLoop t.Holds (doNode ev fuel body cond ctx) (doNode ev' fuel body cond ctx) :=
  c.rel_rounds (c.rel_pure trivial) (hev.part body hbody)
    (c.rel_condition hev (by simpa using hcond)) hexhausts fuel .nil

theorem rel_foreachNode (var : String) (declared : Bool) {iterable body : Node}
    (hdeclared : declared = true → t.writes) (hvar : declared = false → t.loopVariables var)
    (hiterable : t.code inLoop iterable) (hbody : t.code true body) :
    c.rel inLoop t.Holds (foreachNode rules ev var declared iterable body ctx)
      (foreachNode rules' ev' var declared iterable body ctx) := by
  unfold foreachNode
  rw [c.relaxes.members]
  refine c.rel_bind (hev.part iterable hiterable) fun source hsource => ?_
  have hlook : c.rel inLoop (fun items : List Value => ∀ v ∈ items, t.Holds v)
      (look fun s => iteration s source) (look fun s => iteration s source) :=
    c.rel_look fun s hs => holds_iteration hs hsource
  refine c.rel_bind hlook fun items hitems => ?_
  refine c.rel_each (fun item hitem => ?_) (hev.part body hbody) hitems .nil
  split
  · rename_i htrue
    exact c.rel_act (.declare ctx var item (hdeclared htrue))
      ((c.contains (hdeclared htrue)).keeps_declare var hev.context hitem)
  · rename_i hfalse
    exact c.rel_assign (hvar (Bool.eq_false_iff.mpr hfalse)) hev.context hitem

/-- Annotations change the options on both sides in the same way. -/
theorem rel_annotated {span : Span} {name : String} {args : List Node} {statement : Node}
    (h : t.code inLoop (.annotated span name args statement)) :
    c.rel inLoop t.Holds (annotated ev name args statement ctx)
      (annotated ev' name args statement ctx) := by
  have hpart : ∀ part, (inLoop, part) ∈ (Node.annotated span name args statement).places inLoop →
      t.code inLoop part := fun _ => t.code_place h
  have hbody := hev.part statement (hpart _ (by simp [Node.children]))
  have hfirst : ∀ n ∈ args.head?, t.code inLoop n := fun n hn =>
    hpart n (by simp [Node.children, List.mem_of_mem_head? hn])
  refine c.rel_bind (c.rel_condition hev hfirst) fun flag _ => ?_
  refine c.rel_options fun o o' ho => ?_
  split
  · exact c.rel_silently h hbody
  · exact c.rel_withOptions (c.options_strict flag ho) hbody
  · exact c.rel_withOptions (c.options_strict false ho) hbody
  · exact c.rel_withOptions (c.options_safe flag ho) hbody
  · exact hbody

/-! ## Nodes -/

/-- **Every form of node is coupled** with itself if its parts are.  The number of
rounds granted to loops matters only where open-ended ones may occur. -/
theorem rel_node {fuel fuel' : Nat} (hfuel : t.exhausts → fuel = fuel') {tree : Node}
    (htree : t.code inLoop tree) :
    c.rel inLoop t.Holds (node rules fuel ev tree ctx) (node rules' fuel' ev' tree ctx) := by
  have hpart : ∀ part, (inLoop, part) ∈ tree.places inLoop → t.code inLoop part :=
    fun _ => t.code_place htree
  cases tree with
  | literal span value =>
      cases value with
      | nil => exact c.rel_pure .nil
      | bool b => exact c.rel_pure (.bool b)
      | number x => exact c.rel_pure (.number x)
      | text x => exact c.rel_pure (.text x)
  | ident span name => exact c.rel_variableValue hev.context name
  | binary span op left right =>
      have hleft := hpart left (by simp [Node.children])
      have hright := hpart right (by simp [Node.children])
      exact c.rel_binaryNode hev op hleft hright
  | unary span op operand =>
      exact c.rel_unaryNode hev op (hpart operand (by simp [Node.children]))
  | property span object name =>
      have hobject := hpart object (by simp [Node.children])
      exact c.rel_bind (hev.part object hobject) fun base hbase =>
        c.rel_readMember name hbase
  | index span object key =>
      have hobject := hpart object (by simp [Node.children])
      have hkey := hpart key (by simp [Node.children])
      refine c.rel_bind (hev.part object hobject) fun base hbase => ?_
      exact c.rel_bind (hev.part key hkey) fun k _ => c.rel_readIndex k hbase
  | methodCall span object method args =>
      have hobject := hpart object (by simp [Node.children])
      have hargs := fun node (h : node ∈ args) =>
        hpart node (by simp [Node.children, h])
      exact c.rel_methodNode hev (t.code_writes htree rfl) method hobject hargs
  | call span callee args =>
      have hcallee := hpart callee (by simp [Node.children])
      have hargs := fun node (h : node ∈ args) =>
        hpart node (by simp [Node.children, h])
      exact c.rel_callNode hev hcallee hargs
  | construct span className args =>
      have hclass := hpart className (by simp [Node.children])
      have hargs := fun node (h : node ∈ args) =>
        hpart node (by simp [Node.children, h])
      exact c.rel_constructNode hev (t.code_writes htree rfl) hclass hargs
  | assign span target value isPostfix =>
      have hvalue := hpart value (by simp [Node.children])
      have htarget := hpart target (by simp [Node.children])
      exact c.rel_assignNode hev (t.code_writes htree rfl) isPostfix htarget
        (t.code_target htree) hvalue
  | ternary span cond thenBranch elseBranch =>
      have hcond := hpart cond (by simp [Node.children])
      have hthen := hpart thenBranch (by simp [Node.children])
      have helse := hpart elseBranch (by simp [Node.children])
      exact c.rel_choice hev hcond hthen helse
  | elvis span left right coalesce =>
      have hleft := hpart left (by simp [Node.children])
      have hright := hpart right (by simp [Node.children])
      exact c.rel_fallback hev hleft hright
  | range span first last =>
      have hfirst := hpart first (by simp [Node.children])
      have hlast := hpart last (by simp [Node.children])
      exact c.rel_binaryNode hev .range hfirst hlast
  | array span items =>
      have hitems := fun node (h : node ∈ items) => hpart node (by simp [Node.children, h])
      refine c.rel_bind (c.rel_all hev hitems) fun values hvalues => ?_
      exact c.rel_newArray (by simpa using hvalues)
  | map span items =>
      have hitems : ∀ entry ∈ items, t.code inLoop entry.1 ∧ t.code inLoop entry.2 := by
        intro entry hentry
        have hparts : ∀ part ∈ [entry.1, entry.2], t.code inLoop part := fun part h =>
          hpart part (List.mem_map_of_mem (List.mem_flatMap.mpr ⟨entry, hentry, h⟩))
        exact ⟨hparts _ (by simp), hparts _ (by simp)⟩
      have hnone : ∀ v ∈ (OrderedMap.empty : OrderedMap Value).values, t.Holds v := by
        simp [OrderedMap.values, OrderedMap.empty]
      have hmade := c.rel_entries hev hitems hnone
      exact c.rel_bind hmade fun made hmade => c.rel_newMap hmade
  | set span items =>
      have hitems := fun node (h : node ∈ items) => hpart node (by simp [Node.children, h])
      refine c.rel_bind (c.rel_distinct hev hitems (by simp)) fun made hmade => ?_
      exact c.rel_newArray (by simpa using hmade)
  | lambda span id params body =>
      refine c.rel_pure (.function (t.functions_lambda htree) (by simp [Closure.ofLambda]) ?_)
      rintro outer houter
      cases houter
      exact hev.context
  | ifElse span cond thenBranch elseBranch =>
      have hcond := hpart cond (by simp [Node.children])
      have hthen := hpart thenBranch (by simp [Node.children])
      have helse : ∀ n ∈ elseBranch, t.code inLoop n :=
        fun n h => hpart n (by simp [Node.children, Option.mem_def.mp h])
      exact c.rel_conditional hev hcond hthen helse
  | forLoop span init cond step body =>
      have hexhausts := t.code_openEnded htree rfl
      cases hfuel hexhausts
      refine c.rel_forNode hev hexhausts fuel (fun n h => hpart n ?_) (fun n h => hpart n ?_)
        (fun n h => hpart n ?_) (t.code_place htree (by simp))
      all_goals simp [Option.mem_def.mp h]
  | foreach span var declared iterable body =>
      have hiterable := hpart iterable (by simp)
      have hbody : t.code true body := t.code_place htree (by simp)
      exact c.rel_foreachNode hev var declared (t.code_writes htree)
        (fun hfalse => t.code_foreach (hfalse ▸ htree)) hiterable hbody
  | whileLoop span cond body =>
      have hcond := hpart cond (by simp)
      have hbody : t.code true body := t.code_place htree (by simp)
      have hexhausts := t.code_openEnded htree rfl
      cases hfuel hexhausts
      exact c.rel_whileNode hev hexhausts fuel hcond hbody
  | doWhile span body cond =>
      have hbody : t.code true body := t.code_place htree (by simp)
      have hcond := hpart cond (by simp)
      have hexhausts := t.code_openEnded htree rfl
      cases hfuel hexhausts
      exact c.rel_doNode hev hexhausts fuel hbody hcond
  | block span statements =>
      have hstatements := fun node (h : node ∈ statements) =>
        hpart node (by simp [Node.children, h])
      exact c.rel_sequence hev hstatements .nil
  | breakLoop span => exact c.rel_throw (t.code_break htree) trivial
  | continueLoop span => exact c.rel_throw (t.code_continue htree) trivial
  | returnValue span value =>
      have hvalue : ∀ n ∈ value, t.code inLoop n :=
        fun n h => hpart n (by simp [Node.children, Option.mem_def.mp h])
      exact c.rel_bind (c.rel_optional hev hvalue) fun v hv => c.rel_throw hv trivial
  | var span name init =>
      have hinit : ∀ n ∈ init, t.code inLoop n :=
        fun n h => hpart n (by simp [Node.children, Option.mem_def.mp h])
      exact c.rel_declaration hev (t.code_writes htree rfl) name hinit
  | annotated span name args statement => exact c.rel_annotated hev htree
  | script span body pragmas =>
      have hbody := fun node (h : node ∈ body) => hpart node (by simp [Node.children, h])
      exact c.rel_sequence hev hbody .nil

end Parts

end ScriptEngine.Coupling

import ScriptEngine.Evaluation.Node
import ScriptEngine.Proofs.Resolution

/-!
# Denied members

A member that the permissions deny is resolved to nothing, so that reading, writing
and calling it end as they do for members that are not there: with an error if
evaluation is strict, else with nil, and in the state of the beginning.

Two kinds of calls are made before permissions are asked, or after: `call` on a
function, and a method of a map that is one of its entries.  They run the function
whether the member is denied or not.

* `Eval.absent` — the end of an access to what is not there;
* `Eval.unguarded?` — the function that a method call runs in any case;
* `Eval.denied_member_absent` — all accesses to a denied member.
-/

namespace ScriptEngine

/-! ## One step after another -/

section Steps

variable {ε σ α β : Type} {step step' : EStateM ε σ α} {next : α → EStateM ε σ β} {s s' : σ}

/-- Steps that end alike go on alike. -/
theorem bind_of_eq (h : step s = step' s') : (step >>= next) s = (step' >>= next) s' := by
  show EStateM.bind step next s = EStateM.bind step' next s'
  rw [EStateM.bind, EStateM.bind, h]

/-- What comes after a step that has a result. -/
theorem ok_bind {a : α} (h : step s = .ok a s') : (step >>= next) s = next a s' := by
  show EStateM.bind step next s = _
  rw [EStateM.bind, h]

/-- Nothing comes after a step that fails. -/
theorem error_bind {e : ε} (h : step s = .error e s') : (step >>= next) s = .error e s' := by
  show EStateM.bind step next s = _
  rw [EStateM.bind, h]

/-- Steps that have a result start with one that has. -/
theorem exists_of_bind {b : β} (h : (step >>= next) s = .ok b s') :
    ∃ a s'', step s = .ok a s'' ∧ next a s'' = .ok b s' := by
  cases hstep : step s with
  | ok a s'' =>
      rw [ok_bind hstep] at h
      exact ⟨a, s'', rfl, h⟩
  | error e s'' =>
      rw [error_bind hstep] at h
      cases h

end Steps

/-! ## Resolution -/

namespace Members

variable {m : Members} {p : Permissions} {s : Store} {base : Value} {name : String}

/-- What the permissions deny is not shown. -/
theorem shows_of_denied (hp : m.permissions = some p)
    (hdenied : p.allowed (base.typeName s) name = false) :
    m.shows (base.typeName s) name = false := by
  rw [shows, hp]
  exact hdenied

theorem readable_denied (h : m.shows (base.typeName s) name = false) :
    m.readable? s base name = none := by
  simp [readable?, h]

theorem writable_denied (h : m.shows (base.typeName s) name = false) :
    m.writable? s base name = none := by
  simp [writable?, h]

theorem method_denied (h : m.shows (base.typeName s) name = false) (args : List Value) :
    m.method? s base name args = none := by
  simp [method?, h]

theorem readProperty_denied (h : m.shows (base.typeName s) name = false) :
    m.readProperty base name s =
      .error (.ofCause (.propertyNotFound name (base.typeName s))) s := by
  rw [readProperty, ContextRef.get_bind, readable_denied h]
  rfl

theorem writeProperty_denied (h : m.shows (base.typeName s) name = false) (value : Value) :
    m.writeProperty base name value s =
      .error (.ofCause (.propertyNotFound name (base.typeName s))) s := by
  rw [writeProperty, ContextRef.get_bind, writable_denied h]
  rfl

end Members

namespace Eval

/-- **The end of an access to what is not there**: an error if evaluation is strict, else
`result`, and nothing else has happened. -/
def absent {α : Type} (cause : EvalError.Cause) (result : α) (r : Run) :
    EStateM.Result Signal Run α :=
  if r.options.strict then .error (.error (.ofCause cause)) r else .ok result r

/-- **The function that a method call runs in any case**: the receiver of `call`, or the
entry of a map. -/
def unguarded? (s : Store) (base : Value) (name : String) : Option (Closure Value) :=
  match base, name with
  | .function closure, "call" => some closure
  | _, _ => functionEntry? s base name

/-- Apart from `call` on a function these are the entries of maps. -/
theorem unguarded_of_not_call {s : Store} {base : Value} {name : String}
    (h : ∀ closure, base = .function closure → name = "call" → False) :
    unguarded? s base name = functionEntry? s base name := by
  unfold unguarded?
  split
  · exact (h _ rfl rfl).elim
  · rfl

/-! ## Accesses -/

/-- A step that starts by looking at the store. -/
theorem look_bind {α β : Type} (f : Store → α) (next : α → Eval β) (r : Run) :
    (look f >>= next) r = next (f r.store) r := rfl

variable {rules : Semantics} {p : Permissions} {base : Value} {name : String} {r : Run}

theorem unresolved_absent {cause : EvalError.Cause} (h : cause.isUnresolved = true) :
    unresolved (.ofCause cause) r = absent cause .nil r := by
  show (if !r.options.strict && cause.isUnresolved then pure .nil
    else throw (.error (.ofCause cause)) : Eval Value) r = _
  rw [h, absent]
  cases r.options.strict <;> rfl

/-- What is not found by an action that changes nothing is absent. -/
theorem resolve_absent {action : Action Value} {cause : EvalError.Cause}
    (haction : action r.store = .error (.ofCause cause) r.store) (h : cause.isUnresolved = true) :
    resolve action r = absent cause .nil r := by
  obtain ⟨s, o, d⟩ := r
  have haction : action s = .error (.ofCause cause) s := haction
  rw [resolve, haction]
  exact unresolved_absent h

/-- What follows an absence without looking at its result has a result of its own. -/
theorem bind_absent {α β : Type} {step : Eval α} {cause : EvalError.Cause} {a : α} {b : β}
    (h : step r = absent cause a r) : (step >>= fun _ => pure b) r = absent cause b r := by
  show EStateM.bind step (fun _ => pure b) r = _
  rw [EStateM.bind, h, absent, absent]
  cases r.options.strict <;> rfl

section Denied

variable (hbase : base.isNil = false)
variable (hshown : rules.members.shows (base.typeName r.store) name = false)

include hbase hshown

theorem readMember_denied : readMember rules base name r =
    absent (.propertyNotFound name (base.typeName r.store)) .nil r := by
  rw [readMember, if_neg (by simp [hbase])]
  exact resolve_absent (Members.readProperty_denied hshown) rfl

theorem writeMember_denied (value : Value) : writeMember rules base name value r =
    absent (.propertyNotFound name (base.typeName r.store)) () r := by
  have hresolve : (rules.members.writeProperty base name value >>= fun _ => pure .nil :
      Action Value) r.store =
      .error (.ofCause (.propertyNotFound name (base.typeName r.store))) r.store := by
    show EStateM.bind _ _ r.store = _
    rw [EStateM.bind, Members.writeProperty_denied hshown]
  rw [writeMember, if_neg (by simp [hbase])]
  exact bind_absent (resolve_absent hresolve rfl)

omit hbase in
/-- A call of a denied method runs a function in any case, or finds nothing. -/
theorem callMethod_denied (ev : Evaluator) (args : List Value) (ctx : ContextRef) :
    callMethod rules ev base name args ctx r =
      match unguarded? r.store base name with
      | some closure => callFunction ev closure args ctx r
      | none => absent (.methodNotFound name (base.typeName r.store)) .nil r := by
  unfold callMethod
  split
  · rfl
  · rw [unguarded_of_not_call ‹_›]
    have hmissing : unresolved (.ofCause (.methodNotFound name (base.typeName r.store))) r =
        absent (.methodNotFound name (base.typeName r.store)) .nil r := unresolved_absent rfl
    rw [look_bind, Members.method_denied hshown]
    dsimp only
    rw [look_bind]
    cases functionEntry? r.store base name with
    | some closure => rfl
    | none => exact hmissing

end Denied

/-- **Denied members are absent.**  Reading and writing a member that the permissions deny
of a value that is not nil, by name or by a key that is no wrong index, and calling it, find
nothing: that is an error if evaluation is strict, else the result is nil or nothing is
written, and the state is as it was.  The exceptions are `call` on a function and entries of
a map that are functions: these are called although they are denied. -/
theorem denied_member_absent {rules : Semantics} {p : Permissions} {base : Value} {name : String}
    {r : Run} (hp : rules.members.permissions = some p) (hbase : base.isNil = false)
    (hdenied : p.allowed (base.typeName r.store) name = false) :
    readMember rules base name r =
      absent (.propertyNotFound name (base.typeName r.store)) .nil r ∧
    (∀ value, writeMember rules base name value r =
      absent (.propertyNotFound name (base.typeName r.store)) () r) ∧
    (∀ key, r.store.plain key = name → badIndex? r.store base key = none →
      readIndex rules base key r =
        absent (.propertyNotFound name (base.typeName r.store)) .nil r ∧
      ∀ value, writeIndex rules base key value r =
        absent (.propertyNotFound name (base.typeName r.store)) () r) ∧
    ∀ ev args ctx, callMethod rules ev base name args ctx r =
      match unguarded? r.store base name with
      | some closure => callFunction ev closure args ctx r
      | none => absent (.methodNotFound name (base.typeName r.store)) .nil r := by
  have hshown := Members.shows_of_denied hp hdenied
  refine ⟨readMember_denied hbase hshown, writeMember_denied hbase hshown,
    fun key hkey hindex => ⟨?_, fun value => ?_⟩, callMethod_denied hshown⟩
  · rw [readIndex, if_neg (by simp [hbase])]
    rw [look_bind, hindex]
    dsimp only
    rw [look_bind, hkey]
    exact readMember_denied hbase hshown
  · rw [writeIndex, look_bind, hindex]
    dsimp only
    rw [look_bind, hkey]
    exact writeMember_denied hbase hshown value

/-- The length of a text is denied: under strict options reading it fails. -/
theorem denied_length_absent :
    let p := Permissions.empty.deny "string" "length"
    let rules : Semantics := ⟨⟨true⟩, ⟨some p, .none⟩⟩
    let r : Run := ⟨.empty, { Options.standard with strict := true }, .top 8⟩
    readMember rules (.text "abc") "length" r =
      .error (.error (.ofCause (.propertyNotFound "length" "string"))) r :=
  (denied_member_absent rfl rfl (by decide)).1

/-- An entry of a map is denied, and called all the same. -/
theorem denied_entry_called :
    let p := Permissions.empty.deny "map" "f"
    let rules : Semantics := ⟨⟨true⟩, ⟨some p, .none⟩⟩
    let f : Closure Value := .ofLambda ⟨default, [], .literal default (.number 42)⟩ none
    let s : Store :=
      { Store.empty with
        maps := #[.ofList [("f", .function f)]]
        contexts := #[.vars (.ofList [("m", .map ⟨0⟩)]) none] }
    let tree : Node := .methodCall default (.ident default "m") "f" []
    p.allowed (Value.typeName s (.map ⟨0⟩)) "f" = false ∧
      (rules.interpret { Options.standard with strict := true } tree ⟨0⟩ s).1 =
        .value (.number 42) :=
  ⟨by decide, by with_unfolding_all rfl⟩

end Eval

end ScriptEngine

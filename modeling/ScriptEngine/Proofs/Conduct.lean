import ScriptEngine.Proofs.Coupling

/-!
# The conduct of actions

Whatever an evaluation does to the store is put together from few changes: arrays and
maps get new contents, contexts get bindings, new contexts are made.  And it fails only
with errors whose place is still to be found, unless the embedder's own code fails.  So
a bound on the changes and on the errors that allows these holds of all of it.

* `Action.Conduct` — which changes and which errors are allowed;
* `Action.Obeys` — an action that keeps to a conduct, with a rule for each way of
  putting actions together;
* `Action.obeys_run` — builtin methods keep to every conduct;
* `Members.Does.obeys` — so does everything that evaluations do, if the embedder's own
  code does.
-/

namespace ScriptEngine

namespace Action

/-- **What actions may do**: how they may change the store, and which errors they may fail
with. -/
structure Conduct where
  changes : Store → Store → Prop
  fails : EvalError → Prop
  refl : ∀ s, changes s s
  trans : ∀ {s s' s''}, changes s s' → changes s' s'' → changes s s''
  /-- Arrays and maps may change. -/
  contents : ∀ {s s' : Store}, s'.contexts = s.contexts → changes s s'
  bindings : ∀ (s : Store) (place : ContextRef) (f : OrderedMap Value → OrderedMap Value),
    changes s (s.modifyBindings place f)
  newContext : ∀ (s : Store) (context : Context), changes s (s.newContext context).2
  fails_ofCause : ∀ cause, fails (.ofCause cause)

variable {α β : Type}

/-- The end of an action that started in the store `s`. -/
def Ends (c : Conduct) (s : Store) : EStateM.Result EvalError Store α → Prop
  | .ok _ s' => c.changes s s'
  | .error e s' => c.changes s s' ∧ c.fails e

/-- **An action that keeps to a conduct.** -/
def Obeys (c : Conduct) (action : Action α) : Prop := ∀ s, Ends c s (action s)

variable {c : Conduct}

theorem obeys_pure (a : α) : Obeys c (pure a) := fun s => c.refl s

theorem obeys_throw {e : EvalError} (h : c.fails e) : Obeys c (throw e : Action α) :=
  fun s => ⟨c.refl s, h⟩

theorem obeys_bind {action : Action α} {next : α → Action β} (h : Obeys c action)
    (hnext : ∀ a, Obeys c (next a)) : Obeys c (action >>= next) := by
  intro s
  have haction := h s
  show Ends c s (EStateM.bind action next s)
  unfold EStateM.bind
  cases hresult : action s with
  | error e s' =>
      rw [hresult] at haction
      exact haction
  | ok a s' =>
      rw [hresult] at haction
      have hrest := hnext a s'
      dsimp only
      generalize next a s' = ending at hrest
      cases ending with
      | ok b s'' => exact c.trans haction hrest
      | error e s'' => exact ⟨c.trans haction hrest.1, hrest.2⟩

/-- An action that starts by looking at the store. -/
theorem obeys_get {next : Store → Action β} (h : ∀ s, Obeys c (next s)) :
    Obeys c (get >>= next) := fun s => h s s

/-- A change of the store that is allowed. -/
theorem obeys_modify {f : Store → Store} (h : ∀ s : Store, c.changes s (f s)) :
    Obeys c (modify f : Action Unit) := h

/-! ## Builtin methods -/

theorem obeys_wrongCount (method : String) (expected got : Nat) :
    Obeys c (Builtin.wrongCount method expected got : Action α) := obeys_throw (c.fails_ofCause _)

theorem obeys_wrongKind (method expected : String) (got : Value) :
    Obeys c (Builtin.wrongKind method expected got : Action α) :=
  obeys_get fun _ => obeys_throw (c.fails_ofCause _)

theorem obeys_outOfBounds (index : Value) (length : Nat) :
    Obeys c (Builtin.outOfBounds index length : Action α) :=
  obeys_get fun _ => obeys_throw (c.fails_ofCause _)

theorem obeys_wrongReceiver (operation : String) (receiver : Value) :
    Obeys c (Builtin.wrongReceiver operation receiver : Action α) :=
  obeys_get fun _ => obeys_throw (c.fails_ofCause _)

theorem obeys_noProperty (name : String) (base : Value) :
    Obeys c (noProperty name base : Action α) := obeys_get fun _ => obeys_throw (c.fails_ofCause _)

theorem obeys_arity (method : String) (args : List Value) (expected : Nat) :
    Obeys c (Builtin.arity method args expected) := by
  unfold Builtin.arity
  split
  · exact obeys_pure _
  · exact obeys_wrongCount _ _ _

theorem obeys_textArg (method : String) (args : List Value) (place : Nat) :
    Obeys c (Builtin.textArg method args place) := by
  unfold Builtin.textArg
  split
  · exact obeys_pure _
  · exact obeys_wrongKind _ _ _
  · exact obeys_wrongCount _ _ _

theorem obeys_position (method : String) (args : List Value) (place length : Nat) :
    Obeys c (Builtin.position method args place length) := by
  refine obeys_bind ?_ fun raw => ?_
  · unfold Builtin.wordArg
    split
    · exact obeys_pure _
    · exact obeys_wrongKind _ _ _
    · exact obeys_wrongCount _ _ _
  · split
    · exact obeys_pure _
    · exact obeys_outOfBounds _ _

theorem obeys_element (method : String) (args : List Value) (place length : Nat) :
    Obeys c (Builtin.element method args place length) := by
  refine obeys_bind (obeys_position method args place length) fun p => ?_
  split
  · exact obeys_pure _
  · exact obeys_outOfBounds _ _

theorem obeys_receiverText (receiver : Value) : Obeys c (Builtin.receiverText receiver) := by
  unfold Builtin.receiverText
  split
  · exact obeys_pure _
  · exact obeys_wrongReceiver _ _

theorem obeys_receiverArray (method : String) (receiver : Value) :
    Obeys c (Builtin.receiverArray method receiver) := by
  unfold Builtin.receiverArray
  split
  · exact obeys_get fun _ => obeys_pure _
  · exact obeys_wrongReceiver _ _

theorem obeys_receiverMap (method : String) (receiver : Value) :
    Obeys c (Builtin.receiverMap method receiver) := by
  unfold Builtin.receiverMap
  split
  · exact obeys_get fun _ => obeys_pure _
  · exact obeys_wrongReceiver _ _

theorem obeys_newArray (items : List Value) : Obeys c (Builtin.newArray items) :=
  fun _ => c.contents rfl

theorem obeys_modifyItems (ref : ArrayRef) (f : Array Value → Array Value) :
    Obeys c (modify fun s => s.modifyItems ref f : Action Unit) :=
  obeys_modify fun _ => c.contents rfl

theorem obeys_modifyEntries (ref : MapRef) (f : OrderedMap Value → OrderedMap Value) :
    Obeys c (modify fun s => s.modifyEntries ref f : Action Unit) :=
  obeys_modify fun _ => c.contents rfl

theorem obeys_sizeOf (receiver : Value) : Obeys c (Builtin.sizeOf receiver) := by
  unfold Builtin.sizeOf
  split
  · exact obeys_pure _
  · exact obeys_get fun _ => obeys_pure _
  · exact obeys_get fun _ => obeys_pure _
  · exact obeys_wrongReceiver _ _

theorem obeys_emptiness (receiver : Value) : Obeys c (Builtin.emptiness receiver) := by
  unfold Builtin.emptiness
  split
  · exact obeys_pure _
  · exact obeys_get fun _ => obeys_pure _
  · exact obeys_get fun _ => obeys_pure _
  · exact obeys_wrongReceiver _ _

theorem obeys_runSubstring (receiver : Value) (args : List Value) :
    Obeys c (Builtin.runSubstring receiver args) := by
  have hcut : ∀ cs : List Char, ∀ start stop : Nat, Obeys c (do
      if stop < start then Builtin.outOfBounds (args.getD 1 .nil) cs.length
      return Builtin.textOf ((cs.take stop).drop start)) := by
    intro cs start stop
    dsimp only
    split
    · exact obeys_bind (obeys_outOfBounds _ _) fun _ => obeys_pure _
    · exact obeys_pure _
  have hrest : ∀ cs : List Char, Obeys c (do
      let start ← Builtin.position "substring" args 0 cs.length
      let stop ← if args.length = 2 then Builtin.position "substring" args 1 cs.length
        else pure cs.length
      if stop < start then Builtin.outOfBounds (args.getD 1 .nil) cs.length
      return Builtin.textOf ((cs.take stop).drop start)) := by
    intro cs
    refine obeys_bind (obeys_position _ _ _ _) fun start => ?_
    dsimp only
    split
    · exact obeys_bind (obeys_position _ _ _ _) fun stop => hcut cs start stop
    · exact hcut cs start _
  refine obeys_bind (obeys_receiverText receiver) fun cs => ?_
  dsimp only
  split
  · exact obeys_bind (obeys_wrongCount _ _ _) fun _ => hrest cs
  · exact hrest cs

/-- **Builtin methods** change arrays and maps, and fail at places still to be found. -/
theorem obeys_run (b : Builtin) (receiver : Value) (args : List Value) :
    Obeys c (b.run receiver args) := by
  have hchecked : ∀ (method : String) (expected : Nat) (rest : Action Value), Obeys c rest →
      Obeys c (do Builtin.arity method args expected; rest) :=
    fun method expected rest hrest => obeys_bind (obeys_arity method args expected) fun _ => hrest
  cases b with
  | size => exact hchecked _ _ _ (obeys_sizeOf receiver)
  | isEmpty => exact hchecked _ _ _ (obeys_emptiness receiver)
  | upper | lower | trim =>
      exact hchecked _ _ _ (obeys_bind (obeys_receiverText receiver) fun _ => obeys_pure _)
  | substring => exact obeys_runSubstring receiver args
  | textIndexOf | textContains | startsWith | endsWith =>
      refine hchecked _ _ _ (obeys_bind (obeys_receiverText receiver) fun cs => ?_)
      exact obeys_bind (obeys_textArg _ _ _) fun _ => obeys_pure _
  | split =>
      refine hchecked _ _ _ (obeys_bind (obeys_receiverText receiver) fun cs => ?_)
      exact obeys_bind (obeys_textArg _ _ _) fun _ => obeys_newArray _
  | replace =>
      refine hchecked _ _ _ (obeys_bind (obeys_receiverText receiver) fun cs => ?_)
      refine obeys_bind (obeys_textArg _ _ _) fun _ => ?_
      exact obeys_bind (obeys_textArg _ _ _) fun _ => obeys_pure _
  | charAt =>
      refine hchecked _ _ _ (obeys_bind (obeys_receiverText receiver) fun cs => ?_)
      exact obeys_bind (obeys_element _ _ _ _) fun _ => obeys_pure _
  | arrayGet =>
      refine hchecked _ _ _ (obeys_bind (obeys_receiverArray _ receiver) fun found => ?_)
      exact obeys_bind (obeys_element _ _ _ _) fun _ => obeys_pure _
  | arrayContains | arrayIndexOf =>
      refine hchecked _ _ _ (obeys_bind (obeys_receiverArray _ receiver) fun found => ?_)
      exact obeys_get fun _ => obeys_pure _
  | arrayAdd =>
      refine hchecked _ _ _ (obeys_bind (obeys_receiverArray _ receiver) fun found => ?_)
      exact obeys_bind (obeys_modifyItems _ _) fun _ => obeys_pure _
  | arraySet | arrayRemove =>
      refine hchecked _ _ _ (obeys_bind (obeys_receiverArray _ receiver) fun found => ?_)
      refine obeys_bind (obeys_element _ _ _ _) fun i => ?_
      exact obeys_bind (obeys_modifyItems _ _) fun _ => obeys_pure _
  | arrayJoin =>
      refine obeys_bind (obeys_receiverArray _ receiver) fun found => ?_
      have hjoined : ∀ sep : List Char, Obeys c (do
          let s ← get
          return Value.text ((String.ofList sep).intercalate (found.2.toList.map s.plain))) :=
        fun _ => obeys_get fun _ => obeys_pure _
      dsimp only
      split
      · exact hjoined _
      · exact obeys_bind (obeys_textArg _ _ _) hjoined
      · exact obeys_bind (obeys_wrongCount _ _ _) hjoined
  | mapGet | mapContainsKey =>
      refine hchecked _ _ _ (obeys_bind (obeys_receiverMap _ receiver) fun found => ?_)
      exact obeys_get fun _ => obeys_pure _
  | mapPut | mapRemove =>
      refine hchecked _ _ _ (obeys_bind (obeys_receiverMap _ receiver) fun found => ?_)
      exact obeys_get fun _ => obeys_bind (obeys_modifyEntries _ _) fun _ => obeys_pure _
  | mapKeys | mapValues =>
      refine hchecked _ _ _ (obeys_bind (obeys_receiverMap _ receiver) fun found => ?_)
      exact obeys_newArray _
  | curry =>
      cases receiver with
      | function closure => exact obeys_pure _
      | _ => exact obeys_get fun _ => obeys_throw (c.fails_ofCause _)

end Action

/-! ## Members and variables -/

/-- **What is asked of the embedder's own code**: it keeps to the conduct. -/
structure Embedder.Obeys (c : Action.Conduct) (e : Embedder) : Prop where
  assign : ∀ (ref : HostRef) (name : String) (value : Value),
    Action.Obeys c (e.assign ref name value)
  invoke : ∀ (ref : HostRef) (index : Nat) (args : List Value),
    Action.Obeys c (e.invoke ref index args)
  construct : ∀ (name : String) (make : List Value → Action Value) (args : List Value),
    e.constructors.find? name = some make → Action.Obeys c (make args)

namespace Members

open ScriptEngine.Action

variable {c : Action.Conduct} {m : Members}

theorem obeys_read (place : Place) (base : Value) : Action.Obeys c (place.read base) := by
  refine obeys_get fun s => ?_
  split
  · exact obeys_pure _
  · dsimp only
    split
    · exact obeys_pure _
    · exact obeys_throw (c.fails_ofCause _)
  · split
    · exact obeys_pure _
    · exact obeys_noProperty _ _
  · exact obeys_noProperty _ _
  · exact obeys_noProperty _ _
  · exact obeys_noProperty _ _

theorem obeys_write (he : m.embedder.Obeys c) (place : Place) (base value : Value) :
    Action.Obeys c (place.write m.embedder base value) := by
  unfold Place.write
  split
  · exact obeys_modifyEntries _ _
  · refine obeys_get fun s => ?_
    dsimp only
    split
    · exact obeys_modifyItems _ _
    · exact obeys_throw (c.fails_ofCause _)
  · refine obeys_bind (he.assign _ _ _) fun written => ?_
    split
    · exact obeys_pure _
    · exact obeys_noProperty _ _
  · exact obeys_noProperty _ _
  · exact obeys_noProperty _ _
  · exact obeys_noProperty _ _

theorem obeys_readProperty (base : Value) (name : String) :
    Action.Obeys c (m.readProperty base name) := by
  refine obeys_get fun s => ?_
  split
  · rename_i property _
    cases property with
    | stored place => exact obeys_read place base
    | computed builtin => exact obeys_run builtin base []
  · exact obeys_noProperty _ _

theorem obeys_writeProperty (he : m.embedder.Obeys c) (base : Value) (name : String)
    (value : Value) : Action.Obeys c (m.writeProperty base name value) := by
  refine obeys_get fun s => ?_
  split
  · exact obeys_write he _ base value
  · exact obeys_noProperty _ _

theorem obeys_method (he : m.embedder.Obeys c) (found : Method) (base : Value)
    (args : List Value) : Action.Obeys c (found.run m.embedder base args) := by
  unfold Method.run
  split
  · exact obeys_run _ base args
  · exact he.invoke _ _ args
  · exact obeys_get fun _ => obeys_throw (c.fails_ofCause _)

theorem obeys_construct (he : m.embedder.Obeys c) (name : String) (args : List Value) :
    Action.Obeys c (m.construct name args) := by
  unfold construct constructor
  split
  · rename_i make hmake
    split at hmake
    · split at hmake
      · rename_i hfind
        cases hmake
        exact he.construct name make args hfind
      · cases hmake
    · cases hmake
  · rename_i e herror
    have hcause : c.fails e := by
      split at herror
      · split at herror <;> cases herror
        exact c.fails_ofCause _
      · cases herror
        exact c.fails_ofCause _
    exact obeys_throw hcause

theorem obeys_declare (he : m.embedder.Obeys c) (ctx : ContextRef) (name : String)
    (value : Value) : Action.Obeys c (ctx.declare m name value) := by
  refine obeys_get fun s => ?_
  split
  · rename_i object permissions _
    exact obeys_writeProperty (m := { m with permissions }) he object name value
  · exact obeys_modify fun s => c.bindings s ctx _
  · exact obeys_modify fun s => c.bindings s ctx _

/-- **Everything that evaluations do to the store obeys the conduct**, if the embedder's own
code does. -/
theorem Does.obeys (he : m.embedder.Obeys c) {writes : Prop} {α : Type} {action : Action α}
    (h : m.Does writes action) : Action.Obeys c action := by
  cases h with
  | look f => exact fun s => c.refl s
  | newArray items => exact fun s => c.contents rfl
  | newMap entries => exact fun s => c.contents rfl
  | newFrame bindings parent captured => exact fun s => c.newContext s _
  | declare ctx name value _ => exact obeys_declare he ctx name value
  | assign ctx name value _ => exact obeys_get fun s => obeys_declare he _ name value
  | readProperty base name => exact obeys_readProperty base name
  | writeProperty base name value _ =>
      exact obeys_bind (obeys_writeProperty he base name value) fun _ => obeys_pure _
  | method found base args _ => exact obeys_method he found base args
  | construct name args _ => exact obeys_construct he name args

end Members

end ScriptEngine

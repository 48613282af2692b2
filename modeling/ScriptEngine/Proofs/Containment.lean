import ScriptEngine.Proofs.Territory

/-!
# Members stay in a territory

Builtin methods, properties, overloads, constructors and variables reach only
what belongs to the territory of the values they are given.  The embedder's own
code is assumed to do the same: `Territory.Contains` is what a territory asks of it.

* `Embedder.Raises` — a cause that the embedder's own code fails for;
* `Territory.keeps_run` — builtin methods;
* `Territory.keeps_readProperty`, `Territory.Contains.keeps_writeProperty`,
  `Territory.Contains.keeps_method`, `Territory.Contains.keeps_construct` — members;
* `Territory.holds_lookup`, `Territory.Contains.keeps_assign`,
  `Territory.Contains.keeps_declare` — variables.
-/

namespace ScriptEngine

/-- The embedder's own code fails for a cause, in some store. -/
inductive Embedder.Raises (e : Embedder) (cause : EvalError.Cause) : Prop
  | assign {ref : HostRef} {name : String} {value : Value} {s s' : Store} {fault : EvalError} :
      e.assign ref name value s = .error fault s' → fault.cause = cause → Raises e cause
  | invoke {ref : HostRef} {index : Nat} {args : List Value} {s s' : Store} {fault : EvalError} :
      e.invoke ref index args s = .error fault s' → fault.cause = cause → Raises e cause
  | construct {name : String} {make : List Value → Action Value} {args : List Value}
      {s s' : Store} {fault : EvalError} : e.constructors.find? name = some make →
      make args s = .error fault s' → fault.cause = cause → Raises e cause

namespace Territory

variable {t : Territory} {s : Store} {α : Type} {holds : α → Prop}

/-! ## Arguments and receivers -/

/-- A refusal of arguments speaks of what a method expects. -/
theorem keeps_custom {message : String} (h : 'x' ∈ message.toList) :
    t.Keeps holds (throw (.custom message)) :=
  keeps_fail (EvalError.Cause.isReserved_custom h)

theorem keeps_wrongCount (method : String) (expected got : Nat) :
    t.Keeps holds (Builtin.wrongCount method expected got) :=
  keeps_custom (by simp [toString])

theorem keeps_wrongKind (method expected : String) (got : Value) :
    t.Keeps holds (Builtin.wrongKind method expected got) :=
  keeps_get fun _ _ => keeps_custom (by simp [toString])

theorem keeps_outOfBounds (index : Value) (length : Nat) :
    t.Keeps holds (Builtin.outOfBounds index length) :=
  keeps_get fun _ _ => keeps_fail rfl

theorem keeps_wrongReceiver (operation : String) (receiver : Value) :
    t.Keeps holds (Builtin.wrongReceiver operation receiver) :=
  keeps_get fun _ _ => keeps_fail rfl

theorem keeps_noProperty (name : String) (base : Value) :
    t.Keeps holds (noProperty name base) :=
  keeps_get fun _ _ => keeps_fail rfl

theorem keeps_arity (method : String) (args : List Value) (expected : Nat) :
    t.Keeps (fun _ => True) (Builtin.arity method args expected) := by
  unfold Builtin.arity
  split
  · exact keeps_pure trivial
  · exact keeps_wrongCount _ _ _

theorem keeps_textArg (method : String) (args : List Value) (place : Nat) :
    t.Keeps (fun _ => True) (Builtin.textArg method args place) := by
  unfold Builtin.textArg
  split
  · exact keeps_pure trivial
  · exact keeps_wrongKind _ _ _
  · exact keeps_wrongCount _ _ _

theorem keeps_wordArg (method : String) (args : List Value) (place : Nat) :
    t.Keeps (fun _ => True) (Builtin.wordArg method args place) := by
  unfold Builtin.wordArg
  split
  · exact keeps_pure trivial
  · exact keeps_wrongKind _ _ _
  · exact keeps_wrongCount _ _ _

theorem keeps_position (method : String) (args : List Value) (place length : Nat) :
    t.Keeps (fun _ => True) (Builtin.position method args place length) := by
  refine keeps_bind (keeps_wordArg method args place) fun raw _ => ?_
  split
  · exact keeps_pure trivial
  · exact keeps_outOfBounds _ _

theorem keeps_element (method : String) (args : List Value) (place length : Nat) :
    t.Keeps (fun _ => True) (Builtin.element method args place length) := by
  refine keeps_bind (keeps_position method args place length) fun p _ => ?_
  split
  · exact keeps_pure trivial
  · exact keeps_outOfBounds _ _

theorem keeps_receiverText (receiver : Value) :
    t.Keeps (fun _ => True) (Builtin.receiverText receiver) := by
  unfold Builtin.receiverText
  split
  · exact keeps_pure trivial
  · exact keeps_wrongReceiver _ _

/-- The items of a receiver that belongs to a territory do too. -/
theorem keeps_receiverArray (method : String) {receiver : Value} (h : t.Holds receiver) :
    t.Keeps (fun found => t.arrays found.1 ∧ ∀ v ∈ found.2, t.Holds v)
      (Builtin.receiverArray method receiver) := by
  unfold Builtin.receiverArray
  split
  · exact keeps_get fun s hs => keeps_pure ⟨h.arrays, hs.items h.arrays⟩
  · exact keeps_wrongReceiver _ _

/-- The entries of a receiver that belongs to a territory do too. -/
theorem keeps_receiverMap (method : String) {receiver : Value} (h : t.Holds receiver) :
    t.Keeps (fun found => t.maps found.1 ∧ ∀ v ∈ found.2.values, t.Holds v)
      (Builtin.receiverMap method receiver) := by
  unfold Builtin.receiverMap
  split
  · exact keeps_get fun s hs => keeps_pure ⟨h.maps, hs.entries h.maps⟩
  · exact keeps_wrongReceiver _ _

/-- A new array of values of a territory is a value of the territory. -/
theorem keeps_newArray {items : List Value} (h : ∀ v ∈ items, t.Holds v) :
    t.Keeps t.Holds (Builtin.newArray items) := by
  intro s hs
  have hitems : ∀ v ∈ items.toArray, t.Holds v := by simpa using h
  obtain ⟨href, hs'⟩ := hs.newArray hitems
  exact ⟨.array href, hs'⟩

/-- The argument at a place belongs to the territory of all of them; a missing one
is nil. -/
theorem holds_getD {args : List Value} (h : ∀ v ∈ args, t.Holds v) (i : Nat) :
    t.Holds (args.getD i .nil) := by
  rw [List.getD_eq_getElem?_getD]
  cases hget : args[i]? with
  | none => exact .nil
  | some v => exact h v (List.mem_of_getElem? hget)

/-- The item at a place belongs to the territory of all of them; a missing one is
nil. -/
theorem holds_item {items : Array Value} (h : ∀ v ∈ items, t.Holds v) (i : Nat) :
    t.Holds (items.getD i .nil) := by
  rw [Array.getD_eq_getD_getElem?]
  cases hget : items[i]? with
  | none => exact .nil
  | some v => exact h v (Array.mem_of_getElem? hget)

/-- What a key finds belongs to the territory of all values; a missing one is nil. -/
theorem holds_entry {m : OrderedMap Value} (h : ∀ v ∈ m.values, t.Holds v) (key : String) :
    t.Holds ((m.find? key).getD .nil) := by
  cases hfind : m.find? key with
  | none => exact .nil
  | some v => exact h v (OrderedMap.mem_values_of_find hfind)

/-! ## Builtin methods -/

theorem keeps_sizeOf (receiver : Value) : t.Keeps t.Holds (Builtin.sizeOf receiver) := by
  unfold Builtin.sizeOf
  split
  · exact keeps_pure (.number _)
  · exact keeps_get fun _ _ => keeps_pure (.number _)
  · exact keeps_get fun _ _ => keeps_pure (.number _)
  · exact keeps_wrongReceiver _ _

theorem keeps_emptiness (receiver : Value) : t.Keeps t.Holds (Builtin.emptiness receiver) := by
  unfold Builtin.emptiness
  split
  · exact keeps_pure (.bool _)
  · exact keeps_get fun _ _ => keeps_pure (.bool _)
  · exact keeps_get fun _ _ => keeps_pure (.bool _)
  · exact keeps_wrongReceiver _ _

theorem keeps_runSubstring (receiver : Value) (args : List Value) :
    t.Keeps t.Holds (Builtin.runSubstring receiver args) := by
  refine keeps_bind (keeps_receiverText receiver) fun cs _ => ?_
  have hcut : ∀ start stop : Nat, t.Keeps t.Holds (do
      if stop < start then Builtin.outOfBounds (args.getD 1 .nil) cs.length
      return Builtin.textOf ((cs.take stop).drop start)) := by
    intro start stop
    dsimp only
    split
    · exact keeps_bind (keeps_outOfBounds _ _) fun _ (_ : True) => keeps_pure (.text _)
    · exact keeps_pure (.text _)
  have hrest : t.Keeps t.Holds (do
      let start ← Builtin.position "substring" args 0 cs.length
      let stop ← if args.length = 2 then Builtin.position "substring" args 1 cs.length
        else pure cs.length
      if stop < start then Builtin.outOfBounds (args.getD 1 .nil) cs.length
      return Builtin.textOf ((cs.take stop).drop start)) := by
    refine keeps_bind (keeps_position _ _ _ _) fun start _ => ?_
    dsimp only
    split
    · exact keeps_bind (keeps_position _ _ _ _) fun stop _ => hcut start stop
    · exact hcut start _
  dsimp only
  split
  · exact keeps_bind (keeps_wrongCount _ _ _) fun _ (_ : True) => hrest
  · exact hrest

/-- An item of an array is replaced by a value of the territory. -/
theorem keeps_runArraySet {receiver : Value} {args : List Value} (h : t.Holds receiver)
    (hargs : ∀ v ∈ args, t.Holds v) : t.Keeps t.Holds (Builtin.runArraySet receiver args) := by
  refine keeps_bind (keeps_arity _ _ _) fun _ _ => ?_
  refine keeps_bind (keeps_receiverArray _ h) fun found hfound => ?_
  refine keeps_bind (keeps_element _ _ _ _) fun i _ => ?_
  refine keeps_bind (keeps_modify fun s hs => ?_) fun _ _ => keeps_pure (holds_item hfound.2 i)
  refine hs.modifyItems fun items hitems v hv => ?_
  have hset : v ∈ items.setIfInBounds i (args.getD 1 .nil) := hv
  rcases Array.mem_or_eq_of_mem_setIfInBounds hset with hv | rfl
  · exact hitems v hv
  · exact holds_getD hargs 1

theorem keeps_runArrayRemove {receiver : Value} (args : List Value) (h : t.Holds receiver) :
    t.Keeps t.Holds (Builtin.runArrayRemove receiver args) := by
  refine keeps_bind (keeps_arity _ _ _) fun _ _ => ?_
  refine keeps_bind (keeps_receiverArray _ h) fun found hfound => ?_
  refine keeps_bind (keeps_element _ _ _ _) fun i _ => ?_
  refine keeps_bind (keeps_modify fun s hs => ?_) fun _ _ => keeps_pure (holds_item hfound.2 i)
  refine hs.modifyItems fun items hitems v hv => ?_
  rw [Array.eraseIdxIfInBounds] at hv
  split at hv
  · exact hitems v (Array.mem_of_mem_eraseIdx hv)
  · exact hitems v hv

theorem keeps_runArrayJoin {receiver : Value} (args : List Value) (h : t.Holds receiver) :
    t.Keeps t.Holds (Builtin.runArrayJoin receiver args) := by
  refine keeps_bind (keeps_receiverArray _ h) fun found hfound => ?_
  have hjoined : ∀ sep : List Char, t.Keeps t.Holds (do
      let s ← get
      return .text ((String.ofList sep).intercalate (found.2.toList.map s.plain))) :=
    fun sep => keeps_get fun _ _ => keeps_pure (.text _)
  dsimp only
  split
  · exact hjoined _
  · exact keeps_bind (keeps_textArg _ _ _) fun sep _ => hjoined sep
  · exact keeps_bind (keeps_wrongCount _ _ _) fun sep (_ : True) => hjoined sep

/-- A method of a text that looks for its argument in the characters. -/
theorem keeps_searchText (method : String) (receiver : Value) (args : List Value)
    (answer : List Char → List Char → Value) (hanswer : ∀ arg cs, t.Holds (answer arg cs)) :
    t.Keeps t.Holds (do
      Builtin.arity method args 1
      let cs ← Builtin.receiverText receiver
      return answer (← Builtin.textArg method args 0) cs) := by
  refine keeps_bind (keeps_arity _ _ _) fun _ _ => ?_
  refine keeps_bind (keeps_receiverText receiver) fun cs _ => ?_
  exact keeps_bind (keeps_textArg _ _ _) fun arg _ => keeps_pure (hanswer arg cs)

/-- A place is a number. -/
theorem holds_placeValue : ∀ place : Option Nat, t.Holds (Builtin.placeValue place)
  | some _ => .number _
  | none => .number _

/-- Builtin methods stay in the territory of their receiver and arguments. -/
theorem keeps_run (b : Builtin) {receiver : Value} {args : List Value} (h : t.Holds receiver)
    (hargs : ∀ v ∈ args, t.Holds v) : t.Keeps t.Holds (b.run receiver args) := by
  have hchecked : ∀ (method : String) (expected : Nat) (rest : Action Value),
      t.Keeps t.Holds rest → t.Keeps t.Holds (do Builtin.arity method args expected; rest) :=
    fun method expected rest hrest => keeps_bind (keeps_arity method args expected) fun _ _ => hrest
  cases b with
  | size => exact hchecked _ _ _ (keeps_sizeOf receiver)
  | isEmpty => exact hchecked _ _ _ (keeps_emptiness receiver)
  | upper | lower | trim =>
      refine hchecked _ _ _ ?_
      exact keeps_bind (keeps_receiverText receiver) fun _ _ => keeps_pure (.text _)
  | substring => exact keeps_runSubstring receiver args
  | textIndexOf =>
      exact keeps_searchText "indexOf" receiver args
        (fun arg cs => Builtin.placeValue (Search.indexOf? arg cs)) fun _ _ => holds_placeValue _
  | textContains =>
      exact keeps_searchText "contains" receiver args
        (fun arg cs => .bool (Search.contains arg cs)) fun _ _ => .bool _
  | startsWith =>
      exact keeps_searchText "startsWith" receiver args
        (fun arg cs => .bool (arg.isPrefixOf cs)) fun _ _ => .bool _
  | endsWith =>
      exact keeps_searchText "endsWith" receiver args
        (fun arg cs => .bool (arg.isSuffixOf cs)) fun _ _ => .bool _
  | split =>
      refine hchecked _ _ _ (keeps_bind (keeps_receiverText receiver) fun cs _ => ?_)
      refine keeps_bind (keeps_textArg _ _ _) fun sep _ => keeps_newArray fun v hv => ?_
      obtain ⟨part, -, rfl⟩ := List.mem_map.mp hv
      exact .text _
  | replace =>
      refine hchecked _ _ _ (keeps_bind (keeps_receiverText receiver) fun cs _ => ?_)
      refine keeps_bind (keeps_textArg _ _ _) fun old _ => ?_
      exact keeps_bind (keeps_textArg _ _ _) fun new _ => keeps_pure (.text _)
  | charAt =>
      refine hchecked _ _ _ (keeps_bind (keeps_receiverText receiver) fun cs _ => ?_)
      refine keeps_bind (keeps_element _ _ _ _) fun i _ => keeps_pure ?_
      split
      · exact .text _
      · exact .nil
  | arrayGet =>
      refine hchecked _ _ _ (keeps_bind (keeps_receiverArray _ h) fun found hfound => ?_)
      exact keeps_bind (keeps_element _ _ _ _) fun i _ => keeps_pure (holds_item hfound.2 i)
  | arrayContains =>
      refine hchecked _ _ _ (keeps_bind (keeps_receiverArray _ h) fun found _ => ?_)
      exact keeps_get fun _ _ => keeps_pure (.bool _)
  | arrayIndexOf =>
      refine hchecked _ _ _ (keeps_bind (keeps_receiverArray _ h) fun found _ => ?_)
      exact keeps_get fun _ _ => keeps_pure (holds_placeValue _)
  | arrayAdd =>
      refine hchecked _ _ _ (keeps_bind (keeps_receiverArray _ h) fun found _ => ?_)
      refine keeps_bind (keeps_modify fun s hs => ?_) fun _ _ => keeps_pure (.bool _)
      refine hs.modifyItems fun items hitems v hv => ?_
      rcases Array.mem_push.mp hv with hv | rfl
      · exact hitems v hv
      · exact holds_getD hargs 0
  | arraySet => exact keeps_runArraySet h hargs
  | arrayRemove => exact keeps_runArrayRemove args h
  | arrayJoin => exact keeps_runArrayJoin args h
  | mapGet =>
      refine hchecked _ _ _ (keeps_bind (keeps_receiverMap _ h) fun found hfound => ?_)
      exact keeps_get fun _ _ => keeps_pure (holds_entry hfound.2 _)
  | mapContainsKey =>
      refine hchecked _ _ _ (keeps_bind (keeps_receiverMap _ h) fun found _ => ?_)
      exact keeps_get fun _ _ => keeps_pure (.bool _)
  | mapPut =>
      refine hchecked _ _ _ (keeps_bind (keeps_receiverMap _ h) fun found hfound => ?_)
      refine keeps_get fun _ _ => keeps_bind (keeps_modify fun s hs => ?_) fun _ _ =>
        keeps_pure (holds_entry hfound.2 _)
      refine hs.modifyEntries fun entries hentries v hv => ?_
      rcases OrderedMap.mem_values_insert hv with rfl | hv
      · exact holds_getD hargs 1
      · exact hentries v hv
  | mapRemove =>
      refine hchecked _ _ _ (keeps_bind (keeps_receiverMap _ h) fun found hfound => ?_)
      refine keeps_get fun _ _ => keeps_bind (keeps_modify fun s hs => ?_) fun _ _ =>
        keeps_pure (holds_entry hfound.2 _)
      exact hs.modifyEntries fun entries hentries v hv =>
        hentries v (OrderedMap.mem_values_erase hv)
  | mapKeys =>
      refine hchecked _ _ _ (keeps_bind (keeps_receiverMap _ h) fun found _ => ?_)
      refine keeps_newArray fun v hv => ?_
      obtain ⟨key, -, rfl⟩ := List.mem_map.mp hv
      exact .text _
  | mapValues =>
      refine hchecked _ _ _ (keeps_bind (keeps_receiverMap _ h) fun found hfound => ?_)
      exact keeps_newArray hfound.2
  | curry =>
      cases receiver with
      | function closure => exact keeps_pure (h.curry hargs)
      | _ => exact keeps_get fun _ _ => keeps_fail rfl

/-! ## Members -/

/-- What a territory asks of the embedder's own code: from values of the territory it
stays in the territory, and it fails for causes of the territory. -/
structure Contains (t : Territory) (e : Embedder) : Prop where
  assign : ∀ {ref : HostRef} {name : String} {value : Value}, t.hosts ref → t.Holds value →
    t.Keeps (fun _ => True) (e.assign ref name value)
  invoke : ∀ {ref : HostRef} {index : Nat} {args : List Value}, t.hosts ref →
    (∀ v ∈ args, t.Holds v) → t.Keeps t.Holds (e.invoke ref index args)
  construct : ∀ {name : String} {make : List Value → Action Value} {args : List Value},
    e.constructors.find? name = some make → (∀ v ∈ args, t.Holds v) → t.Keeps t.Holds (make args)

/-- An embedder without objects and constructors has no code that fails. -/
theorem not_raises_none {cause : EvalError.Cause} : ¬Embedder.none.Raises cause := by
  intro h
  cases h with
  | assign hresult _ => cases hresult
  | invoke hresult _ => cases hresult
  | construct hfind _ _ => simp [Embedder.none, OrderedMap.find?, OrderedMap.empty] at hfind

/-- Every territory contains an embedder without objects and constructors. -/
theorem contains_none : t.Contains Embedder.none where
  assign _ _ := keeps_pure trivial
  invoke _ _ := keeps_pure .nil
  construct hfind := by simp [Embedder.none, OrderedMap.find?, OrderedMap.empty] at hfind

variable {m : Members}

/-- What is kept at a place of a value of a territory belongs to it. -/
theorem keeps_read (place : Place) {base : Value} (h : t.Holds base) :
    t.Keeps t.Holds (place.read base) := by
  refine keeps_get fun s hs => ?_
  split
  · exact keeps_pure (holds_entry (hs.entries h.maps) _)
  · dsimp only
    split
    · rename_i hitem
      exact keeps_pure (hs.items h.arrays _ (Array.mem_of_getElem? hitem))
    · exact keeps_fail rfl
  · split
    · rename_i hvalue
      exact keeps_pure (hs.fields h.hosts _ (OrderedMap.mem_values_of_find hvalue))
    · exact keeps_noProperty _ _
  · exact keeps_noProperty _ _
  · exact keeps_noProperty _ _
  · exact keeps_noProperty _ _

/-- Writing a value of a territory to a place of another one stays in it. -/
theorem Contains.keeps_write {e : Embedder} (he : t.Contains e) (place : Place)
    {base value : Value} (h : t.Holds base) (hvalue : t.Holds value) :
    t.Keeps (fun _ => True) (place.write e base value) := by
  unfold Place.write
  split
  · refine keeps_modify fun s hs => hs.modifyEntries fun entries hentries v hv => ?_
    rcases OrderedMap.mem_values_insert hv with rfl | hv
    · exact hvalue
    · exact hentries v hv
  · refine keeps_get fun s _ => ?_
    dsimp only
    split
    · refine keeps_modify fun s hs => hs.modifyItems fun items hitems v hv => ?_
      rcases Array.mem_or_eq_of_mem_setIfInBounds hv with hv | rfl
      · exact hitems v hv
      · exact hvalue
    · exact keeps_fail rfl
  · refine keeps_bind (he.assign h.hosts hvalue) fun written _ => ?_
    split
    · exact keeps_pure trivial
    · exact keeps_noProperty _ _
  · exact keeps_noProperty _ _
  · exact keeps_noProperty _ _
  · exact keeps_noProperty _ _

/-- Reading a property stays in the territory of the value. -/
theorem keeps_readProperty (m : Members) {base : Value} (name : String) (h : t.Holds base) :
    t.Keeps t.Holds (m.readProperty base name) := by
  refine keeps_get fun s _ => ?_
  split
  · rename_i property _
    cases property with
    | stored place => exact keeps_read place h
    | computed builtin => exact keeps_run builtin h (by simp)
  · exact keeps_noProperty _ _

/-- Writing a property stays in the territory of both values. -/
theorem Contains.keeps_writeProperty (hm : t.Contains m.embedder) {base value : Value}
    (name : String) (h : t.Holds base) (hvalue : t.Holds value) :
    t.Keeps (fun _ => True) (m.writeProperty base name value) := by
  refine keeps_get fun s _ => ?_
  split
  · exact hm.keeps_write _ h hvalue
  · exact keeps_noProperty _ _

/-- Calling a method stays in the territory of the receiver and the arguments. -/
theorem Contains.keeps_method {e : Embedder} (he : t.Contains e) (method : Method) {base : Value}
    {args : List Value} (h : t.Holds base) (hargs : ∀ v ∈ args, t.Holds v) :
    t.Keeps t.Holds (method.run e base args) := by
  unfold Method.run
  split
  · exact keeps_run _ h hargs
  · exact he.invoke h.hosts hargs
  · exact keeps_get fun _ _ => keeps_fail rfl

/-- Calling a constructor stays in the territory of the arguments. -/
theorem Contains.keeps_construct (hm : t.Contains m.embedder) (name : String) {args : List Value}
    (hargs : ∀ v ∈ args, t.Holds v) : t.Keeps t.Holds (m.construct name args) := by
  unfold Members.construct Members.constructor
  split
  · rename_i make hmake
    split at hmake
    · split at hmake
      · rename_i hfind
        cases hmake
        exact hm.construct hfind hargs
      · cases hmake
    · cases hmake
  · rename_i hmake
    split at hmake
    · split at hmake <;> cases hmake
      exact keeps_fail rfl
    · cases hmake
      exact keeps_fail rfl

/-! ## Variables -/

/-- A variable that is a property of a value of a territory belongs to it. -/
theorem holds_member {permissions : Option Permissions} {object value : Value} {name : String}
    (hs : t.Closed s) (hobject : t.Holds object)
    (hvalue : ContextRef.member? m s permissions object name = some value) : t.Holds value := by
  have hread := keeps_readProperty { m with permissions } name hobject s hs
  unfold ContextRef.member? at hvalue
  split at hvalue
  · rename_i hresult
    rw [hresult] at hread
    cases hvalue
    exact hread.1
  · cases hvalue

/-- A variable of a context of a territory belongs to it. -/
theorem holds_lookup {name : String} {value : Value} (hs : t.Closed s) :
    ∀ {ctx : ContextRef}, t.contexts ctx → ctx.lookup m s name = some value → t.Holds value := by
  intro ctx
  induction hindex : ctx.index using Nat.strongRecOn generalizing ctx with
  | ind index ih =>
      intro hctx hvalue
      rw [ContextRef.lookup] at hvalue
      have hvalues := hs.values hctx
      have hlinks := hs.links hctx
      split at hvalue
      · rename_i bindings _ hcontext
        rw [hcontext] at hvalues
        exact hvalues _ (OrderedMap.mem_values_of_find hvalue)
      · rename_i object permissions hcontext
        rw [hcontext] at hvalues
        exact holds_member hs (hvalues _ (List.mem_singleton_self object)) hvalue
      · rename_i bindings parent captured hcontext
        rw [hcontext] at hvalues hlinks
        split at hvalue
        · rename_i hfind
          cases hvalue
          exact hvalues _ (OrderedMap.mem_values_of_find hfind)
        · split at hvalue
          · rename_i found hparent
            cases hvalue
            split at hparent
            · rename_i hless
              exact ih _ (hindex ▸ hless) rfl (hlinks _ (List.mem_cons_self ..)) hparent
            · cases hparent
          · split at hvalue
            · rename_i outer _ _
              split at hvalue
              · rename_i hless
                have houter := hlinks _ (List.mem_cons_of_mem _ (List.mem_singleton_self _))
                exact ih _ (hindex ▸ hless) rfl houter hvalue
              · cases hvalue
            · cases hvalue

/-- The context that an assignment changes is in the territory of the one that it
starts from. -/
theorem contexts_holder {name : String} (hs : t.Closed s) :
    ∀ {ctx : ContextRef}, t.contexts ctx → t.contexts (ctx.holder m s name) := by
  intro ctx
  induction hindex : ctx.index using Nat.strongRecOn generalizing ctx with
  | ind index ih =>
      intro hctx
      rw [ContextRef.holder]
      have hlinks := hs.links hctx
      split
      · exact hctx
      · exact hctx
      · rename_i bindings parent captured hcontext
        rw [hcontext] at hlinks
        have honward : t.contexts (ContextRef.onward m s parent captured name) := by
          unfold ContextRef.onward
          split
          · split
            · exact hlinks _ (List.mem_cons_of_mem _ (List.mem_singleton_self _))
            · exact hlinks _ (List.mem_cons_self ..)
          · exact hlinks _ (List.mem_cons_self ..)
        split
        · exact hctx
        · split
          · rename_i hless
            exact ih _ (hindex ▸ hless) rfl honward
          · exact hctx

/-- Declaring a variable stays in the territory of its context and its value. -/
theorem Contains.keeps_declare (hm : t.Contains m.embedder) {ctx : ContextRef} (name : String)
    {value : Value} (hctx : t.contexts ctx) (hvalue : t.Holds value) :
    t.Keeps (fun _ => True) (ctx.declare m name value) := by
  refine keeps_get fun s hs => ?_
  have hvalues := hs.values hctx
  split
  · rename_i object permissions hcontext
    rw [hcontext] at hvalues
    exact Contains.keeps_writeProperty (m := { m with permissions }) hm name
      (hvalues _ (List.mem_singleton_self object)) hvalue
  · exact keeps_modify fun s hs => hs.bind hvalue
  · exact keeps_modify fun s hs => hs.bind hvalue

/-- Assigning to a variable stays in the territory of its context and its value. -/
theorem Contains.keeps_assign (hm : t.Contains m.embedder) {ctx : ContextRef} (name : String)
    {value : Value} (hctx : t.contexts ctx) (hvalue : t.Holds value) :
    t.Keeps (fun _ => True) (ctx.assign m name value) :=
  keeps_get fun _ hs => hm.keeps_declare name (contexts_holder hs hctx) hvalue

end Territory

end ScriptEngine

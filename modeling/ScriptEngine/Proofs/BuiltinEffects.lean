import ScriptEngine.Proofs.OrderedMap
import ScriptEngine.Proofs.Sandbox

/-!
# What builtin methods change

A builtin method looks at its receiver and checks its arguments, and only then changes
anything.  So a call that fails leaves the store as it was.  A call that succeeds may make a
new array; of the collections that were there before it changes its receiver at most, and
only five methods do so.

* `Store.ChangesOnly` — a later store in which at most one collection has changed;
* `Action.Atomic` — an action that fails without a change, with a rule for each way in which
  methods are put together;
* `Builtin.Alters` — what the five methods do to their receivers;
* `Eval.builtin_atomic_local` — all methods, and calls of them in programs.
-/

namespace ScriptEngine

/-! ## Changes of the store -/

/-- **A later store in which at most one collection has changed.**  New collections may have
been made. -/
structure Store.ChangesOnly (changed : Option Collection) (s s' : Store) : Prop where
  arrays : s.arrays.size ≤ s'.arrays.size
  maps : s.maps.size ≤ s'.maps.size
  items : ∀ ref : ArrayRef, ref.index < s.arrays.size → changed ≠ some (.array ref) →
    s'.items ref = s.items ref
  entries : ∀ ref : MapRef, ref.index < s.maps.size → changed ≠ some (.map ref) →
    s'.entries ref = s.entries ref
  hosts : s'.hosts = s.hosts
  contexts : s'.contexts = s.contexts
  tokens : s'.tokens = s.tokens
  units : s'.units = s.units

namespace Store

variable {s : Store} {changed : Option Collection}

theorem ChangesOnly.refl (s : Store) : s.ChangesOnly changed s :=
  ⟨Nat.le_refl _, Nat.le_refl _, fun _ _ _ => rfl, fun _ _ _ => rfl, rfl, rfl, rfl, rfl⟩

/-- What changes nothing changes one collection at most. -/
theorem ChangesOnly.mono {s' : Store} (h : s.ChangesOnly none s') : s.ChangesOnly changed s' :=
  { h with
    items := fun ref href _ => h.items ref href (Option.some_ne_none _).symm
    entries := fun ref href _ => h.entries ref href (Option.some_ne_none _).symm }

/-- A value that is no collection outside the store. -/
def Holds (s : Store) : Value → Prop
  | .array ref => ref.index < s.arrays.size
  | .map ref => ref.index < s.maps.size
  | _ => True

/-- An array that has an item is one of the store. -/
theorem index_lt_of_items {ref : ArrayRef} {i : Nat} (hi : i < (s.items ref).size) :
    ref.index < s.arrays.size := by
  by_contra hout
  have hnone : s.items ref = #[] := by
    rw [Store.items, Array.getD_eq_getD_getElem?, Array.getElem?_eq_none (Nat.le_of_not_lt hout)]
    rfl
  rw [hnone] at hi
  exact absurd hi (Nat.not_lt_zero i)

/-- The items of an array that is changed. -/
theorem items_modifyItems {ref : ArrayRef} (h : ref.index < s.arrays.size)
    (f : Array Value → Array Value) : (s.modifyItems ref f).items ref = f (s.items ref) := by
  simp [modifyItems, items, Array.getElem?_modify, Array.getElem?_eq_getElem h]

/-- The entries of a map that is changed. -/
theorem entries_modifyEntries {ref : MapRef} (h : ref.index < s.maps.size)
    (f : OrderedMap Value → OrderedMap Value) :
    (s.modifyEntries ref f).entries ref = f (s.entries ref) := by
  simp [modifyEntries, entries, Array.getElem?_modify, Array.getElem?_eq_getElem h]

/-- A change of an array changes no other collection. -/
theorem changesOnly_modifyItems (s : Store) (ref : ArrayRef) (f : Array Value → Array Value) :
    s.ChangesOnly (some (.array ref)) (s.modifyItems ref f) := by
  have hsize : s.arrays.size ≤ (s.modifyItems ref f).arrays.size := by simp [modifyItems]
  have hothers : ∀ other : ArrayRef, other.index < s.arrays.size →
      some (Collection.array ref) ≠ some (.array other) →
      (s.modifyItems ref f).items other = s.items other := by
    intro other _ hother
    have hne : ref.index ≠ other.index := by
      intro heq
      apply hother
      cases ref
      cases other
      cases heq
      rfl
    simp [modifyItems, items, Array.getElem?_modify, hne]
  exact { ChangesOnly.refl s with arrays := hsize, items := hothers }

/-- A change of a map changes no other collection. -/
theorem changesOnly_modifyEntries (s : Store) (ref : MapRef)
    (f : OrderedMap Value → OrderedMap Value) :
    s.ChangesOnly (some (.map ref)) (s.modifyEntries ref f) := by
  have hsize : s.maps.size ≤ (s.modifyEntries ref f).maps.size := by simp [modifyEntries]
  have hothers : ∀ other : MapRef, other.index < s.maps.size →
      some (Collection.map ref) ≠ some (.map other) →
      (s.modifyEntries ref f).entries other = s.entries other := by
    intro other _ hother
    have hne : ref.index ≠ other.index := by
      intro heq
      apply hother
      cases ref
      cases other
      cases heq
      rfl
    simp [modifyEntries, entries, Array.getElem?_modify, hne]
  exact { ChangesOnly.refl s with maps := hsize, entries := hothers }

/-- A new array changes no collection that was there before. -/
theorem changesOnly_newArray (s : Store) (made : Array Value) :
    s.ChangesOnly none (s.newArray made).2 := by
  have hsize : s.arrays.size ≤ (s.newArray made).2.arrays.size := by simp [newArray]
  have hitems : ∀ ref : ArrayRef, ref.index < s.arrays.size → none ≠ some (Collection.array ref) →
      (s.newArray made).2.items ref = s.items ref := by
    intro ref href _
    simp [newArray, items, Array.getElem?_push_lt href, Array.getElem?_eq_getElem href]
  exact { ChangesOnly.refl s with arrays := hsize, items := hitems }

end Store

/-! ## Actions that fail without a change -/

namespace Action

variable {α β : Type}

/-- **An action that fails without a change** in a store.  If it succeeds, `effect` says with
what and which store it leaves behind. -/
def Atomic (s : Store) (effect : α → Store → Prop) (action : Action α) : Prop :=
  match action s with
  | .ok a s' => effect a s'
  | .error _ s' => s' = s

variable {s : Store} {effect : α → Store → Prop}

/-- A check changes nothing, and what it finds satisfies `holds`. -/
abbrev Checks (s : Store) (holds : α → Prop) (action : Action α) : Prop :=
  Atomic s (fun a s' => s' = s ∧ holds a) action

theorem atomic_pure {a : α} (h : effect a s) : Atomic s effect (pure a) := h

theorem atomic_throw (e : EvalError) : Atomic s effect (throw e) := rfl

/-- An action that starts by looking at the store. -/
theorem atomic_get {next : Store → Action α} (h : Atomic s effect (next s)) :
    Atomic s effect (get >>= next) := h

/-- An action that starts with a check. -/
theorem atomic_check {check : Action β} {next : β → Action α} {holds : β → Prop}
    (h : Checks s holds check) (hnext : ∀ b, holds b → Atomic s effect (next b)) :
    Atomic s effect (check >>= next) := by
  unfold Checks Atomic at h
  unfold Atomic
  cases hcheck : check s with
  | ok b s' =>
      rw [hcheck] at h
      obtain ⟨rfl, hb⟩ := h
      rw [ok_bind hcheck]
      exact hnext b hb
  | error e s' =>
      rw [hcheck] at h
      rw [error_bind hcheck]
      exact h

/-- An action that starts with a failure. -/
theorem atomic_refuse {failing : Action β} {next : β → Action α}
    (h : Checks s (fun _ => False) failing) : Atomic s effect (failing >>= next) :=
  atomic_check h fun _ => False.elim

/-- The last steps of a method: a change of the store and the result. -/
theorem atomic_modify {f : Store → Store} {a : α} (h : effect a (f s)) :
    Atomic s effect (do modify f; return a) := h

/-! ## Checks of receivers and arguments -/

theorem atomic_wrongCount (method : String) (expected got : Nat) :
    Atomic s effect (Builtin.wrongCount method expected got) := atomic_throw _

theorem atomic_wrongKind (method expected : String) (got : Value) :
    Atomic s effect (Builtin.wrongKind method expected got) := atomic_get (atomic_throw _)

theorem atomic_outOfBounds (index : Value) (length : Nat) :
    Atomic s effect (Builtin.outOfBounds index length) := atomic_get (atomic_throw _)

theorem atomic_wrongReceiver (operation : String) (receiver : Value) :
    Atomic s effect (Builtin.wrongReceiver operation receiver) := atomic_get (atomic_throw _)

theorem checks_arity (method : String) (args : List Value) (expected : Nat) :
    Checks s (fun _ => args.length = expected) (Builtin.arity method args expected) := by
  unfold Builtin.arity
  by_cases h : args.length = expected
  · rw [if_pos h]
    exact atomic_pure ⟨rfl, h⟩
  · rw [if_neg h]
    exact atomic_wrongCount _ _ _

theorem checks_textArg (method : String) (args : List Value) (place : Nat) :
    Checks s (fun _ => True) (Builtin.textArg method args place) := by
  unfold Builtin.textArg
  split
  · exact atomic_pure ⟨rfl, trivial⟩
  · exact atomic_wrongKind _ _ _
  · exact atomic_wrongCount _ _ _

/-- A word is asked for as a number. -/
theorem checks_wordArg (method : String) (args : List Value) (place : Nat) :
    Checks s (fun word => ∃ n : Number, args[place]? = some (.number n) ∧ n.clampInt64 = word)
      (Builtin.wordArg method args place) := by
  unfold Builtin.wordArg
  split
  · rename_i n h
    exact atomic_pure ⟨rfl, n, h, rfl⟩
  · exact atomic_wrongKind _ _ _
  · exact atomic_wrongCount _ _ _

/-- The position that an argument stands for. -/
def IsPosition (args : List Value) (place i : Nat) : Prop :=
  ∃ n : Number, args[place]? = some (.number n) ∧ n.clampInt64 = i

theorem checks_position (method : String) (args : List Value) (place length : Nat) :
    Checks s (fun i => IsPosition args place i ∧ i ≤ length)
      (Builtin.position method args place length) := by
  apply atomic_check (checks_wordArg method args place)
  rintro word ⟨n, hn, rfl⟩
  by_cases h : 0 ≤ n.clampInt64 ∧ n.clampInt64 ≤ length
  · rw [if_pos h]
    refine atomic_pure ⟨rfl, ⟨n, hn, ?_⟩, ?_⟩ <;> omega
  · rw [if_neg h]
    exact atomic_outOfBounds _ _

theorem checks_element (method : String) (args : List Value) (place length : Nat) :
    Checks s (fun i => IsPosition args place i ∧ i < length)
      (Builtin.element method args place length) := by
  apply atomic_check (checks_position method args place length)
  rintro i ⟨hi, -⟩
  by_cases h : i < length
  · rw [if_pos h]
    exact atomic_pure ⟨rfl, hi, h⟩
  · rw [if_neg h]
    exact atomic_outOfBounds _ _

theorem checks_receiverText (receiver : Value) :
    Checks s (fun _ => True) (Builtin.receiverText receiver) := by
  unfold Builtin.receiverText
  split
  · exact atomic_pure ⟨rfl, trivial⟩
  · exact atomic_wrongReceiver _ _

theorem checks_receiverArray (method : String) (receiver : Value) :
    Checks s (fun found => ∃ ref, receiver = .array ref ∧ found = (ref, s.items ref))
      (Builtin.receiverArray method receiver) := by
  unfold Builtin.receiverArray
  split
  · exact atomic_get (atomic_pure ⟨rfl, _, rfl, rfl⟩)
  · exact atomic_wrongReceiver _ _

theorem checks_receiverMap (method : String) (receiver : Value) :
    Checks s (fun found => ∃ ref, receiver = .map ref ∧ found = (ref, s.entries ref))
      (Builtin.receiverMap method receiver) := by
  unfold Builtin.receiverMap
  split
  · exact atomic_get (atomic_pure ⟨rfl, _, rfl, rfl⟩)
  · exact atomic_wrongReceiver _ _

end Action

/-! ## Methods -/

namespace Builtin

/-- The methods that change their receivers. -/
def changesReceiver (b : Builtin) : Bool :=
  b ∈ [arrayAdd, arraySet, arrayRemove, mapPut, mapRemove]

/-- **What the methods do to their receivers** that change them, and their results.  An array
gets another item at its end, or another one in one place, or loses the one in a place, and
those after it move up by one.  In a map only the entry of the key is another one. -/
def Alters (b : Builtin) (receiver : Value) (args : List Value) (s : Store) (result : Value)
    (s' : Store) : Prop :=
  match b with
  | arrayAdd => ∃ ref v, receiver = .array ref ∧ args = [v] ∧ result = .bool true ∧
      s'.items ref = (s.items ref).push v
  | arraySet => ∃ ref n v i, receiver = .array ref ∧ args = [.number n, v] ∧
      n.clampInt64 = (i : Nat) ∧ (s.items ref)[i]? = some result ∧
      (s'.items ref).size = (s.items ref).size ∧
      ∀ j : Nat, (s'.items ref)[j]? = if j = i then some v else (s.items ref)[j]?
  | arrayRemove => ∃ ref n i, receiver = .array ref ∧ args = [.number n] ∧
      n.clampInt64 = (i : Nat) ∧ (s.items ref)[i]? = some result ∧
      (s'.items ref).size + 1 = (s.items ref).size ∧
      ∀ j : Nat, (s'.items ref)[j]? = if j < i then (s.items ref)[j]? else (s.items ref)[j + 1]?
  | mapPut => ∃ ref k v, receiver = .map ref ∧ args = [k, v] ∧
      result = ((s.entries ref).find? (s.plain k)).getD .nil ∧
      (s'.entries ref).find? (s.plain k) = some v ∧
      (∀ other ≠ s.plain k, (s'.entries ref).find? other = (s.entries ref).find? other) ∧
      (s'.entries ref).keys = if s.plain k ∈ (s.entries ref).keys then (s.entries ref).keys
        else (s.entries ref).keys ++ [s.plain k]
  | mapRemove => ∃ ref k, receiver = .map ref ∧ args = [k] ∧
      result = ((s.entries ref).find? (s.plain k)).getD .nil ∧
      (s'.entries ref).find? (s.plain k) = none ∧
      (∀ other ≠ s.plain k, (s'.entries ref).find? other = (s.entries ref).find? other) ∧
      (s'.entries ref).keys = (s.entries ref).keys.erase (s.plain k)
  | _ => True

/-- **What a call that succeeds does**: it changes its receiver at most, in the way of its
method. -/
structure Effect (b : Builtin) (receiver : Value) (args : List Value) (s : Store)
    (result : Value) (s' : Store) : Prop where
  locality : s.ChangesOnly (if b.changesReceiver then receiver.collection? else none) s'
  alters : s.Holds receiver → b.Alters receiver args s result s'

open ScriptEngine.Action

variable {s : Store}

/-- The other methods may make a new array, and change nothing that was there. -/
theorem effect_other {b : Builtin} {receiver : Value} {args : List Value} {result : Value}
    {s' : Store} (hb : b.changesReceiver = false) (h : s.ChangesOnly none s') :
    b.Effect receiver args s result s' := by
  constructor
  · rw [hb]
    exact h
  · intro _
    cases b with
    | arrayAdd | arraySet | arrayRemove | mapPut | mapRemove => cases hb
    | _ => trivial

/-- Adding an item to an array of the store. -/
theorem effect_add (ref : ArrayRef) (v : Value) :
    arrayAdd.Effect (.array ref) [v] s (.bool true) (s.modifyItems ref (·.push v)) where
  locality := s.changesOnly_modifyItems ref _
  alters href := ⟨ref, v, rfl, rfl, rfl, Store.items_modifyItems href _⟩

/-- Writing an item in the place of another. -/
theorem effect_set {ref : ArrayRef} {n : Number} {i : Nat} (hi : i < (s.items ref).size)
    (hn : n.clampInt64 = i) (v : Value) :
    arraySet.Effect (.array ref) [.number n, v] s ((s.items ref).getD i .nil)
      (s.modifyItems ref (·.set! i v)) := by
  constructor
  · exact s.changesOnly_modifyItems ref _
  intro href
  have hitems := Store.items_modifyItems href (·.set! i v)
  refine ⟨ref, n, v, i, rfl, rfl, hn, ?_, ?_, ?_⟩
  · simp [Array.getElem?_eq_getElem hi]
  · rw [hitems]
    simp
  · intro j
    rw [hitems, Array.set!_eq_setIfInBounds, Array.getElem?_setIfInBounds]
    grind

/-- Removing an item. -/
theorem effect_remove {ref : ArrayRef} {n : Number} {i : Nat} (hi : i < (s.items ref).size)
    (hn : n.clampInt64 = i) :
    arrayRemove.Effect (.array ref) [.number n] s ((s.items ref).getD i .nil)
      (s.modifyItems ref (·.eraseIdxIfInBounds i)) := by
  constructor
  · exact s.changesOnly_modifyItems ref _
  intro href
  have hitems : (s.modifyItems ref (·.eraseIdxIfInBounds i)).items ref =
      (s.items ref).eraseIdx i := by
    rw [Store.items_modifyItems href, Array.eraseIdxIfInBounds, dif_pos hi]
  refine ⟨ref, n, i, rfl, rfl, hn, ?_, ?_, ?_⟩
  · simp [Array.getElem?_eq_getElem hi]
  · rw [hitems, Array.size_eraseIdx]
    omega
  · intro j
    rw [hitems, Array.getElem?_eraseIdx]

/-- Writing an entry of a map of the store. -/
theorem effect_put (ref : MapRef) (k v : Value) :
    mapPut.Effect (.map ref) [k, v] s (((s.entries ref).find? (s.plain k)).getD .nil)
      (s.modifyEntries ref (·.insert (s.plain k) v)) := by
  constructor
  · exact s.changesOnly_modifyEntries ref _
  intro href
  have hentries := Store.entries_modifyEntries href (·.insert (s.plain k) v)
  refine ⟨ref, k, v, rfl, rfl, rfl, ?_, ?_, ?_⟩
  · rw [hentries]
    exact OrderedMap.find_insert_self _ _ _
  · intro other hother
    rw [hentries]
    exact OrderedMap.find_insert_of_ne hother
  · rw [hentries]
    exact OrderedMap.keys_insert _ _ _

/-- Removing an entry of a map of the store. -/
theorem effect_erase (ref : MapRef) (k : Value) :
    mapRemove.Effect (.map ref) [k] s (((s.entries ref).find? (s.plain k)).getD .nil)
      (s.modifyEntries ref (·.erase (s.plain k))) := by
  constructor
  · exact s.changesOnly_modifyEntries ref _
  intro href
  have hentries := Store.entries_modifyEntries href (·.erase (s.plain k))
  refine ⟨ref, k, rfl, rfl, rfl, ?_, ?_, ?_⟩
  · rw [hentries]
    exact OrderedMap.find_erase_self _ _
  · intro other hother
    rw [hentries]
    exact OrderedMap.find_erase_of_ne hother
  · rw [hentries]
    exact OrderedMap.keys_erase _ _

section Run

variable {receiver : Value} {args : List Value}

/-- Every method is atomic after the number of its arguments is checked. -/
theorem atomic_checked {effect : Value → Store → Prop} {method : String} {expected : Nat}
    {rest : Action Value} (h : args.length = expected → Atomic s effect rest) :
    Atomic s effect (do arity method args expected; rest) :=
  atomic_check (checks_arity method args expected) fun _ => h

theorem atomic_sizeOf : Atomic s (size.Effect receiver args s) (sizeOf receiver) := by
  unfold sizeOf
  split
  · exact effect_other rfl (.refl s)
  · exact effect_other rfl (.refl s)
  · exact effect_other rfl (.refl s)
  · exact atomic_wrongReceiver _ _

theorem atomic_emptiness : Atomic s (isEmpty.Effect receiver args s) (emptiness receiver) := by
  unfold emptiness
  split
  · exact effect_other rfl (.refl s)
  · exact effect_other rfl (.refl s)
  · exact effect_other rfl (.refl s)
  · exact atomic_wrongReceiver _ _

theorem atomic_runSubstring :
    Atomic s (substring.Effect receiver args s) (runSubstring receiver args) := by
  have hcut : ∀ cs : List Char, ∀ start stop : Nat,
      Atomic s (substring.Effect receiver args s) (do
        if stop < start then outOfBounds (args.getD 1 .nil) cs.length
        return textOf ((cs.take stop).drop start)) := by
    intro cs start stop
    by_cases h : stop < start
    · rw [if_pos h]
      exact atomic_refuse (atomic_outOfBounds _ _)
    · rw [if_neg h]
      exact effect_other rfl (.refl s)
  have hrest : ∀ cs : List Char, Atomic s (substring.Effect receiver args s) (do
      let start ← position "substring" args 0 cs.length
      let stop ← if args.length = 2 then position "substring" args 1 cs.length
        else pure cs.length
      if stop < start then outOfBounds (args.getD 1 .nil) cs.length
      return textOf ((cs.take stop).drop start)) := by
    intro cs
    apply atomic_check (checks_position _ _ _ _)
    intro start _
    by_cases h : args.length = 2
    · simp only [h, if_true]
      exact atomic_check (checks_position _ _ _ _) fun stop _ => hcut cs start stop
    · simp only [h, if_false]
      exact hcut cs start _
  apply atomic_check (checks_receiverText receiver)
  intro cs _
  dsimp only
  split
  · exact atomic_refuse (atomic_wrongCount _ _ _)
  · exact hrest cs

theorem atomic_runArraySet :
    Atomic s (arraySet.Effect receiver args s) (runArraySet receiver args) := by
  apply atomic_checked
  intro hlength
  obtain ⟨k, v, rfl⟩ := List.length_eq_two.mp hlength
  apply atomic_check (checks_receiverArray "set" receiver)
  rintro _ ⟨ref, rfl, rfl⟩
  apply atomic_check (checks_element "set" _ 0 _)
  rintro i ⟨⟨n, hn, hi⟩, hlt⟩
  obtain rfl : k = .number n := Option.some.inj hn
  exact atomic_modify (effect_set hlt hi v)

theorem atomic_runArrayRemove :
    Atomic s (arrayRemove.Effect receiver args s) (runArrayRemove receiver args) := by
  apply atomic_checked
  intro hlength
  obtain ⟨k, rfl⟩ := List.length_eq_one_iff.mp hlength
  apply atomic_check (checks_receiverArray "remove" receiver)
  rintro _ ⟨ref, rfl, rfl⟩
  apply atomic_check (checks_element "remove" _ 0 _)
  rintro i ⟨⟨n, hn, hi⟩, hlt⟩
  obtain rfl : k = .number n := Option.some.inj hn
  exact atomic_modify (effect_remove hlt hi)

theorem atomic_runArrayJoin :
    Atomic s (arrayJoin.Effect receiver args s) (runArrayJoin receiver args) := by
  apply atomic_check (checks_receiverArray "join" receiver)
  rintro ⟨ref, items⟩ -
  have hjoined : ∀ sep : List Char, Atomic s (arrayJoin.Effect receiver args s) (do
      let s ← get
      return Value.text ((String.ofList sep).intercalate (items.toList.map s.plain))) :=
    fun _ => effect_other rfl (.refl s)
  dsimp only
  split
  · exact hjoined _
  · exact atomic_check (checks_textArg _ _ _) fun sep _ => hjoined sep
  · exact atomic_refuse (atomic_wrongCount _ _ _)

/-- **Every method is atomic**: it fails without a change, and if it succeeds then it changes
its receiver at most, in its own way. -/
theorem atomic_run (b : Builtin) : Atomic s (b.Effect receiver args s) (b.run receiver args) := by
  cases b with
  | size => exact atomic_checked fun _ => atomic_sizeOf
  | isEmpty => exact atomic_checked fun _ => atomic_emptiness
  | upper | lower | trim =>
      apply atomic_checked
      intro _
      exact atomic_check (checks_receiverText receiver) fun _ _ => effect_other rfl (.refl s)
  | substring => exact atomic_runSubstring
  | textIndexOf | textContains | startsWith | endsWith =>
      apply atomic_checked
      intro _
      apply atomic_check (checks_receiverText receiver)
      intro cs _
      exact atomic_check (checks_textArg _ _ _) fun _ _ => effect_other rfl (.refl s)
  | split =>
      apply atomic_checked
      intro _
      apply atomic_check (checks_receiverText receiver)
      intro cs _
      apply atomic_check (checks_textArg _ _ _)
      intro sep _
      exact effect_other rfl (s.changesOnly_newArray _)
  | replace =>
      apply atomic_checked
      intro _
      apply atomic_check (checks_receiverText receiver)
      intro cs _
      apply atomic_check (checks_textArg _ _ _)
      intro old _
      exact atomic_check (checks_textArg _ _ _) fun _ _ => effect_other rfl (.refl s)
  | charAt =>
      apply atomic_checked
      intro _
      apply atomic_check (checks_receiverText receiver)
      intro cs _
      exact atomic_check (checks_element _ _ _ _) fun _ _ => effect_other rfl (.refl s)
  | arrayGet =>
      apply atomic_checked
      intro _
      apply atomic_check (checks_receiverArray _ receiver)
      intro found _
      exact atomic_check (checks_element _ _ _ _) fun _ _ => effect_other rfl (.refl s)
  | arrayContains | arrayIndexOf =>
      apply atomic_checked
      intro _
      exact atomic_check (checks_receiverArray _ receiver) fun _ _ => effect_other rfl (.refl s)
  | arrayAdd =>
      apply atomic_checked
      intro hlength
      obtain ⟨v, rfl⟩ := List.length_eq_one_iff.mp hlength
      apply atomic_check (checks_receiverArray _ receiver)
      rintro _ ⟨ref, rfl, rfl⟩
      exact atomic_modify (effect_add ref v)
  | arraySet => exact atomic_runArraySet
  | arrayRemove => exact atomic_runArrayRemove
  | arrayJoin => exact atomic_runArrayJoin
  | mapGet | mapContainsKey =>
      apply atomic_checked
      intro _
      exact atomic_check (checks_receiverMap _ receiver) fun _ _ => effect_other rfl (.refl s)
  | mapPut =>
      apply atomic_checked
      intro hlength
      obtain ⟨k, v, rfl⟩ := List.length_eq_two.mp hlength
      apply atomic_check (checks_receiverMap _ receiver)
      rintro _ ⟨ref, rfl, rfl⟩
      exact atomic_get (atomic_modify (effect_put ref k v))
  | mapRemove =>
      apply atomic_checked
      intro hlength
      obtain ⟨k, rfl⟩ := List.length_eq_one_iff.mp hlength
      apply atomic_check (checks_receiverMap _ receiver)
      rintro _ ⟨ref, rfl, rfl⟩
      exact atomic_get (atomic_modify (effect_erase ref k))
  | mapKeys | mapValues =>
      apply atomic_checked
      intro _
      apply atomic_check (checks_receiverMap _ receiver)
      intro found _
      exact effect_other rfl (s.changesOnly_newArray _)
  | curry =>
      cases receiver with
      | function closure => exact effect_other rfl (.refl s)
      | _ => exact atomic_get (atomic_throw _)

end Run

/-- Host objects have no builtin methods. -/
theorem method_of_ofName {m : Members} {s : Store} {base : Value} {name : String}
    {args : List Value} {b : Builtin} (hb : ofName? base name = some b)
    (hshown : m.shows (base.typeName s) name = true) :
    m.method? s base name args = some (.builtin b) := by
  unfold Members.method?
  rw [if_pos hshown]
  cases base with
  | object ref => cases hb
  | _ => exact congrArg (Option.map Method.builtin) hb

/-- All methods of other values are builtin. -/
theorem exists_builtin {m : Members} {s : Store} {base : Value} {name : String}
    {args : List Value} {found : Method} (hbase : ∀ ref, base ≠ .object ref)
    (hfound : m.method? s base name args = some found) : ∃ b, found = .builtin b := by
  unfold Members.method? at hfound
  split at hfound
  · split at hfound
    · exact absurd rfl (hbase _)
    · obtain ⟨b, -, rfl⟩ := Option.map_eq_some_iff.mp hfound
      exact ⟨b, rfl⟩
  · cases hfound

end Builtin

/-! ## Calls in programs -/

namespace Eval

section Operands

variable {ev : Evaluator} {ctx : ContextRef} {r r' r'' : Run}

/-- The values of several nodes, one after the other. -/
theorem all_cons {first : Node} {rest : List Node} {v : Value} {values : List Value}
    (hfirst : ev first ctx r = .ok v r') (hrest : all ev rest ctx r' = .ok values r'') :
    all ev (first :: rest) ctx r = .ok (v :: values) r'' := by
  unfold all at hrest ⊢
  rw [List.mapM_cons, ok_bind hfirst, ok_bind hrest]
  rfl

/-- The values of several nodes are those of the first and of the rest. -/
theorem exists_of_all_cons {first : Node} {rest : List Node} {v : Value} {values : List Value}
    (h : all ev (first :: rest) ctx r = .ok (v :: values) r'') :
    ∃ r', ev first ctx r = .ok v r' ∧ all ev rest ctx r' = .ok values r'' := by
  unfold all at h ⊢
  rw [List.mapM_cons] at h
  obtain ⟨a, r', hfirst, h⟩ := exists_of_bind h
  obtain ⟨as, r₂, hrest, h⟩ := exists_of_bind h
  cases h
  exact ⟨r', hfirst, hrest⟩

/-- The value of one node. -/
theorem value_of_all {first : Node} {v : Value} (h : all ev [first] ctx r = .ok [v] r') :
    ev first ctx r = .ok v r' := by
  obtain ⟨r₁, hfirst, hnil⟩ := exists_of_all_cons h
  cases hnil
  exact hfirst

end Operands

variable {rules : Semantics} {ev : Evaluator} {r r' : Run} {base : Value} {name : String}
  {args : List Value} {ctx : ContextRef} {signal : Signal}

/-- A call of a method that is found runs it; `call` is not one that is found. -/
theorem callMethod_found {found : Method} (ctx : ContextRef)
    (hfound : rules.members.method? r.store base name args = some found) :
    callMethod rules ev base name args ctx r =
      resolve (found.run rules.members.embedder base args) r := by
  unfold callMethod
  split
  · unfold Members.method? at hfound
    split at hfound <;> cases hfound
  · rw [look_bind, hfound]

/-- A call of a method that is not found fails, unless it is a function that runs in any
case. -/
theorem callMethod_missing (hmissing : rules.members.method? r.store base name args = none)
    (hcode : unguarded? r.store base name = none) :
    callMethod rules ev base name args ctx r =
      absent (.methodNotFound name (base.typeName r.store)) .nil r := by
  unfold callMethod
  split
  · cases hcode
  · rw [unguarded_of_not_call ‹_›] at hcode
    rw [look_bind, hmissing]
    dsimp only
    rw [look_bind, hcode]
    exact unresolved_absent rfl

/-- A method that fails leaves the run as it was, and nil is the result if it fails because
something is not there and evaluation is not strict. -/
theorem resolve_atomic {action : Action Value} {effect : Value → Store → Prop} {e : EvalError}
    {s' : Store} (h : Action.Atomic r.store effect action)
    (hfails : action r.store = .error e s') :
    resolve action r =
      if !r.options.strict && e.cause.isUnresolved then .ok .nil r else .error (.error e) r := by
  obtain ⟨s, options, depth⟩ := r
  have hfails : action s = .error e s' := hfails
  unfold Action.Atomic at h
  dsimp only at h
  rw [hfails] at h
  obtain rfl : s' = s := h
  rw [resolve, hfails]
  show (if !options.strict && e.cause.isUnresolved then pure .nil
    else throw (.error e) : Eval Value) ⟨s', options, depth⟩ = _
  split <;> rfl

theorem error_resolve {action : Action Value} {effect : Value → Store → Prop}
    (h : Action.Atomic r.store effect action) (hfails : resolve action r = .error signal r') :
    r' = r := by
  cases haction : action r.store with
  | error e s' =>
      rw [resolve_atomic h haction] at hfails
      split at hfails
      · cases hfails
      · cases hfails
        rfl
  | ok v s' =>
      obtain ⟨s, options, depth⟩ := r
      have haction : action s = .ok v s' := haction
      rw [resolve, haction] at hfails
      cases hfails

theorem error_absent {cause : EvalError.Cause}
    (hfails : absent cause (.nil : Value) r = .error signal r') : r' = r := by
  unfold absent at hfails
  split at hfails
  · cases hfails
    rfl
  · cases hfails

theorem error_memberOfNil (hfails : memberOfNil name r = .error signal r') : r' = r := by
  have hnil : memberOfNil name r =
      (if r.options.safe then pure .nil else fail (.nilAccess name) : Eval Value) r := rfl
  rw [hnil] at hfails
  split at hfails
  · cases hfails
  · cases hfails
    rfl

/-- The call of a method on operands that have their values. -/
theorem methodNode_operands {object : Node} {nodes : List Node} {r₁ r₂ : Run}
    (hobject : ev object ctx r = .ok base r₁) (hargs : all ev nodes ctx r₁ = .ok args r₂) :
    methodNode rules ev object name nodes ctx r =
      (if base.isNil then memberOfNil name else callMethod rules ev base name args ctx) r₂ := by
  rw [methodNode, ok_bind hobject, ok_bind hargs]

/-- A value that has a builtin method is not nil. -/
theorem not_isNil_of_ofName {b : Builtin} (hb : Builtin.ofName? base name = some b) :
    ¬base.isNil = true := by
  cases base with
  | nil => cases hb
  | _ => exact Bool.false_ne_true

/-- **A call of a builtin method** that the permissions show runs it. -/
theorem methodCall_builtin {object : Node} {nodes : List Node} {r₁ r₂ : Run} {b : Builtin}
    (fuel : Nat) (span : Span) (hobject : ev object ctx r = .ok base r₁)
    (hargs : all ev nodes ctx r₁ = .ok args r₂) (hb : Builtin.ofName? base name = some b)
    (hshown : rules.members.shows (base.typeName r₂.store) name = true) :
    node rules fuel ev (.methodCall span object name nodes) ctx r =
      resolve (b.run base args) r₂ := by
  have hnode : node rules fuel ev (.methodCall span object name nodes) ctx r = _ :=
    methodNode_operands hobject hargs
  rw [hnode, if_neg (not_isNil_of_ofName hb),
    callMethod_found ctx (Builtin.method_of_ofName hb hshown)]
  rfl

/-- **Builtin methods are atomic and local.**  Take any store, any builtin method, any
receiver and any list of arguments.  If the call fails, the store is as it was.  If it
succeeds, no collection but the receiver has changed, and the receiver has under five methods
only: an array gets another item at its end, or another one in the place that the first
argument stands for, or loses that one, and then the later ones move up by one; in a map the
entry of the key is another one or is gone, and all other entries stay, in their order.

So it is with calls in a program, after their operands are evaluated.  A builtin method that
fails ends the call in the very run that the operands left behind: with its error or, if
something is not there and evaluation is not strict, with nil.  And so do all calls that fail
and do not run a function of the program or a method of a host object. -/
theorem builtin_atomic_local :
    (∀ (s : Store) (b : Builtin) (receiver : Value) (args : List Value),
      Action.Atomic s (b.Effect receiver args s) (b.run receiver args)) ∧
    ∀ (rules : Semantics) (fuel : Nat) (ev : Evaluator) (span : Span) (object : Node)
      (name : String) (nodes : List Node) (ctx : ContextRef) (r r₁ r₂ : Run) (base : Value)
      (args : List Value),
      ev object ctx r = .ok base r₁ → all ev nodes ctx r₁ = .ok args r₂ →
      (∀ b, Builtin.ofName? base name = some b →
        rules.members.shows (base.typeName r₂.store) name = true →
        ∀ e s', b.run base args r₂.store = .error e s' →
          node rules fuel ev (.methodCall span object name nodes) ctx r =
            if !r₂.options.strict && e.cause.isUnresolved then .ok .nil r₂
            else .error (.error e) r₂) ∧
      ((∀ ref, base ≠ .object ref) →
        rules.members.method? r₂.store base name args ≠ none ∨
          unguarded? r₂.store base name = none →
        ∀ signal r', node rules fuel ev (.methodCall span object name nodes) ctx r =
          .error signal r' → r' = r₂) := by
  refine ⟨fun s b receiver args => Builtin.atomic_run b, ?_⟩
  intro rules fuel ev span object name nodes ctx r r₁ r₂ base args hobject hargs
  constructor
  · intro b hb hshown e s' hfails
    rw [methodCall_builtin fuel span hobject hargs hb hshown]
    exact resolve_atomic (Builtin.atomic_run b) hfails
  · intro hbase hcode signal r' hfails
    have hnode : node rules fuel ev (.methodCall span object name nodes) ctx r = _ :=
      methodNode_operands hobject hargs
    rw [hnode] at hfails
    by_cases hnil : base.isNil
    · rw [if_pos hnil] at hfails
      exact error_memberOfNil hfails
    · rw [if_neg hnil] at hfails
      cases hfound : rules.members.method? r₂.store base name args with
      | some found =>
          obtain ⟨b, rfl⟩ := Builtin.exists_builtin hbase hfound
          rw [callMethod_found ctx hfound] at hfails
          exact error_resolve (Builtin.atomic_run b) hfails
      | none =>
          rw [callMethod_missing hfound (hcode.resolve_left (absurd hfound))] at hfails
          exact error_absent hfails

/-- An item that is not there is removed under strict options. -/
theorem remove_beyond_end_atomic :
    let rules : Semantics := ⟨⟨true⟩, ⟨none, .none⟩⟩
    let s : Store :=
      { Store.empty with
        arrays := #[#[.number 1, .number 2]]
        contexts := #[.vars (.ofList [("a", .array ⟨0⟩)]) none] }
    let r : Run := ⟨s, { Options.standard with strict := true }, .top 8⟩
    let ev := rules.evaluate 1
    let nodes : List Node := [.literal default (.number 5)]
    let call : Node := .methodCall default (.ident default "a") "remove" nodes
    ev (.ident default "a") ⟨0⟩ r = .ok (.array ⟨0⟩) r ∧ all ev nodes ⟨0⟩ r = .ok [.number 5] r ∧
      node rules 1 ev call ⟨0⟩ r =
        .error (.error (.ofCause (.indexOutOfBounds "5" 2))) r ∧
      ∀ signal r', node rules 1 ev call ⟨0⟩ r = .error signal r' → r' = r := by
  intro rules s r ev nodes call
  have hobject : ev (.ident default "a") ⟨0⟩ r = .ok (.array ⟨0⟩) r := by with_unfolding_all rfl
  have hargs : all ev nodes ⟨0⟩ r = .ok [.number 5] r := by with_unfolding_all rfl
  have hcall := builtin_atomic_local.2 rules 1 ev default (.ident default "a") "remove" nodes ⟨0⟩
    r r r (.array ⟨0⟩) [.number 5] hobject hargs
  refine ⟨hobject, hargs, ?_, ?_⟩
  · exact hcall.1 .arrayRemove rfl rfl _ s (by with_unfolding_all rfl)
  · apply hcall.2
    · intro ref h
      cases h
    · left
      rw [Builtin.method_of_ofName (b := .arrayRemove) rfl rfl]
      exact Option.some_ne_none _

end Eval

end ScriptEngine

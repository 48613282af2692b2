import Mathlib.Logic.Relation
import ScriptEngine.Proofs.Printing

/-!
# What printing leaves out

A value is printed with everything below it, part by part.  A collection can come up at
many places: printing comes to it again through every collection that holds it.  It is
left out where it is open already, which is where it holds itself, and it is written in
full everywhere else.

A place is a trail, the positions of the parts that lead to it.  `Store.Follows` says what
stands at every place that printing comes to, by the texts of the parts alone.  It does not
mention any bound, and the places are finitely many, because a trail goes through every
collection at most once.

* `Store.occurrence?` — what printing comes to at the end of a trail;
* `Store.rendering` — the plain recursion, which does not end on a cycle;
* `Store.printing` — the recursion with one set of open collections, which each collection
  joins and leaves again;
* `Store.display_elides_cycles` — the text shown for a value is the one that the rule gives,
  and the one that both recursions give where they end.
-/

namespace ScriptEngine

/-- The value that is a collection. -/
def Collection.toValue : Collection → Value
  | .array ref => .array ref
  | .map ref => .map ref

/-- What stands for a collection that is left out. -/
def Collection.elision : Collection → String
  | .array _ => "[...]"
  | .map _ => "\x7b...\x7d"

theorem Collection.collection?_toValue (c : Collection) : c.toValue.collection? = some c := by
  cases c <;> rfl

theorem Value.eq_of_collection {value : Value} {c : Collection} (h : value.collection? = some c) :
    value = c.toValue := by
  cases value <;> cases h <;> rfl

namespace Store

/-! ## Places -/

/-- A way down from a value: the position of each part that is taken, the last one first. -/
abbrev Trail := List Nat

/-- Something that printing comes to: a value, and the collections that are open around it,
the innermost first. -/
structure Occurrence where
  value : Value
  path : List Collection

/-- The collection that is met again, if the value is one of those that are open. -/
def Occurrence.repeated? (o : Occurrence) : Option Collection :=
  o.value.collection?.filter (o.path.contains ·)

variable (s : Store)

/-- The items of an array and the values of a map, in order. -/
def parts : Value → List Value
  | .array ref => (s.items ref).toList
  | .map ref => (s.entries ref).values
  | _ => []

/-- A part of a collection that is not open already. -/
def part? (o : Occurrence) (i : Nat) : Option Occurrence :=
  match o.value.collection? with
  | some c => if c ∈ o.path then none else (s.parts o.value)[i]?.map fun part => ⟨part, c :: o.path⟩
  | none => none

/-- What printing comes to at the end of a trail, if it goes down that trail. -/
def occurrence? (root : Value) : Trail → Option Occurrence
  | [] => some ⟨root, []⟩
  | i :: trail => (occurrence? root trail).bind (s.part? · i)

/-- What is written for a value in full, given what is written for its parts. -/
def written (nested : Bool) (value : Value) (texts : List String) : String :=
  match value with
  | .nil => "null"
  | .bool value => if value then "true" else "false"
  | .number value => value.render
  | .text value => if nested then Quoted.shown value else value
  | .function closure => "function(" ++ ", ".intercalate closure.params ++ ")"
  | .object ref => "<" ++ (s.host ref).typeName ++ ">"
  | .array _ => "[" ++ ", ".intercalate texts ++ "]"
  | .map ref =>
    if (s.entries ref).isEmpty then "\x7b:\x7d"
    else
      "\x7b" ++ ", ".intercalate
        ((s.entries ref).keys.zipWith (fun key text => Quoted.shown key ++ ": " ++ text) texts) ++
        "\x7d"

/-- What is written for something that printing comes to, given what is written for its
parts: a collection that is open already is left out. -/
def writtenAt (nested : Bool) (o : Occurrence) (texts : List String) : String :=
  match o.repeated? with
  | some c => c.elision
  | none => s.written nested o.value texts

/-- **The rule of printing.**  What stands at a place that printing comes to is made of what
stands at the places of its parts.  Only a text that is printed itself is not nested. -/
def Follows (root : Value) (text : Trail → String) : Prop :=
  ∀ trail o, s.occurrence? root trail = some o →
    text trail = s.writtenAt (!trail.isEmpty) o
      ((List.range (s.parts o.value).length).map fun i => text (i :: trail))

/-! ## Recursions -/

/-- The plain recursion over a value and its parts, with nothing left out; `none` if it
has not ended `depth` levels down. -/
def rendering : (depth : Nat) → (nested : Bool) → Value → Option String
  | 0, _, _ => none
  | depth + 1, nested, value =>
    ((s.parts value).mapM (rendering depth true)).map (s.written nested value)

/-- The recursion with one set of open collections.  A collection joins it before its parts
are printed and leaves it after the last one. -/
def printing : (depth : Nat) → (nested : Bool) → Value → StateM (List Collection) String
  | 0, _, _ => pure ""
  | depth + 1, nested, value => do
    match value.collection? with
    | none => return s.written nested value []
    | some c =>
      if (← get).contains c then return c.elision
      modify (c :: ·)
      let texts ← (s.parts value).mapM (printing depth true)
      modify (·.erase c)
      return s.written nested value texts

/-- A value has another one as a part. -/
def HasPart (value part : Value) : Prop := part ∈ s.parts value

/-- Nothing below a value holds itself. -/
def Acyclic (root : Value) : Prop :=
  ∀ value, Relation.ReflTransGen s.HasPart root value → ¬Relation.TransGen s.HasPart value value

/-! ## Parts -/

variable {s : Store}

/-- A value that is no collection has no parts. -/
theorem parts_eq_nil {value : Value} (h : value.collection? = none) : s.parts value = [] := by
  cases value <;> first | rfl | cases h

/-- A collection with a part is one of the store. -/
theorem mem_collections_of_part {value part : Value} {c : Collection}
    (hc : value.collection? = some c) (hpart : part ∈ s.parts value) : c ∈ s.collections := by
  cases value with
  | array ref =>
      cases hc
      exact array_mem_collections (array_index_lt hpart)
  | map ref =>
      cases hc
      obtain ⟨entry, hentry, -⟩ := List.mem_map.mp hpart
      exact map_mem_collections (map_index_lt hentry)
  | _ => cases hc

/-- Printing comes to the parts of a collection that is not open, and the collection is
open there. -/
theorem part_eq_some {o o' : Occurrence} {i : Nat} (h : s.part? o i = some o') :
    ∃ c, o.value.collection? = some c ∧ c ∉ o.path ∧ (s.parts o.value)[i]? = some o'.value ∧
      o'.path = c :: o.path := by
  unfold part? at h
  split at h
  · rename_i c hc
    split at h
    · cases h
    · rename_i hnew
      obtain ⟨part, hpart, rfl⟩ := Option.map_eq_some_iff.mp h
      exact ⟨c, hc, hnew, hpart, rfl⟩
  · cases h

theorem repeated_of_mem {o : Occurrence} {c : Collection} (hc : o.value.collection? = some c)
    (hmem : c ∈ o.path) : o.repeated? = some c := by
  simp [Occurrence.repeated?, hc, hmem]

/-- Nothing is met again exactly if the value is no open collection. -/
theorem repeated_eq_none {o : Occurrence} :
    o.repeated? = none ↔ ∀ c, o.value.collection? = some c → c ∉ o.path := by
  simp [Occurrence.repeated?, Option.filter_eq_none_iff]

/-- Printing comes to every part of a collection that is not met again. -/
theorem part_of_lt {o : Occurrence} (hnew : o.repeated? = none) {i : Nat}
    (hi : i < (s.parts o.value).length) :
    s.part? o i = some ⟨(s.parts o.value)[i], o.value.collection?.toList ++ o.path⟩ := by
  cases hc : o.value.collection? with
  | none => simp [parts_eq_nil hc] at hi
  | some c =>
      have hpath : c ∉ o.path := repeated_eq_none.mp hnew c hc
      simp [part?, hc, hpath, List.getElem?_eq_getElem hi]

/-! ## The path to a place -/

/-- One bound is large enough for every path. -/
theorem OpenPath.full {path : List Collection} {depth : Nat} (h : s.OpenPath path depth) :
    s.OpenPath path (s.collectionCount + 1) where
  nodup := h.nodup
  within := h.within
  bound := by omega

variable {root : Value} {trail : Trail} {o : Occurrence}

/-- Printing starts at the value itself, below nothing. -/
theorem occurrence_root (root : Value) : s.occurrence? root [] = some ⟨root, []⟩ := rfl

/-- A trail goes through as many collections as it has steps, and never twice through one. -/
theorem openPath_of_occurrence (h : s.occurrence? root trail = some o) :
    s.OpenPath o.path (s.collectionCount + 1) ∧ o.path.length = trail.length := by
  induction trail generalizing o with
  | nil =>
      cases h
      exact ⟨⟨List.nodup_nil, List.nil_subset _, Nat.lt_succ_self _⟩, rfl⟩
  | cons i trail ih =>
      obtain ⟨before, hbefore, hpart⟩ := Option.bind_eq_some_iff.mp h
      obtain ⟨hopen, hlength⟩ := ih hbefore
      obtain ⟨c, hc, hnew, hvalue, hpath⟩ := part_eq_some hpart
      have hmem : c ∈ s.collections := mem_collections_of_part hc (List.mem_of_getElem? hvalue)
      rw [hpath]
      exact ⟨(hopen.cons hnew hmem).full, by simp [hlength]⟩

/-- Printing goes no further down than there are collections. -/
theorem length_le_of_occurrence (h : s.occurrence? root trail = some o) :
    trail.length ≤ s.collectionCount := by
  obtain ⟨hopen, hlength⟩ := openPath_of_occurrence h
  rw [← hlength]
  exact hopen.length_le

/-! ## The text at a place -/

variable (s) in
/-- The text of a value below open collections, as `displayWithin` gives it with a bound that
is large enough; a text that is not nested stands for itself. -/
def shown (nested : Bool) (path : List Collection) (value : Value) : String :=
  match nested, value with
  | false, .text value => value
  | _, value => s.displayWithin (s.collectionCount + 1) path value

theorem display_eq_shown (root : Value) : s.display root = s.shown false [] root := by
  cases root <;> rfl

/-- A collection is shown in one way, nested or not. -/
theorem shown_collection (nested : Bool) (path : List Collection) (c : Collection) :
    s.shown nested path c.toValue = s.displayWithin (s.collectionCount + 1) path c.toValue := by
  cases nested <;> cases c <;> rfl

/-- A collection that is open already is left out. -/
theorem displayWithin_of_mem {depth : Nat} {path : List Collection} {c : Collection}
    (h : c ∈ path) : s.displayWithin (depth + 1) path c.toValue = c.elision := by
  cases c <;> simp [Collection.toValue, displayWithin, h, Collection.elision]

/-- Any other collection is written in full, with the texts of its parts. -/
theorem displayWithin_of_not_mem {depth : Nat} {path : List Collection} {c : Collection}
    (nested : Bool) (h : c ∉ path) :
    s.displayWithin (depth + 1) path c.toValue = s.written nested c.toValue
      ((s.parts c.toValue).map (s.displayWithin depth (c :: path))) := by
  cases c with
  | array ref => simp [Collection.toValue, displayWithin, h, written, parts]
  | map ref =>
      -- an entry is its key and its value side by side
      have hentries :
          (s.entries ref).keys.zipWith (fun key text => Quoted.shown key ++ ": " ++ text)
              ((s.parts (.map ref)).map (s.displayWithin depth (.map ref :: path))) =
            (s.entries ref).entries.map fun entry => Quoted.shown entry.1 ++ ": " ++
              s.displayWithin depth (.map ref :: path) entry.2 := by
        simp [parts, OrderedMap.keys, OrderedMap.values, List.zipWith_map, List.zipWith_self]
      simp only [Collection.toValue, displayWithin, List.contains_iff_mem, h, if_false, written,
        hentries]
      rfl

/-- The texts of the parts of a collection do not depend on the bound that is left. -/
theorem map_displayWithin_parts {path : List Collection} {c : Collection}
    (hopen : s.OpenPath path (s.collectionCount + 1)) (hnew : c ∉ path) :
    (s.parts c.toValue).map (s.displayWithin s.collectionCount (c :: path)) =
      (s.parts c.toValue).map (s.shown true (c :: path)) := by
  apply List.map_congr_left
  intro part hpart
  have hinner : s.OpenPath (c :: path) s.collectionCount :=
    hopen.cons hnew (mem_collections_of_part c.collection?_toValue hpart)
  rw [displayWithin_bound hinner hinner.full]
  cases part <;> rfl

/-- **One step of printing.**  The text of a value is made of the texts of its parts, below
one collection more. -/
theorem shown_eq {nested : Bool} {path : List Collection}
    (hopen : s.OpenPath path (s.collectionCount + 1)) (value : Value) :
    s.shown nested path value = s.writtenAt nested ⟨value, path⟩
      ((s.parts value).map (s.shown true (value.collection?.toList ++ path))) := by
  cases hc : value.collection? with
  | none =>
      have hnew : (Occurrence.mk value path).repeated? = none := by simp [repeated_eq_none, hc]
      rw [writtenAt, hnew]
      cases value with
      | array ref => cases hc
      | map ref => cases hc
      | _ => cases nested <;> rfl
  | some c =>
      obtain rfl := Value.eq_of_collection hc
      rw [shown_collection]
      by_cases hmem : c ∈ path
      · have hrepeated : (Occurrence.mk c.toValue path).repeated? = some c :=
          repeated_of_mem hc hmem
        rw [writtenAt, hrepeated, displayWithin_of_mem hmem]
      · have hnew : (Occurrence.mk c.toValue path).repeated? = none := by
          simp [repeated_eq_none, hc, hmem]
        rw [writtenAt, hnew, displayWithin_of_not_mem nested hmem,
          map_displayWithin_parts hopen hmem]
        rfl

/-! ## The rule of printing -/

/-- The place of a part of a collection that is not met again. -/
theorem occurrence_part (h : s.occurrence? root trail = some o) (hnew : o.repeated? = none)
    {i : Nat} (hi : i < (s.parts o.value).length) :
    s.occurrence? root (i :: trail) =
      some ⟨(s.parts o.value)[i], o.value.collection?.toList ++ o.path⟩ := by
  rw [occurrence?, h]
  exact part_of_lt hnew hi

/-- What is written at a place depends only on what is written at the places of its parts
that printing comes to. -/
theorem writtenAt_congr {nested : Bool} {text : Trail → String}
    (h : s.occurrence? root trail = some o)
    (htext : ∀ i o', s.occurrence? root (i :: trail) = some o' →
      text (i :: trail) = s.shown true o'.path o'.value) :
    s.writtenAt nested o ((List.range (s.parts o.value).length).map fun i => text (i :: trail)) =
      s.shown nested o.path o.value := by
  rw [shown_eq (openPath_of_occurrence h).1]
  cases hnew : o.repeated? with
  | some c => simp only [writtenAt, hnew]
  | none =>
      have hparts : ((List.range (s.parts o.value).length).map fun i => text (i :: trail)) =
          (s.parts o.value).map (s.shown true (o.value.collection?.toList ++ o.path)) := by
        apply List.ext_getElem
        · simp
        · intro i hi hi'
          have hlt : i < (s.parts o.value).length := by simpa using hi'
          simpa using htext i _ (occurrence_part h hnew hlt)
      rw [hparts]

variable (s) in
/-- What stands at a place that printing comes to. -/
def textAt (root : Value) (trail : Trail) : String :=
  match s.occurrence? root trail with
  | some o => s.shown (!trail.isEmpty) o.path o.value
  | none => ""

theorem textAt_eq (h : s.occurrence? root trail = some o) :
    s.textAt root trail = s.shown (!trail.isEmpty) o.path o.value := by
  rw [textAt, h]

/-- Printing follows its rule. -/
theorem follows_textAt (root : Value) : s.Follows root (s.textAt root) := by
  intro trail o h
  rw [textAt_eq h, writtenAt_congr h]
  intro i o' h'
  exact textAt_eq h'

/-- The rule says what stands at every place: the places are finitely many, and those
furthest down have no parts to go on to. -/
theorem Follows.eq_shown {text : Trail → String} (hfollows : s.Follows root text)
    (h : s.occurrence? root trail = some o) :
    text trail = s.shown (!trail.isEmpty) o.path o.value := by
  obtain ⟨levels, hlevels⟩ := Nat.exists_eq_add_of_le (length_le_of_occurrence h)
  induction levels generalizing trail o with
  | zero =>
      rw [hfollows trail o h, writtenAt_congr h]
      intro i o' h'
      have hle := length_le_of_occurrence h'
      rw [List.length_cons] at hle
      omega
  | succ levels ih =>
      rw [hfollows trail o h, writtenAt_congr h]
      intro i o' h'
      refine ih h' ?_
      rw [List.length_cons]
      omega

/-! ## Cycles -/

/-- What printing comes to is below the value printed and below all collections that are
open there. -/
theorem below_of_occurrence (h : s.occurrence? root trail = some o) :
    Relation.ReflTransGen s.HasPart root o.value ∧
      ∀ c ∈ o.path, Relation.TransGen s.HasPart c.toValue o.value := by
  induction trail generalizing o with
  | nil =>
      cases h
      exact ⟨.refl, by simp⟩
  | cons i trail ih =>
      obtain ⟨before, hbefore, hpart⟩ := Option.bind_eq_some_iff.mp h
      obtain ⟨hroot, hopen⟩ := ih hbefore
      obtain ⟨c, hc, -, hvalue, hpath⟩ := part_eq_some hpart
      have hstep : s.HasPart before.value o.value := List.mem_of_getElem? hvalue
      refine ⟨hroot.tail hstep, fun d hd => ?_⟩
      rw [hpath] at hd
      rcases List.mem_cons.mp hd with rfl | hd
      · rw [← Value.eq_of_collection hc]
        exact .single hstep
      · exact (hopen d hd).tail hstep

/-- A collection that is met again holds itself. -/
theorem Acyclic.not_repeated (hacyclic : s.Acyclic root) (h : s.occurrence? root trail = some o) :
    o.repeated? = none := by
  obtain ⟨hroot, hopen⟩ := below_of_occurrence h
  rw [repeated_eq_none]
  intro c hc hmem
  have hcycle := hopen c hmem
  rw [← Value.eq_of_collection hc] at hcycle
  exact hacyclic o.value hroot hcycle

/-- Where nothing is met again, printing comes to everything that is below a place. -/
theorem exists_longer_trail (hnew : ∀ trail o, s.occurrence? root trail = some o →
      o.repeated? = none)
    (h : s.occurrence? root trail = some o) {value : Value}
    (hbelow : Relation.TransGen s.HasPart o.value value) :
    ∃ longer o', s.occurrence? root longer = some o' ∧ o'.value = value ∧
      trail.length < longer.length := by
  have hstep : ∀ {trail : Trail} {o : Occurrence} {part : Value},
      s.occurrence? root trail = some o → s.HasPart o.value part →
      ∃ i o', s.occurrence? root (i :: trail) = some o' ∧ o'.value = part := by
    intro trail o part h hpart
    obtain ⟨i, hi, rfl⟩ := List.getElem_of_mem hpart
    exact ⟨i, _, occurrence_part h (hnew trail o h) hi, rfl⟩
  induction hbelow with
  | single hpart =>
      obtain ⟨i, o', h', hvalue⟩ := hstep h hpart
      exact ⟨i :: trail, o', h', hvalue, Nat.lt_succ_self _⟩
  | tail _ hpart ih =>
      obtain ⟨longer, before, hbefore, rfl, hlength⟩ := ih
      obtain ⟨i, o', h', hvalue⟩ := hstep hbefore hpart
      exact ⟨i :: longer, o', h', hvalue, Nat.lt_succ_of_lt hlength⟩

/-- A value without repetitions has no cycle below it: printing would go around a cycle for
ever, and no trail is that long. -/
theorem acyclic_of_not_repeated
    (hnew : ∀ trail o, s.occurrence? root trail = some o → o.repeated? = none) :
    s.Acyclic root := by
  intro value hroot hcycle
  have hrounds : ∀ n, ∃ trail o, s.occurrence? root trail = some o ∧ o.value = value ∧
      n ≤ trail.length := by
    intro n
    induction n with
    | zero =>
        rcases Relation.reflTransGen_iff_eq_or_transGen.mp hroot with heq | hbelow
        · exact ⟨[], ⟨root, []⟩, rfl, heq.symm, Nat.zero_le _⟩
        · obtain ⟨trail, o, h, hvalue, -⟩ :=
            exists_longer_trail hnew (occurrence_root root) hbelow
          exact ⟨trail, o, h, hvalue, Nat.zero_le _⟩
    | succ n ih =>
        obtain ⟨trail, o, h, rfl, hlength⟩ := ih
        obtain ⟨longer, o', h', hvalue, hlonger⟩ := exists_longer_trail hnew h hcycle
        exact ⟨longer, o', h', hvalue, by omega⟩
  obtain ⟨trail, o, h, -, hlength⟩ := hrounds (s.collectionCount + 1)
  have hle := length_le_of_occurrence h
  omega

/-! ## Other recursions -/

/-- A step that succeeds on every item succeeds on the list. -/
theorem mapM_eq_some {α β : Type} {f : α → Option β} {g : α → β} {items : List α}
    (h : ∀ item ∈ items, f item = some (g item)) : items.mapM f = some (items.map g) := by
  induction items with
  | nil => rfl
  | cons item items ih =>
      obtain ⟨hitem, hitems⟩ := List.forall_mem_cons.mp h
      simp [List.mapM_cons, hitem, ih hitems]

/-- The plain recursion writes what printing does as far down as there is no cycle. -/
theorem rendering_eq_shown (hacyclic : s.Acyclic root) {depth : Nat}
    (h : s.occurrence? root trail = some o)
    (hdepth : trail.length + depth = s.collectionCount + 1) :
    s.rendering depth (!trail.isEmpty) o.value =
      some (s.shown (!trail.isEmpty) o.path o.value) := by
  induction depth generalizing trail o with
  | zero =>
      have hle := length_le_of_occurrence h
      omega
  | succ depth ih =>
      have hnew := hacyclic.not_repeated h
      have hparts : ∀ part ∈ s.parts o.value, s.rendering depth true part =
          some (s.shown true (o.value.collection?.toList ++ o.path) part) := by
        intro part hpart
        obtain ⟨i, hi, rfl⟩ := List.getElem_of_mem hpart
        refine ih (occurrence_part h hnew hi) ?_
        rw [List.length_cons]
        omega
      have htexts : (s.parts o.value).mapM (s.rendering depth true) =
          some ((s.parts o.value).map (s.shown true (o.value.collection?.toList ++ o.path))) :=
        mapM_eq_some hparts
      rw [rendering, htexts, shown_eq (openPath_of_occurrence h).1, writtenAt, hnew]
      rfl

/-- Steps that leave a state as it is leave it so one after the other. -/
theorem run_mapM_eq {σ α β : Type} {f : α → StateM σ β} {g : α → β} {state : σ} {items : List α}
    (h : ∀ item ∈ items, (f item).run state = (g item, state)) :
    (items.mapM f).run state = (items.map g, state) := by
  induction items with
  | nil => rfl
  | cons item items ih =>
      obtain ⟨hitem, hitems⟩ := List.forall_mem_cons.mp h
      rw [List.mapM_cons, StateT.run_bind, hitem]
      show ((items.mapM f >>= fun rest => pure (g item :: rest)) : StateM σ (List β)).run state = _
      rw [StateT.run_bind, ih hitems]
      rfl

/-- **The set of open collections is the path.**  The recursion with one set writes the text
of the value below the collections in it, and gives the set back as it was. -/
theorem printing_eq_shown {depth : Nat} {path : List Collection} (hopen : s.OpenPath path depth)
    (nested : Bool) (value : Value) :
    (s.printing depth nested value).run path = (s.shown nested path value, path) := by
  induction depth generalizing path nested value with
  | zero => exact absurd hopen.depth_pos (Nat.lt_irrefl 0)
  | succ depth ih =>
      rw [shown_eq hopen.full]
      cases hc : value.collection? with
      | none =>
          have hnew : (Occurrence.mk value path).repeated? = none := by simp [repeated_eq_none, hc]
          simp only [printing, hc, writtenAt, hnew, parts_eq_nil hc, List.map_nil]
          rfl
      | some c =>
          by_cases hmem : c ∈ path
          · have hrepeated : (Occurrence.mk value path).repeated? = some c :=
              repeated_of_mem hc hmem
            simp only [printing, hc, List.contains_eq_mem, decide_eq_true_eq, StateT.run_bind,
              StateT.run_get, pure_bind, hmem, if_true, StateT.run_pure, writtenAt, hrepeated]
            rfl
          · have hnew : (Occurrence.mk value path).repeated? = none := by
              simp [repeated_eq_none, hc, hmem]
            have htexts : ((s.parts value).mapM (s.printing depth true)).run (c :: path) =
                ((s.parts value).map (s.shown true (c :: path)), c :: path) := by
              apply run_mapM_eq
              intro part hpart
              exact ih (hopen.cons hmem (mem_collections_of_part hc hpart)) true part
            simp only [printing, hc, List.contains_eq_mem, decide_eq_true_eq, bind_pure_comp,
              StateT.run_bind, StateT.run_get, pure_bind, hmem, if_false, StateT.run_modify,
              StateT.run_map, map_pure, htexts, writtenAt, hnew, Option.toList_some,
              List.cons_append, List.nil_append]
            show (_, (c :: path).erase c) = _
            rw [List.erase_cons_head]

/-- **Only what holds itself is left out.**  Printing a value comes to finitely many places.
There is one way to follow its rule, by which a collection is left out exactly where it is
open already, and that gives the text shown for the value.  Something is left out only if a
collection below the value holds itself; if none does, the text is that of the plain
recursion, which then ends.  It is also the text that the recursion with one set of open
collections writes, and that set is empty again at the end. -/
theorem display_elides_cycles (s : Store) (root : Value) :
    (∀ trail, (s.occurrence? root trail).isSome → trail.length ≤ s.collectionCount) ∧
      (∃ text, s.Follows root text) ∧
      (∀ text, s.Follows root text → text [] = s.display root) ∧
      (s.Acyclic root ↔ ∀ trail o, s.occurrence? root trail = some o → o.repeated? = none) ∧
      (s.Acyclic root → ∃ depth, s.rendering depth false root = some (s.display root)) ∧
      ∀ depth, s.collectionCount < depth →
        (s.printing depth false root).run [] = (s.display root, []) := by
  refine ⟨?_, ⟨_, follows_textAt root⟩, ?_, ⟨?_, acyclic_of_not_repeated⟩, ?_, ?_⟩
  · intro trail h
    obtain ⟨o, ho⟩ := Option.isSome_iff_exists.mp h
    exact length_le_of_occurrence ho
  · intro text hfollows
    rw [display_eq_shown]
    exact hfollows.eq_shown (occurrence_root root)
  · intro hacyclic trail o h
    exact hacyclic.not_repeated h
  · intro hacyclic
    have htext := rendering_eq_shown hacyclic (occurrence_root root) (Nat.zero_add _)
    exact ⟨_, htext.trans (congrArg some (display_eq_shown root).symm)⟩
  · intro depth hdepth
    rw [display_eq_shown]
    exact printing_eq_shown ⟨List.nodup_nil, List.nil_subset _, hdepth⟩ false root

/-- An array that holds itself and, twice, another one. -/
example : (Store.mk #[#[.array ⟨0⟩, .array ⟨1⟩, .array ⟨1⟩], #[]] #[] #[] #[] #[] 0).display
    (.array ⟨0⟩) = "[[...], [], []]" := by
  decide

end Store

end ScriptEngine

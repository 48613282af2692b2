import ScriptEngine.Proofs.OrderedMap
import ScriptEngine.Value.Equality

/-!
# Comparisons without a bound

`Store.equalWithin` compares two values and gives up after a number of nested
comparisons.  This file states the comparison without any such bound, as a run
over the pairs of values that are still to be compared, and shows that the
bound is never reached.

* `Compares` — a comparison that runs to its end; a derivation is the whole
  run, so having one means that the comparison terminates;
* `equalWithin_answers` — with more fuel than there are pairs of collections
  left to enter, the bounded comparison is such a run;
* `Compares.sound` and `Compares.complete` — a run answers yes exactly when
  some relation that its leaf test and the parts of collections respect
  relates the two values.
-/

namespace ScriptEngine.Store

variable (s : Store)

/-- The two collections that two values of one kind of collection are. -/
def pairing? : Value → Value → Option Pairing
  | .array a, .array b => some (.array a, .array b)
  | .map a, .map b => some (.map a, .map b)
  | _, _ => none

/-- The values of some entries, each beside the value of the same key in a
map, if the map has all these keys. -/
def entryParts? (other : OrderedMap Value) :
    List (String × Value) → Option (List (Value × Value))
  | [] => some []
  | (key, a) :: rest =>
    match other.find? key, entryParts? other rest with
    | some b, some parts => some ((a, b) :: parts)
    | _, _ => none

/-- What two collections of one kind are compared by: their items or their
values, side by side, if the collections have one shape. -/
def parts? : Value → Value → Option (List (Value × Value))
  | .array a, .array b =>
    if (s.items a).size = (s.items b).size then
      some ((s.items a).toList.zip (s.items b).toList)
    else none
  | .map a, .map b =>
    if (s.entries a).size = (s.entries b).size then
      entryParts? (s.entries b) (s.entries a).entries
    else none
  | _, _ => none

/-- A comparison of pairs of values, one after the other, given the pairs of
collections met so far: how it ends, and the pairs met by then.  A pair of
collections that has not been met is entered, and its parts come first. -/
inductive Compares (leaf : LeafTest) :
    List (Value × Value) → List Pairing → Bool → List Pairing → Prop
  | done (met : List Pairing) : Compares leaf [] met true met
  | agree {a b : Value} {rest : List (Value × Value)} {met last : List Pairing} {answer : Bool}
      (hleaf : leaf a b = some true) (tail : Compares leaf rest met answer last) :
      Compares leaf ((a, b) :: rest) met answer last
  | differ {a b : Value} {rest : List (Value × Value)} {met : List Pairing}
      (hleaf : leaf a b = some false) : Compares leaf ((a, b) :: rest) met false met
  | again {a b : Value} {rest : List (Value × Value)} {met last : List Pairing} {answer : Bool}
      {pair : Pairing} (hleaf : leaf a b = none) (hpair : pairing? a b = some pair)
      (hmet : pair ∈ met) (tail : Compares leaf rest met answer last) :
      Compares leaf ((a, b) :: rest) met answer last
  | enter {a b : Value} {rest parts : List (Value × Value)} {met last : List Pairing}
      {answer : Bool} {pair : Pairing} (hleaf : leaf a b = none)
      (hpair : pairing? a b = some pair) (hmet : pair ∉ met) (hparts : s.parts? a b = some parts)
      (tail : Compares leaf (parts ++ rest) (pair :: met) answer last) :
      Compares leaf ((a, b) :: rest) met answer last
  | unlike {a b : Value} {rest : List (Value × Value)} {met : List Pairing}
      (hleaf : leaf a b = none) (hmet : ∀ pair, pairing? a b = some pair → pair ∉ met)
      (hparts : s.parts? a b = none) : Compares leaf ((a, b) :: rest) met false met

variable {s}

/-! ## Shapes -/

/-- Values with parts are collections of one kind. -/
theorem pairing_of_parts {a b : Value} {parts : List (Value × Value)}
    (h : s.parts? a b = some parts) : ∃ pair, pairing? a b = some pair := by
  unfold parts? at h
  split at h
  · exact ⟨_, rfl⟩
  · exact ⟨_, rfl⟩
  · cases h

/-- A pair of collections is that of one pair of values only. -/
theorem pairing_injective {a b a' b' : Value} {pair : Pairing}
    (h : pairing? a b = some pair) (h' : pairing? a' b' = some pair) : a = a' ∧ b = b' := by
  unfold pairing? at h h'
  split at h <;> cases h <;> split at h' <;> cases h' <;> exact ⟨rfl, rfl⟩

/-- Items side by side are compared in the order of the two lists; lists of
different lengths never agree. -/
theorem allPairs_length {α : Type} {test : α → α → List Pairing → Bool × List Pairing}
    {xs ys : List α} {met : List Pairing} (h : (allPairs test xs ys met).1 = true) :
    xs.length = ys.length := by
  induction xs generalizing ys met with
  | nil => cases ys <;> simp_all [allPairs]
  | cons x xs ih =>
      cases ys with
      | nil => simp [allPairs] at h
      | cons y ys =>
          simp only [allPairs] at h
          split at h
          · simpa using ih h
          · simp at h

/-- Entries only agree with a map that has all their keys. -/
theorem allKeys_parts {test : Value → Value → List Pairing → Bool × List Pairing}
    {other : OrderedMap Value} {entries : List (String × Value)} {met : List Pairing}
    (h : (allKeys test other entries met).1 = true) :
    ∃ parts, entryParts? other entries = some parts := by
  induction entries generalizing met with
  | nil => exact ⟨[], rfl⟩
  | cons entry entries ih =>
      simp only [allKeys] at h
      split at h
      · simp at h
      · rename_i b hfind
        split at h
        · obtain ⟨parts, hparts⟩ := ih h
          exact ⟨(entry.2, b) :: parts, by simp [entryParts?, hfind, hparts]⟩
        · simp at h

/-! ## The pairs that can be entered -/

variable (s) in
/-- Every pair of arrays and every pair of maps of the store. -/
def allPairings : List Pairing :=
  ((List.range s.arrays.size).flatMap fun i =>
      (List.range s.arrays.size).map fun j => (.array ⟨i⟩, .array ⟨j⟩)) ++
    (List.range s.maps.size).flatMap fun i =>
      (List.range s.maps.size).map fun j => (.map ⟨i⟩, .map ⟨j⟩)

variable (s) in
/-- The number of pairs of collections that have not been met. -/
def unmet (met : List Pairing) : Nat := (s.allPairings.filter fun pair => pair ∉ met).length

/-- There are fewer pairs to enter than the bound of a comparison allows. -/
theorem unmet_lt_pairBound (met : List Pairing) : s.unmet met < s.pairBound := by
  have hlength : s.allPairings.length + 1 = s.pairBound := by
    simp [allPairings, pairBound, List.length_flatMap]
  have hfilter := List.length_filter_le (fun pair => decide (pair ∉ met)) s.allPairings
  unfold unmet
  omega

/-- Meeting more pairs leaves no more of them to enter. -/
theorem unmet_le {met met' : List Pairing} (h : met ⊆ met') : s.unmet met' ≤ s.unmet met := by
  refine List.Sublist.length_le (List.monotone_filter_right _ fun pair hpair => ?_)
  simp only [decide_eq_true_eq] at hpair ⊢
  exact fun hmem => hpair (h hmem)

/-- Entering a pair leaves one pair fewer. -/
theorem unmet_cons_lt {pair : Pairing} {met : List Pairing} (hpair : pair ∈ s.allPairings)
    (hmet : pair ∉ met) : s.unmet (pair :: met) < s.unmet met := by
  have hsplit : s.allPairings.filter (fun p => decide (p ∉ pair :: met)) =
      (s.allPairings.filter fun p => decide (p ∉ met)).filter fun p => p ≠ pair := by
    rw [List.filter_filter]
    exact List.filter_congr fun p _ => by simp
  unfold unmet
  rw [hsplit]
  refine List.length_filter_lt_length_iff_exists.mpr ⟨pair, ?_, by simp⟩
  simp [hpair, hmet]

/-- An array with an item is one of the store. -/
theorem array_index_lt {ref : ArrayRef} {x : Value} (h : x ∈ (s.items ref).toList) :
    ref.index < s.arrays.size := by
  by_contra hout
  simp [items, Array.getD, hout] at h

/-- A map with an entry is one of the store. -/
theorem map_index_lt {ref : MapRef} {entry : String × Value}
    (h : entry ∈ (s.entries ref).entries) : ref.index < s.maps.size := by
  by_contra hout
  simp [entries, Array.getD, hout, OrderedMap.empty] at h

/-- Each part of two maps comes from an entry of either. -/
theorem mem_entryParts {other : OrderedMap Value} {entries : List (String × Value)}
    {parts : List (Value × Value)} (h : entryParts? other entries = some parts)
    {part : Value × Value} (hmem : part ∈ parts) :
    ∃ key, (key, part.1) ∈ entries ∧ other.find? key = some part.2 := by
  induction entries generalizing parts with
  | nil =>
      cases h
      simp at hmem
  | cons entry entries ih =>
      simp only [entryParts?] at h
      split at h
      · rename_i b rest hfind hrest
        cases h
        rcases List.mem_cons.mp hmem with rfl | hmem
        · exact ⟨entry.1, List.mem_cons_self, hfind⟩
        · obtain ⟨key, hkey, hvalue⟩ := ih hrest hmem
          exact ⟨key, List.mem_cons_of_mem _ hkey, hvalue⟩
      · simp at h

/-- Only collections of the store have parts to go down to. -/
theorem pairing_mem_of_part {a b : Value} {pair : Pairing} {parts : List (Value × Value)}
    (hpair : pairing? a b = some pair) (hparts : s.parts? a b = some parts)
    {part : Value × Value} (hmem : part ∈ parts) : pair ∈ s.allPairings := by
  unfold parts? at hparts
  split at hparts
  case h_1 a b =>
    cases hpair
    split at hparts
    · cases hparts
      have hzip := List.of_mem_zip (show (part.1, part.2) ∈ _ from hmem)
      have ha := array_index_lt hzip.1
      have hb := array_index_lt hzip.2
      simp only [allPairings, List.mem_append, List.mem_flatMap, List.mem_map, List.mem_range]
      exact Or.inl ⟨a.index, ha, b.index, hb, rfl⟩
    · simp at hparts
  case h_2 a b =>
    cases hpair
    split at hparts
    · obtain ⟨key, hkey, hfind⟩ := mem_entryParts hparts hmem
      have ha := map_index_lt hkey
      have hb := map_index_lt (OrderedMap.mem_entries_of_find hfind)
      simp only [allPairings, List.mem_append, List.mem_flatMap, List.mem_map, List.mem_range]
      exact Or.inr ⟨a.index, ha, b.index, hb, rfl⟩
    · simp at hparts
  case h_3 => cases hparts

/-! ## Bounded comparisons are runs -/

variable (s) in
/-- The answer of a bounded comparison is that of every run that starts with
the same pairs of values. -/
def Answers (leaf : LeafTest) (result : Bool × List Pairing) (goals : List (Value × Value))
    (met : List Pairing) : Prop :=
  if result.1 then
    met ⊆ result.2 ∧ ∀ rest answer last,
      s.Compares leaf rest result.2 answer last → s.Compares leaf (goals ++ rest) met answer last
  else ∀ rest, ∃ last, s.Compares leaf (goals ++ rest) met false last

variable {leaf : LeafTest}

/-- No pair of values is compared without effect. -/
theorem answers_nil (met : List Pairing) : s.Answers leaf (true, met) [] met :=
  ⟨fun _ h => h, fun _ _ _ h => h⟩

/-- A comparison that goes on with another one if it ends with yes. -/
def thenCompare (first : Bool × List Pairing) (next : List Pairing → Bool × List Pairing) :
    Bool × List Pairing :=
  match first with
  | (true, met) => next met
  | (false, met) => (false, met)

/-- The answer for a pair is that of the pairs after it, unless it is no. -/
theorem Answers.cons {met : List Pairing} {first : Bool × List Pairing} {part : Value × Value}
    {parts : List (Value × Value)} {next : List Pairing → Bool × List Pairing}
    (hfirst : s.Answers leaf first [part] met)
    (hnext : ∀ met', met ⊆ met' → s.Answers leaf (next met') parts met') :
    s.Answers leaf (thenCompare first next) (part :: parts) met := by
  obtain ⟨_ | _, middle⟩ := first
  · intro rest
    exact hfirst (parts ++ rest)
  · obtain ⟨hsub, hrun⟩ := hfirst
    have hparts := hnext middle hsub
    simp only [thenCompare]
    revert hparts
    rcases next middle with ⟨_ | _, last⟩ <;> intro hparts
    · intro rest
      obtain ⟨last, h⟩ := hparts rest
      exact ⟨last, hrun _ _ _ h⟩
    · refine ⟨fun p hp => hparts.1 (hsub hp), fun rest answer last h => ?_⟩
      exact hrun _ _ _ (hparts.2 rest answer last h)

/-- Lists are compared item by item. -/
theorem answers_allPairs {test : Value → Value → List Pairing → Bool × List Pairing}
    {xs ys : List Value} {met : List Pairing} (hlength : xs.length = ys.length)
    (htest : ∀ part ∈ xs.zip ys, ∀ met', met ⊆ met' →
      s.Answers leaf (test part.1 part.2 met') [part] met') :
    s.Answers leaf (allPairs test xs ys met) (xs.zip ys) met := by
  induction xs generalizing ys met with
  | nil =>
      cases ys with
      | nil => exact answers_nil met
      | cons y ys => simp at hlength
  | cons x xs ih =>
      cases ys with
      | nil => simp at hlength
      | cons y ys =>
          have hhead := htest (x, y) (by simp) met fun _ h => h
          have htail : ∀ met', met ⊆ met' →
              s.Answers leaf (allPairs test xs ys met') (xs.zip ys) met' := by
            refine fun met' hsub => ih (by simpa using hlength) fun part hpart met'' hsub' => ?_
            exact htest part (by simp [hpart]) met'' fun p hp => hsub' (hsub hp)
          exact hhead.cons htail

/-- Entries are compared key by key. -/
theorem answers_allKeys {test : Value → Value → List Pairing → Bool × List Pairing}
    {other : OrderedMap Value} {entries : List (String × Value)} {met : List Pairing}
    {parts : List (Value × Value)} (hparts : entryParts? other entries = some parts)
    (htest : ∀ part ∈ parts, ∀ met', met ⊆ met' →
      s.Answers leaf (test part.1 part.2 met') [part] met') :
    s.Answers leaf (allKeys test other entries met) parts met := by
  induction entries generalizing parts met with
  | nil =>
      cases hparts
      exact answers_nil met
  | cons entry entries ih =>
      simp only [entryParts?] at hparts
      split at hparts
      · rename_i b rest hfind hrest
        cases hparts
        simp only [allKeys, hfind]
        have hhead := htest (entry.2, b) (by simp) met fun _ h => h
        have htail : ∀ met', met ⊆ met' →
            s.Answers leaf (allKeys test other entries met') rest met' := by
          refine fun met' hsub => ih hrest fun part hpart met'' hsub' => ?_
          exact htest part (by simp [hpart]) met'' fun p hp => hsub' (hsub hp)
        exact hhead.cons htail
      · simp at hparts

/-- Entering a pair that has not been met goes on with its parts. -/
theorem answers_enter {a b : Value} {pair : Pairing} {parts : List (Value × Value)}
    {met : List Pairing} {result : Bool × List Pairing} (hleaf : leaf a b = none)
    (hpair : pairing? a b = some pair) (hmet : pair ∉ met) (hparts : s.parts? a b = some parts)
    (h : s.Answers leaf result parts (pair :: met)) : s.Answers leaf result [(a, b)] met := by
  obtain ⟨_ | _, last⟩ := result
  · intro rest
    obtain ⟨last, hrun⟩ := h rest
    exact ⟨last, .enter hleaf hpair hmet hparts hrun⟩
  · obtain ⟨hsub, hrun⟩ := h
    refine ⟨fun p hp => hsub (List.mem_cons_of_mem _ hp), fun rest answer last hrest => ?_⟩
    exact .enter hleaf hpair hmet hparts (hrun rest answer last hrest)

/-- Values of one kind of collection without parts to compare are unlike. -/
theorem answers_unlike {a b : Value} {met : List Pairing} {result : Bool × List Pairing}
    (hleaf : leaf a b = none) (hmet : ∀ pair, pairing? a b = some pair → pair ∉ met)
    (hparts : s.parts? a b = none) (hresult : result.1 = false) :
    s.Answers leaf result [(a, b)] met := by
  obtain ⟨answer, last⟩ := result
  subst hresult
  exact fun rest => ⟨met, .unlike hleaf hmet hparts⟩

/-- **Enough fuel.**  A bounded comparison with more fuel than there are pairs
left to enter never runs out of it: its answer is that of the comparison
without a bound. -/
theorem equalWithin_answers {fuel : Nat} {a b : Value} {met : List Pairing}
    (hfuel : s.unmet met < fuel) :
    s.Answers leaf (s.equalWithin leaf fuel a b met) [(a, b)] met := by
  induction fuel generalizing a b met with
  | zero => omega
  | succ fuel ih =>
      -- The fuel is spent on entering a pair, and only pairs of the store have parts.
      have hdeeper : ∀ {pair parts}, pairing? a b = some pair → pair ∉ met →
          s.parts? a b = some parts → ∀ part ∈ parts, ∀ met', pair :: met ⊆ met' →
            s.Answers leaf (s.equalWithin leaf fuel part.1 part.2 met') [part] met' := by
        intro pair parts hpair hmet hparts part hpart met' hsub
        have hlt := unmet_cons_lt (pairing_mem_of_part hpair hparts hpart) hmet
        have hle := s.unmet_le hsub
        exact ih (by omega)
      unfold equalWithin
      cases hleaf : leaf a b with
      | some decided =>
          cases decided with
          | false => exact fun rest => ⟨met, .differ hleaf⟩
          | true => exact ⟨fun _ h => h, fun rest answer last h => .agree hleaf h⟩
      | none =>
          simp only
          split
          case h_1 a b =>
            split
            · rename_i hmem
              have hmem := List.contains_iff_mem.mp hmem
              exact ⟨fun _ h => h, fun rest answer last h => .again hleaf rfl hmem h⟩
            · rename_i hmem
              have hmet := fun h => hmem (List.contains_iff_mem.mpr h)
              by_cases hsize : (s.items a).size = (s.items b).size
              · have hparts : s.parts? (.array a) (.array b) =
                    some ((s.items a).toList.zip (s.items b).toList) := by simp [parts?, hsize]
                refine answers_enter hleaf rfl hmet hparts (answers_allPairs ?_ ?_)
                · simpa using hsize
                · exact hdeeper rfl hmet hparts
              · refine answers_unlike hleaf ?_ (by simp [parts?, hsize]) ?_
                · rintro pair ⟨⟩
                  exact hmet
                · refine Bool.eq_false_iff.mpr fun h => hsize ?_
                  simpa using allPairs_length h
          case h_2 a b =>
            split
            · rename_i hmem
              have hmem := List.contains_iff_mem.mp hmem
              exact ⟨fun _ h => h, fun rest answer last h => .again hleaf rfl hmem h⟩
            · rename_i hmem
              have hmet := fun h => hmem (List.contains_iff_mem.mpr h)
              have hunlike : ∀ pair, pairing? (.map a) (.map b) = some pair → pair ∉ met := by
                rintro pair ⟨⟩
                exact hmet
              split
              · rename_i hsize
                cases hentries : entryParts? (s.entries b) (s.entries a).entries with
                | some parts =>
                    have hparts : s.parts? (.map a) (.map b) = some parts := by
                      simp [parts?, hsize, hentries]
                    refine answers_enter hleaf rfl hmet hparts (answers_allKeys hentries ?_)
                    exact hdeeper rfl hmet hparts
                | none =>
                    refine answers_unlike hleaf hunlike (by simp [parts?, hsize, hentries]) ?_
                    refine Bool.eq_false_iff.mpr fun h => ?_
                    obtain ⟨parts, hparts⟩ := allKeys_parts h
                    simp [hentries] at hparts
              · rename_i hsize
                exact answers_unlike hleaf hunlike (by simp [parts?, hsize]) rfl
          case h_3 harray hmap =>
            have hnone : pairing? a b = none := by
              unfold pairing?
              split <;> simp_all
            have hparts : s.parts? a b = none := by
              refine Option.eq_none_iff_forall_ne_some.mpr fun parts h => ?_
              obtain ⟨pair, hpair⟩ := pairing_of_parts h
              simp [hnone] at hpair
            exact answers_unlike hleaf (fun pair hpair => by simp [hnone] at hpair) hparts rfl

/-! ## What the answers mean -/

variable (s) in
/-- A relation that relates only values that the leaf test takes for equal, or
that it leaves open and whose parts are related again. -/
def Respects (leaf : LeafTest) (R : Value → Value → Prop) : Prop :=
  ∀ a b, R a b → leaf a b = some true ∨
    leaf a b = none ∧ ∃ parts, s.parts? a b = some parts ∧ ∀ part ∈ parts, R part.1 part.2

/-- The values that pass a leaf test or whose pair has been met. -/
def Passes (leaf : LeafTest) (met : List Pairing) (a b : Value) : Prop :=
  leaf a b = some true ∨ leaf a b = none ∧ ∃ pair ∈ met, pairing? a b = some pair

variable (s) in
/-- A pair of collections that has been entered: all its parts pass. -/
def Entered (leaf : LeafTest) (met : List Pairing) (pair : Pairing) : Prop :=
  ∀ a b, pairing? a b = some pair →
    ∃ parts, s.parts? a b = some parts ∧ ∀ part ∈ parts, Passes leaf met part.1 part.2

/-- In a run that ends with yes, every pair of values passes in the end, and
every pair of collections that was met on the way has been entered. -/
theorem Compares.passes {goals : List (Value × Value)} {met last : List Pairing}
    (h : s.Compares leaf goals met true last) :
    met ⊆ last ∧ (∀ goal ∈ goals, Passes leaf last goal.1 goal.2) ∧
      ∀ pair ∈ last, pair ∈ met ∨ s.Entered leaf last pair := by
  generalize hanswer : true = answer at h
  induction h with
  | done met => exact ⟨fun _ h => h, by simp, fun pair h => Or.inl h⟩
  | agree hleaf tail ih =>
      obtain ⟨hsub, hgoals, hmet⟩ := ih hanswer
      exact ⟨hsub, List.forall_mem_cons.mpr ⟨Or.inl hleaf, hgoals⟩, hmet⟩
  | differ => cases hanswer
  | again hleaf hpair hmem tail ih =>
      obtain ⟨hsub, hgoals, hmet⟩ := ih hanswer
      have hpasses : Passes leaf _ _ _ := Or.inr ⟨hleaf, _, hsub hmem, hpair⟩
      exact ⟨hsub, List.forall_mem_cons.mpr ⟨hpasses, hgoals⟩, hmet⟩
  | @enter a b rest parts met last answer pair hleaf hpair hnew hparts tail ih =>
      obtain ⟨hsub, hgoals, hmet⟩ := ih hanswer
      have hpasses : Passes leaf last a b := Or.inr ⟨hleaf, pair, hsub List.mem_cons_self, hpair⟩
      have hrest := fun goal h => hgoals goal (List.mem_append_right parts h)
      refine ⟨fun p hp => hsub (List.mem_cons_of_mem _ hp),
        List.forall_mem_cons.mpr ⟨hpasses, hrest⟩, fun p hp => ?_⟩
      rcases hmet p hp with hp | hp
      · rcases List.mem_cons.mp hp with rfl | hp
        · refine Or.inr fun x y hxy => ?_
          obtain ⟨rfl, rfl⟩ := pairing_injective hpair hxy
          exact ⟨parts, hparts, fun part h => hgoals part (List.mem_append_left rest h)⟩
        · exact Or.inl hp
      · exact Or.inr hp
  | unlike => cases hanswer

/-- **Soundness.**  A run from nothing met that ends with yes has found a
relation that the leaf test and the parts of collections respect. -/
theorem Compares.sound {a b : Value} {last : List Pairing}
    (h : s.Compares leaf [(a, b)] [] true last) : ∃ R, s.Respects leaf R ∧ R a b := by
  obtain ⟨-, hgoals, hmet⟩ := h.passes
  refine ⟨Passes leaf last, fun x y hxy => ?_, hgoals (a, b) (by simp)⟩
  rcases hxy with hleaf | ⟨hleaf, pair, hmem, hpair⟩
  · exact Or.inl hleaf
  · have hentered := (hmet pair hmem).resolve_left (by simp)
    exact Or.inr ⟨hleaf, hentered x y hpair⟩

/-- **Completeness.**  A run over values that such a relation relates ends with
yes, whatever has been met before. -/
theorem Compares.complete {R : Value → Value → Prop} (hR : s.Respects leaf R)
    {goals : List (Value × Value)} {met last : List Pairing} {answer : Bool}
    (h : s.Compares leaf goals met answer last) (hgoals : ∀ goal ∈ goals, R goal.1 goal.2) :
    answer = true := by
  induction h with
  | done => rfl
  | agree hleaf tail ih => exact ih (List.forall_mem_cons.mp hgoals).2
  | differ hleaf =>
      obtain ⟨hab, -⟩ := List.forall_mem_cons.mp hgoals
      rcases hR _ _ hab with h | ⟨h, -⟩ <;> simp [hleaf] at h
  | again hleaf hpair hmem tail ih => exact ih (List.forall_mem_cons.mp hgoals).2
  | enter hleaf hpair hnew hparts tail ih =>
      obtain ⟨hab, hrest⟩ := List.forall_mem_cons.mp hgoals
      obtain h | ⟨-, parts, h, hparts'⟩ := hR _ _ hab
      · simp [hleaf] at h
      · cases hparts.symm.trans h
        exact ih fun goal hgoal => (List.mem_append.mp hgoal).elim (hparts' goal) (hrest goal)
  | unlike hleaf hmet hparts =>
      obtain ⟨hab, -⟩ := List.forall_mem_cons.mp hgoals
      obtain h | ⟨-, parts, h, -⟩ := hR _ _ hab
      · simp [hleaf] at h
      · simp [hparts] at h

/-- A bounded comparison from nothing met is a run of the comparison without a
bound. -/
theorem equalWithin_compares (leaf : LeafTest) {fuel : Nat} (hfuel : s.pairBound ≤ fuel)
    (a b : Value) :
    ∃ last, s.Compares leaf [(a, b)] [] (s.equalWithin leaf fuel a b []).1 last := by
  have hbound := s.unmet_lt_pairBound []
  have h : s.Answers leaf (s.equalWithin leaf fuel a b []) [(a, b)] [] :=
    equalWithin_answers (by omega)
  rcases hresult : s.equalWithin leaf fuel a b [] with ⟨_ | _, last⟩ <;> rw [hresult] at h
  · exact h []
  · exact ⟨last, h.2 [] true last (.done last)⟩

/-- A comparison answers yes exactly on the values that some relation relates
which the leaf test and the parts of collections respect. -/
theorem equalWithin_iff (leaf : LeafTest) {fuel : Nat} (hfuel : s.pairBound ≤ fuel)
    (a b : Value) :
    (s.equalWithin leaf fuel a b []).1 = true ↔ ∃ R, s.Respects leaf R ∧ R a b := by
  obtain ⟨last, hrun⟩ := equalWithin_compares leaf hfuel a b
  constructor
  · intro h
    rw [h] at hrun
    exact hrun.sound
  · rintro ⟨R, hR, hab⟩
    exact hrun.complete hR (by simpa using hab)

end ScriptEngine.Store

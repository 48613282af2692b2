import Mathlib.Data.List.Forall2
import Mathlib.Data.List.Perm.Subperm
import ScriptEngine.Proofs.Comparison

/-!
# Equality of values on a store

Two values are *bisimilar* when no amount of looking into collections tells
them apart: scalars agree, references that are not followed are the same, and
two arrays or two maps have the same shape and bisimilar contents.  This is the
greatest relation of its kind, and it makes sense on stores in which
collections contain themselves.

* `Alike` — what two values have to agree in, given a relation for their parts;
* `Bisimilar` — the greatest relation that is preserved by it;
* `equal_iff_bisimilar` — the equality of the language decides it;
* `equal_of_sameContents` — equality of contents is finer.
-/

namespace ScriptEngine

/-! ## Identity -/

namespace Value

mutual

/-- Every value is identical to itself. -/
theorem identical_refl : ∀ a : Value, identical a a = true
  | .nil => by simp [identical]
  | .bool _ | .number _ | .text _ | .array _ | .map _ | .object _ => by simp [identical]
  | .function ⟨_, bound, _⟩ => by simp [identical, identicalAll_refl bound]

theorem identicalAll_refl : ∀ as : List Value, identicalAll as as = true
  | [] => by simp [identicalAll]
  | a :: as => by simp [identicalAll, identical_refl a, identicalAll_refl as]

end

/-- Identical values are the same, unless they are functions. -/
theorem eq_or_functions_of_identical {a b : Value} (h : identical a b = true) :
    a = b ∨ ∃ f g, a = .function f ∧ b = .function g := by
  unfold identical at h
  split at h <;> simp_all

mutual

/-- Identity does not depend on the order of the values. -/
theorem identical_symm : ∀ {a b : Value}, identical a b = true → identical b a = true
  | .function ⟨_, as, _⟩, .function ⟨_, bs, _⟩, h => by
      simp only [identical, Bool.and_eq_true, decide_eq_true_eq] at h ⊢
      exact ⟨⟨h.1.1.symm, h.1.2.symm⟩, identicalAll_symm h.2⟩
  | .nil, _, h | .bool _, _, h | .number _, _, h | .text _, _, h | .array _, _, h
  | .map _, _, h | .object _, _, h => by
      obtain rfl | ⟨f, g, hf, -⟩ := eq_or_functions_of_identical h
      · exact h
      · cases hf
  | .function _, .nil, h | .function _, .bool _, h | .function _, .number _, h
  | .function _, .text _, h | .function _, .array _, h | .function _, .map _, h
  | .function _, .object _, h => by simp [identical] at h

theorem identicalAll_symm :
    ∀ {as bs : List Value}, identicalAll as bs = true → identicalAll bs as = true
  | [], [], h => h
  | a :: as, b :: bs, h => by
      simp only [identicalAll, Bool.and_eq_true] at h ⊢
      exact ⟨identical_symm h.1, identicalAll_symm h.2⟩
  | [], _ :: _, h | _ :: _, [], h => by simp [identicalAll] at h

end

mutual

/-- Values identical to a third one are identical. -/
theorem identical_trans :
    ∀ {a b c : Value}, identical a b = true → identical b c = true → identical a c = true
  | .function ⟨_, as, _⟩, .function ⟨_, bs, _⟩, .function ⟨_, cs, _⟩, h, h' => by
      simp only [identical, Bool.and_eq_true, decide_eq_true_eq] at h h' ⊢
      exact ⟨⟨h.1.1.trans h'.1.1, h.1.2.trans h'.1.2⟩, identicalAll_trans h.2 h'.2⟩
  | .nil, _, _, h, h' | .bool _, _, _, h, h' | .number _, _, _, h, h' | .text _, _, _, h, h'
  | .array _, _, _, h, h' | .map _, _, _, h, h' | .object _, _, _, h, h' => by
      obtain rfl | ⟨f, g, hf, -⟩ := eq_or_functions_of_identical h
      · exact h'
      · cases hf
  | .function _, .nil, _, h, _ | .function _, .bool _, _, h, _ | .function _, .number _, _, h, _
  | .function _, .text _, _, h, _ | .function _, .array _, _, h, _
  | .function _, .map _, _, h, _ | .function _, .object _, _, h, _ => by simp [identical] at h
  | .function _, .function _, .nil, _, h' | .function _, .function _, .bool _, _, h'
  | .function _, .function _, .number _, _, h' | .function _, .function _, .text _, _, h'
  | .function _, .function _, .array _, _, h' | .function _, .function _, .map _, _, h'
  | .function _, .function _, .object _, _, h' => by simp [identical] at h'

theorem identicalAll_trans : ∀ {as bs cs : List Value},
    identicalAll as bs = true → identicalAll bs cs = true → identicalAll as cs = true
  | [], [], [], _, h' => h'
  | a :: as, b :: bs, c :: cs, h, h' => by
      simp only [identicalAll, Bool.and_eq_true] at h h' ⊢
      exact ⟨identical_trans h.1 h'.1, identicalAll_trans h.2 h'.2⟩
  | [], _ :: _, _, h, _ | _ :: _, [], _, h, _ => by simp [identicalAll] at h
  | _ :: _, _ :: _, [], _, h' | [], [], _ :: _, _, h' => by simp [identicalAll] at h'

end

end Value

namespace Store

variable (s : Store)

/-! ## Bisimilarity -/

/-- What two values have to agree in, where `R` relates the contents of
collections: they are both nil, are equal texts, have equal numeric views, or
are identical functions or host objects without one; or they are arrays of one
length or maps with the same keys, and what they hold is related. -/
inductive Alike (R : Value → Value → Prop) : Value → Value → Prop
  | nil : Alike R .nil .nil
  | text (value : String) : Alike R (.text value) (.text value)
  | number {a b : Value} {q : Number} (ha : s.ordinal a = some q) (hb : s.ordinal b = some q) :
      Alike R a b
  | object {ref : HostRef} (h : (s.host ref).number = none) : Alike R (.object ref) (.object ref)
  | function {f g : Closure Value}
      (h : Value.identical (.function f) (.function g) = true) :
      Alike R (.function f) (.function g)
  | array {a b : ArrayRef} (h : List.Forall₂ R (s.items a).toList (s.items b).toList) :
      Alike R (.array a) (.array b)
  | map {a b : MapRef} (hkeys : ∀ key, key ∈ (s.entries a).keys ↔ key ∈ (s.entries b).keys)
      (hvalues : ∀ key x y, (s.entries a).find? key = some x →
        (s.entries b).find? key = some y → R x y) :
      Alike R (.map a) (.map b)

/-- A relation that relates only values that agree, and whose parts it relates
again. -/
def IsBisimulation (R : Value → Value → Prop) : Prop := ∀ a b, R a b → s.Alike R a b

/-- The greatest bisimulation. -/
def Bisimilar (a b : Value) : Prop := ∃ R, s.IsBisimulation R ∧ R a b

variable {s}

/-- Agreement carries over to a greater relation of the parts. -/
theorem Alike.mono {R R' : Value → Value → Prop} (hR : ∀ a b, R a b → R' a b) {a b : Value}
    (h : s.Alike R a b) : s.Alike R' a b := by
  cases h with
  | nil => exact .nil
  | text value => exact .text value
  | number ha hb => exact .number ha hb
  | object h => exact .object h
  | function h => exact .function h
  | array h => exact .array (h.imp hR)
  | map hkeys hvalues => exact .map hkeys fun key x y hx hy => hR _ _ (hvalues key x y hx hy)

/-- Identical values agree, and so do their parts. -/
theorem alike_of_identical {a b : Value} (h : Value.identical a b = true) :
    s.Alike (fun x y => Value.identical x y = true) a b := by
  obtain rfl | ⟨f, g, rfl, rfl⟩ := Value.eq_or_functions_of_identical h
  · cases a with
    | nil => exact .nil
    | bool value => exact .number rfl rfl
    | number value => exact .number rfl rfl
    | text value => exact .text value
    | array ref => exact .array (List.forall₂_same.mpr fun x _ => x.identical_refl)
    | map ref =>
        refine .map (fun key => Iff.rfl) fun key x y hx hy => ?_
        cases hx.symm.trans hy
        exact x.identical_refl
    | function f => exact .function h
    | object ref =>
        cases hview : (s.host ref).number with
        | none => exact .object hview
        | some q => exact .number hview hview
  · exact .function h

/-- Agreement does not depend on the order of the values. -/
theorem Alike.symm {R : Value → Value → Prop} {a b : Value} (h : s.Alike R a b) :
    s.Alike (fun x y => R y x) b a := by
  cases h with
  | nil => exact .nil
  | text value => exact .text value
  | number ha hb => exact .number hb ha
  | object h => exact .object h
  | function h => exact .function (Value.identical_symm h)
  | array h => exact .array h.flip
  | map hkeys hvalues =>
      exact .map (fun key => (hkeys key).symm) fun key x y hx hy => hvalues key y x hy hx

/-- The values that two relations relate in a row. -/
def Joined (R S : Value → Value → Prop) (a c : Value) : Prop := ∃ b, R a b ∧ S b c

/-- Lists related item by item to a third one are related item by item. -/
theorem forall_joined {R S : Value → Value → Prop} {xs ys zs : List Value}
    (h : List.Forall₂ R xs ys) (h' : List.Forall₂ S ys zs) :
    List.Forall₂ (Joined R S) xs zs := by
  induction h generalizing zs with
  | nil =>
      cases h'
      exact .nil
  | cons hxy _ ih =>
      cases h' with
      | cons hyz htail => exact .cons ⟨_, hxy, hyz⟩ (ih htail)

/-- Values that agree with a third one agree. -/
theorem Alike.trans {R S : Value → Value → Prop} {a b c : Value} (h : s.Alike R a b)
    (h' : s.Alike S b c) : s.Alike (Joined R S) a c := by
  cases h with
  | nil =>
      cases h' with
      | nil => exact .nil
      | number hb => cases hb
  | text value =>
      cases h' with
      | text => exact .text value
      | number hb => cases hb
  | number ha hb =>
      cases h' with
      | nil | text | function | array | map => cases hb
      | number hb' hc => exact .number ha (by rw [hc, ← hb', hb])
      | object hview => cases hview.symm.trans hb
  | object hview =>
      cases h' with
      | number hb => cases hview.symm.trans hb
      | object => exact .object hview
  | function h =>
      cases h' with
      | number hb => cases hb
      | function h' => exact .function (Value.identical_trans h h')
  | array h =>
      cases h' with
      | number hb => cases hb
      | array h' => exact .array (forall_joined h h')
  | map hkeys hvalues =>
      cases h' with
      | number hb => cases hb
      | @map _ c hkeys' hvalues' =>
          refine .map (fun key => (hkeys key).trans (hkeys' key)) fun key x z hx hz => ?_
          obtain ⟨y, hy⟩ := OrderedMap.mem_keys_iff.mp
            ((hkeys key).mp (OrderedMap.mem_keys_iff.mpr ⟨x, hx⟩))
          exact ⟨y, hvalues key x y hx hy, hvalues' key y z hy hz⟩

/-- Bisimilarity is a bisimulation itself. -/
theorem isBisimulation_bisimilar : s.IsBisimulation s.Bisimilar := by
  rintro a b ⟨R, hR, hab⟩
  exact (hR a b hab).mono fun x y hxy => ⟨R, hR, hxy⟩

/-- Every value is bisimilar to itself. -/
theorem Bisimilar.refl (a : Value) : s.Bisimilar a a :=
  ⟨_, fun _ _ h => alike_of_identical h, a.identical_refl⟩

/-- Bisimilarity does not depend on the order of the values. -/
theorem Bisimilar.symm {a b : Value} (h : s.Bisimilar a b) : s.Bisimilar b a := by
  obtain ⟨R, hR, hab⟩ := h
  exact ⟨fun x y => R y x, fun x y hxy => (hR y x hxy).symm, hab⟩

/-- Values bisimilar to a third one are bisimilar. -/
theorem Bisimilar.trans {a b c : Value} (h : s.Bisimilar a b) (h' : s.Bisimilar b c) :
    s.Bisimilar a c := by
  obtain ⟨R, hR, hab⟩ := h
  obtain ⟨S, hS, hbc⟩ := h'
  refine ⟨Joined R S, ?_, b, hab, hbc⟩
  rintro x z ⟨y, hxy, hyz⟩
  exact (hR x y hxy).trans (hS y z hyz)

/-! ## Parts of collections -/

/-- Maps of one size with the same keys, and no others, have parts. -/
theorem exists_entryParts {other : OrderedMap Value} {entries : List (String × Value)}
    (h : ∀ entry ∈ entries, entry.1 ∈ other.keys) :
    ∃ parts, entryParts? other entries = some parts := by
  induction entries with
  | nil => exact ⟨[], rfl⟩
  | cons entry entries ih =>
      obtain ⟨hentry, hentries⟩ := List.forall_mem_cons.mp h
      obtain ⟨value, hvalue⟩ := OrderedMap.mem_keys_iff.mp hentry
      obtain ⟨parts, hparts⟩ := ih hentries
      exact ⟨(entry.2, value) :: parts, by simp [entryParts?, hvalue, hparts]⟩

/-- Every entry has its part. -/
theorem entryParts_mem {other : OrderedMap Value} {entries : List (String × Value)}
    {parts : List (Value × Value)} (h : entryParts? other entries = some parts)
    {entry : String × Value} (hmem : entry ∈ entries) :
    ∃ value, other.find? entry.1 = some value ∧ (entry.2, value) ∈ parts := by
  induction entries generalizing parts with
  | nil => simp at hmem
  | cons first entries ih =>
      simp only [entryParts?] at h
      split at h
      · rename_i b rest hfind hrest
        cases h
        rcases List.mem_cons.mp hmem with rfl | hmem
        · exact ⟨b, hfind, by simp⟩
        · obtain ⟨value, hvalue, hpart⟩ := ih hrest hmem
          exact ⟨value, hvalue, by simp [hpart]⟩
      · cases h

/-- Two maps of one size, the keys of one among those of the other, have the
same keys. -/
theorem mem_keys_iff_of_size {m m' : OrderedMap Value} (hsize : m.size = m'.size)
    (hsub : m.keys ⊆ m'.keys) (key : String) : key ∈ m.keys ↔ key ∈ m'.keys := by
  have hperm : m.keys.Perm m'.keys := by
    refine (List.Nodup.subperm m.nodup_keys hsub).perm_of_length_le ?_
    exact Nat.le_of_eq (by rw [m.length_keys, m'.length_keys, hsize])
  exact hperm.mem_iff

/-- Collections of one shape agree if their parts are related. -/
theorem alike_of_parts {R : Value → Value → Prop} {a b : Value} {parts : List (Value × Value)}
    (hparts : s.parts? a b = some parts) (h : ∀ part ∈ parts, R part.1 part.2) :
    s.Alike R a b := by
  unfold parts? at hparts
  split at hparts
  case h_1 a b =>
    split at hparts
    · rename_i hsize
      cases hparts
      refine .array (List.forall₂_iff_zip.mpr ⟨by simpa using hsize, fun hmem => ?_⟩)
      exact h _ hmem
    · cases hparts
  case h_2 a b =>
    split at hparts
    · rename_i hsize
      refine .map (mem_keys_iff_of_size hsize fun key hkey => ?_) fun key x y hx hy => ?_
      · obtain ⟨entry, hentry, rfl⟩ := List.mem_map.mp hkey
        obtain ⟨value, hvalue, -⟩ := entryParts_mem hparts hentry
        exact OrderedMap.mem_keys_iff.mpr ⟨value, hvalue⟩
      · obtain ⟨value, hvalue, hpart⟩ :=
          entryParts_mem hparts (OrderedMap.mem_entries_of_find hx)
        cases hvalue.symm.trans hy
        exact h _ hpart
    · cases hparts
  case h_3 => cases hparts

/-- Arrays that agree have related parts. -/
theorem parts_of_forall {R : Value → Value → Prop} {a b : ArrayRef}
    (h : List.Forall₂ R (s.items a).toList (s.items b).toList) :
    ∃ parts, s.parts? (.array a) (.array b) = some parts ∧ ∀ part ∈ parts, R part.1 part.2 := by
  have hsize : (s.items a).size = (s.items b).size := by simpa using h.length_eq
  refine ⟨_, if_pos hsize, fun part hpart => ?_⟩
  exact (List.forall₂_iff_zip.mp h).2 hpart

/-- Maps that agree have related parts. -/
theorem parts_of_keys {R : Value → Value → Prop} {a b : MapRef}
    (hkeys : ∀ key, key ∈ (s.entries a).keys ↔ key ∈ (s.entries b).keys)
    (hvalues : ∀ key x y, (s.entries a).find? key = some x →
      (s.entries b).find? key = some y → R x y) :
    ∃ parts, s.parts? (.map a) (.map b) = some parts ∧ ∀ part ∈ parts, R part.1 part.2 := by
  have hsize : (s.entries a).size = (s.entries b).size := by
    rw [← OrderedMap.length_keys, ← OrderedMap.length_keys]
    exact ((List.perm_ext_iff_of_nodup (OrderedMap.nodup_keys _)
      (OrderedMap.nodup_keys _)).mpr hkeys).length_eq
  obtain ⟨parts, hparts⟩ : ∃ parts, entryParts? (s.entries b) (s.entries a).entries = some parts :=
    exists_entryParts fun entry hentry => (hkeys entry.1).mp (List.mem_map_of_mem hentry)
  refine ⟨parts, by simp [parts?, hsize, hparts], fun part hpart => ?_⟩
  obtain ⟨key, hkey, hvalue⟩ := mem_entryParts hparts hpart
  exact hvalues key _ _ (OrderedMap.find_of_mem_entries hkey) hvalue

/-! ## Leaves -/

/-- Numbers and texts are ordered as equal only if they are the same. -/
theorem eq_of_order {α : Type} [LT α] [DecidableLT α] [DecidableEq α] {x y : α}
    (h : compareOfLessAndEq x y = .eq) : x = y := by
  unfold compareOfLessAndEq at h
  split at h
  · cases h
  · split at h
    · assumption
    · cases h

/-- Values that are ordered as equal agree, whatever their parts. -/
theorem alike_of_compare {R : Value → Value → Prop} {a b : Value}
    (h : s.compare a b = some .eq) : s.Alike R a b := by
  unfold compare at h
  split at h
  · cases eq_of_order (Option.some.inj h)
    exact .text _
  · exact .nil
  · obtain ⟨x, hx, h⟩ := Option.bind_eq_some_iff.mp h
    obtain ⟨y, hy, h⟩ := Option.bind_eq_some_iff.mp h
    cases eq_of_order (Option.some.inj h)
    exact .number hx hy

/-- Values that the leaf test of the language takes for equal agree, and so do
their parts. -/
theorem alike_of_equalLeaf {a b : Value} (h : s.equalLeaf a b = some true) :
    s.Alike (fun x y => Value.identical x y = true) a b := by
  unfold equalLeaf at h
  split at h
  · rename_i order hcompare
    have horder : order = .eq := by simpa using h
    exact alike_of_compare (horder ▸ hcompare)
  · split at h
    · rename_i hsame
      exact alike_of_identical (Bool.and_eq_true_iff.mp hsame).2
    · split at h <;> cases h

/-- Values with equal numeric views are ordered as equal. -/
theorem compare_of_ordinal {a b : Value} {q : Number} (ha : s.ordinal a = some q)
    (hb : s.ordinal b = some q) : s.compare a b = some .eq := by
  unfold compare
  split
  · cases ha
  · rfl
  · simp [ha, hb, compareOfLessAndEq]

/-- Values that are not ordered are equal if they are the same reference. -/
theorem equalLeaf_of_identical {a b : Value} (hcompare : s.compare a b = none)
    (hscalar : a.isScalar = false) (h : Value.identical a b = true) :
    s.equalLeaf a b = some true := by
  simp [equalLeaf, hcompare, Value.sameReference, hscalar, h]

/-- The leaf test of the language accepts values that agree, or leaves them
open, as collections that have related parts. -/
theorem equalLeaf_of_alike {R : Value → Value → Prop} {a b : Value} (h : s.Alike R a b) :
    s.equalLeaf a b = some true ∨ s.equalLeaf a b = none ∧
      ∃ parts, s.parts? a b = some parts ∧ ∀ part ∈ parts, R part.1 part.2 := by
  cases h with
  | nil => exact Or.inl rfl
  | text value => exact Or.inl (by simp [equalLeaf, compare, compareOfLessAndEq])
  | number ha hb => exact Or.inl (by simp [equalLeaf, compare_of_ordinal ha hb])
  | @object ref hview =>
      refine Or.inl (equalLeaf_of_identical ?_ rfl (Value.identical_refl _))
      simp [compare, ordinal, hview]
  | function h => exact Or.inl (equalLeaf_of_identical rfl rfl h)
  | @array a b h =>
      by_cases hab : a = b
      · exact Or.inl (equalLeaf_of_identical rfl rfl (hab ▸ Value.identical_refl _))
      · refine Or.inr ⟨?_, parts_of_forall h⟩
        simp [equalLeaf, compare, ordinal, Value.sameReference, Value.identical, hab]
  | @map a b hkeys hvalues =>
      by_cases hab : a = b
      · exact Or.inl (equalLeaf_of_identical rfl rfl (hab ▸ Value.identical_refl _))
      · refine Or.inr ⟨?_, parts_of_keys hkeys hvalues⟩
        simp [equalLeaf, compare, ordinal, Value.sameReference, Value.identical, hab]

/-- A relation up to identity: related or identical values. -/
def OrIdentical (R : Value → Value → Prop) (a b : Value) : Prop :=
  R a b ∨ Value.identical a b = true

/-- A relation that a leaf test respects is a bisimulation up to identity if
the values that the test accepts agree. -/
theorem isBisimulation_orIdentical {leaf : LeafTest} {R : Value → Value → Prop}
    (hleaf : ∀ a b, leaf a b = some true →
      s.Alike (fun x y => Value.identical x y = true) a b)
    (hR : s.Respects leaf R) : s.IsBisimulation (OrIdentical R) := by
  rintro a b (hab | hab)
  · obtain htrue | ⟨-, parts, hparts, hrelated⟩ := hR a b hab
    · exact (hleaf a b htrue).mono fun _ _ h => Or.inr h
    · exact alike_of_parts hparts fun part hpart => Or.inl (hrelated part hpart)
  · exact (alike_of_identical hab).mono fun _ _ h => Or.inr h

/-! ## The equality of the language -/

/-- The equality of the language decides bisimilarity. -/
theorem equal_iff_bisimilar {a b : Value} : s.equal a b = true ↔ s.Bisimilar a b := by
  have hrun := s.equalWithin_iff s.equalLeaf (Nat.le_succ s.pairBound) a b
  refine hrun.trans ⟨?_, ?_⟩
  · rintro ⟨R, hR, hab⟩
    exact ⟨_, isBisimulation_orIdentical (fun _ _ => alike_of_equalLeaf) hR, Or.inl hab⟩
  · rintro ⟨R, hR, hab⟩
    exact ⟨R, fun x y hxy => equalLeaf_of_alike (hR x y hxy), hab⟩

/-- Equality of contents is finer than the equality of the language. -/
theorem equal_of_sameContents {a b : Value} (h : s.sameContents a b = true) :
    s.equal a b = true := by
  have hrun := s.equalWithin_iff contentsLeaf (Nat.le_succ s.pairBound) a b
  obtain ⟨R, hR, hab⟩ := hrun.mp h
  refine equal_iff_bisimilar.mpr ⟨_, isBisimulation_orIdentical (fun x y hxy => ?_) hR, Or.inl hab⟩
  unfold contentsLeaf at hxy
  split at hxy
  · exact alike_of_identical (by assumption)
  · split at hxy <;> cases hxy

/-- **Equality on a store with cycles.**  On every store the comparison of two
values ends.  It answers yes exactly on the values that the greatest
bisimulation relates, is an equivalence, and holds wherever the contents are
equal. -/
theorem equal_terminates_and_decides_bisimilarity (s : Store) :
    (∀ a b, ∃ met, s.Compares s.equalLeaf [(a, b)] [] (s.equal a b) met) ∧
      s.IsBisimulation s.Bisimilar ∧
      (∀ a b, s.equal a b = true ↔ s.Bisimilar a b) ∧
      Equivalence (fun a b => s.equal a b = true) ∧
      ∀ a b, s.sameContents a b = true → s.equal a b = true := by
  refine ⟨fun a b => ?_, isBisimulation_bisimilar, fun a b => equal_iff_bisimilar, ⟨?_, ?_, ?_⟩,
    fun a b => equal_of_sameContents⟩
  · exact equalWithin_compares s.equalLeaf (Nat.le_succ s.pairBound) a b
  · exact fun a => equal_iff_bisimilar.mpr (Bisimilar.refl a)
  · exact fun h => equal_iff_bisimilar.mpr (equal_iff_bisimilar.mp h).symm
  · intro a b c hab hbc
    have htrans := (equal_iff_bisimilar.mp hab).trans (equal_iff_bisimilar.mp hbc)
    exact equal_iff_bisimilar.mpr htrans

/-- An array that holds itself equals one of two that hold each other. -/
example : (Store.mk #[#[.array ⟨0⟩], #[.array ⟨2⟩], #[.array ⟨1⟩]] #[] #[] #[] #[] 0).equal
    (.array ⟨0⟩) (.array ⟨1⟩) = true := by
  decide

end Store

end ScriptEngine

import Mathlib.Data.List.Basic
import ScriptEngine.Engine
import ScriptEngine.Proofs.PairedPrograms

/-!
# The cache holds the most recent compilations

An engine answers a request from its cache if it can, and reads the source otherwise.  The
answers are the same: an entry is the code that was read for the very same source, and apart
from the number of the compilation that does not depend on when it was read.

What is held depends on the requests since the cache was cleared.  They are listed here with
the last one first, and `Engine.recent` are the different sources among them that compile
and are short enough.  The cache holds the first of these, as many as it has room for, in
this order.

* `Source.tree_inUnit` — a source in different compilations;
* `Engine.Request`, `Engine.served` — requests, and the engine that has served them;
* `Engine.Remembers` — what the cache holds after a history, kept by each request;
* `Engine.cache_holds_recent` — the whole.
-/

namespace ScriptEngine

/-! ## Other compilations -/

/-- Reading in two compilations with the same features. -/
def Reading.renumbered (F : Features) (unit unit' : Nat) : Reading where
  first := ⟨F, unit⟩
  second := ⟨F, unit'⟩
  lenient := False
  Good _ _ _ _ := True
  more _ h := h
  exact _ h := .inr h
  script := rfl
  lexical := rfl
  lexicalShade := rfl
  widen _ _ h := h
  build _ _ _ _ _ := trivial

namespace Source

variable (F : Features)

/-- **A source is read in the same way in every compilation**: the trees differ in the number
of the compilation only, and violations do not differ. -/
theorem tree_inUnit (source : Source) (unit unit' : Nat) :
    source.tree ⟨F, unit'⟩ = (source.tree ⟨F, unit⟩).map (Node.inUnit unit') := by
  rw [tree_eq_read, tree_eq_read]
  have hresults : (Reading.renumbered F unit unit').Results (Token.ofSource source.text)
      (source.kind.read source.params (Token.ofSource source.text) ⟨F, unit⟩)
      (source.kind.read source.params (Token.ofSource source.text) ⟨F, unit'⟩) :=
    Reading.results_read ..
  cases hread : source.kind.read source.params (Token.ofSource source.text) ⟨F, unit⟩ with
  | ok tree =>
      rw [hread] at hresults
      exact hresults.1
  | error e =>
      rw [hread] at hresults
      exact hresults.resolve_left not_false

/-- Whether a source compiles.  The number of the compilation does not matter. -/
def compiles (source : Source) : Bool := (source.tree ⟨F, 0⟩).isOk

theorem compiles_eq (source : Source) (unit : Nat) :
    source.compiles F = (source.compile ⟨F, unit⟩).isOk := by
  rw [compiles, tree_inUnit F source unit 0, compile]
  cases source.tree ⟨F, unit⟩ <;> rfl

/-- Whether the compilation of a source may be held. -/
def isHeld (threshold : Nat) (source : Source) : Bool :=
  source.text.utf8ByteSize ≤ threshold && source.compiles F

end Source

/-! ## Lists without repetitions -/

section Lists

variable {α : Type} [DecidableEq α]

/-- Leaving out one element makes as much room for others. -/
theorem take_filter_take {list : List α} (h : list.Nodup) (a : α) (n : Nat) :
    ((list.take (n + 1)).filter (· ≠ a)).take n = (list.filter (· ≠ a)).take n := by
  induction list generalizing n with
  | nil => simp
  | cons x rest ih =>
      obtain ⟨hx, hrest⟩ := List.nodup_cons.mp h
      rw [List.take_succ_cons]
      by_cases hxa : x = a
      · subst hxa
        have hothers : rest.filter (· ≠ x) = rest :=
          List.filter_eq_self.mpr fun y hy => decide_eq_true fun heq => hx (heq ▸ hy)
        have hfewer : (rest.take n).filter (· ≠ x) = rest.take n :=
          List.filter_eq_self.mpr fun y hy =>
            decide_eq_true fun heq => hx (heq ▸ List.mem_of_mem_take hy)
        rw [List.filter_cons_of_neg (by simp), List.filter_cons_of_neg (by simp), hothers, hfewer,
          List.take_take, Nat.min_self]
      · rw [List.filter_cons_of_pos (by simpa), List.filter_cons_of_pos (by simpa)]
        cases n with
        | zero => rfl
        | succ n => rw [List.take_succ_cons, List.take_succ_cons, ih hrest n]

/-- The first occurrences of the elements with a property. -/
theorem eraseDups_filter (p : α → Bool) : ∀ list : List α,
    (list.filter p).eraseDups = list.eraseDups.filter p
  | [] => rfl
  | a :: rest => by
    have hothers := eraseDups_filter p (rest.filter fun b => !b == a)
    rw [List.eraseDups_cons]
    cases ha : p a with
    | true =>
        rw [List.filter_cons_of_pos ha, List.filter_cons_of_pos ha, List.eraseDups_cons,
          List.filter_comm, hothers]
    | false =>
        have hnone : (rest.filter fun b => !b == a).filter p = rest.filter p := by
          rw [List.filter_filter]
          refine List.filter_congr fun b _ => ?_
          by_cases hb : b = a <;> simp [hb, ha]
        rw [List.filter_cons_of_neg (by simp [ha]), List.filter_cons_of_neg (by simp [ha]),
          ← hothers, hnone]
termination_by list => list.length
decreasing_by exact Nat.lt_succ_of_le (List.length_filter_le _ rest)

/-- With one more element in front, its later occurrences are gone. -/
theorem eraseDups_cons_eq (a : α) (list : List α) :
    (a :: list).eraseDups = a :: list.eraseDups.filter (· ≠ a) := by
  rw [List.eraseDups_cons, eraseDups_filter]
  refine congrArg (a :: ·) (List.filter_congr fun b _ => ?_)
  by_cases hb : b = a <;> simp [hb]

theorem nodup_eraseDups (list : List α) : list.eraseDups.Nodup := by
  induction list with
  | nil => exact List.nodup_nil
  | cons a rest ih =>
      rw [eraseDups_cons_eq]
      exact List.nodup_cons.mpr ⟨by simp, ih.filter _⟩

end Lists

/-! ## One compilation -/

namespace Cache

/-- The sources held after a use of one of them. -/
theorem keys_use (c : Cache) (source : Source) (code : Lambda) :
    (c.use source code).keys = (source :: c.keys.filter (· ≠ source)).take c.capacity := by
  simp only [use, keys, List.map_take, List.map_cons, List.filter_map]
  rfl

theorem mem_of_find? {c : Cache} {source : Source} {code : Lambda}
    (h : c.find? source = some code) : (source, code) ∈ c.entries := by
  obtain ⟨⟨held, _⟩, hfind, rfl⟩ := Option.map_eq_some_iff.mp h
  obtain rfl : held = source := by simpa using List.find?_some hfind
  exact List.mem_of_find?_eq_some hfind

/-- Using a compilation adds no other. -/
theorem mem_use {c : Cache} {source held : Source} {code code' : Lambda}
    (h : (held, code') ∈ (c.use source code).entries) :
    (held = source ∧ code' = code) ∨ (held, code') ∈ c.entries := by
  rcases List.mem_cons.mp (List.mem_of_mem_take h) with heq | hmem
  · exact .inl (Prod.mk.inj heq)
  · exact .inr (List.mem_of_mem_filter hmem)

end Cache

namespace Engine

/-- An engine with these settings holds the first of some sources, as many as it has room
for, each with the code that was read for it. -/
structure Remembers (settings : Settings) (sources : List Source) (e : Engine) : Prop where
  features : e.features = settings.features
  capacity : e.cache.capacity = settings.cacheCapacity
  threshold : e.cache.threshold = settings.cacheThreshold
  read : ∀ source code, (source, code) ∈ e.cache.entries →
    ∃ unit, source.compile ⟨settings.features, unit⟩ = .ok code
  keys : e.cache.keys = sources.take settings.cacheCapacity

/-- The sources to hold after one of them has been asked for. -/
def Settings.refreshed (settings : Settings) (source : Source) (sources : List Source) :
    List Source :=
  if source.isHeld settings.features settings.cacheThreshold then
    source :: sources.filter (· ≠ source)
  else sources

namespace Remembers

variable {settings : Settings} {sources : List Source} {e : Engine}

/-- Nothing is held at first. -/
theorem start : (ofSettings settings).Remembers settings [] :=
  ⟨rfl, rfl, rfl, nofun, List.take_nil.symm⟩

/-- Nothing is held after a clear. -/
theorem clearCache (h : e.Remembers settings sources) : e.clearCache.Remembers settings [] :=
  ⟨h.features, h.capacity, h.threshold, nofun, List.take_nil.symm⟩

/-- A source that is accepted and compiles stands in front once its code is used. -/
theorem use (h : e.Remembers settings sources) (hnodup : sources.Nodup) {source : Source}
    {code : Lambda} {unit : Nat} (haccepts : e.cache.accepts source = true)
    (hcode : source.compile ⟨settings.features, unit⟩ = .ok code) :
    { e with cache := e.cache.use source code }.Remembers settings
      (settings.refreshed source sources) where
  features := h.features
  capacity := h.capacity
  threshold := h.threshold
  read held code' hmem := by
    rcases Cache.mem_use hmem with ⟨rfl, rfl⟩ | hmem
    · exact ⟨unit, hcode⟩
    · exact h.read held code' hmem
  keys := by
    have hheld : settings.refreshed source sources = source :: sources.filter (· ≠ source) := by
      rw [Cache.accepts, h.threshold, Bool.and_eq_true] at haccepts
      refine if_pos ?_
      rw [Source.isHeld, haccepts.2, Source.compiles_eq _ _ unit, hcode]
      rfl
    rw [hheld, Cache.keys_use, h.keys, h.capacity]
    cases settings.cacheCapacity with
    | zero => rfl
    | succ room =>
        rw [List.take_succ_cons, List.take_succ_cons, take_filter_take hnodup]

/-- A source that is not accepted or does not compile changes nothing. -/
theorem ignore (h : e.Remembers settings sources) {source : Source}
    (hignored : e.cache.accepts source = false ∨ source.compiles settings.features = false) :
    e.Remembers settings (settings.refreshed source sources) where
  features := h.features
  capacity := h.capacity
  threshold := h.threshold
  read := h.read
  keys := by
    rw [h.keys, Settings.refreshed]
    split
    · rename_i hheld
      obtain ⟨hshort, hcompiles⟩ := Bool.and_eq_true _ _ ▸ hheld
      -- A short source that compiles is refused by a cache without room only.
      have hroom : settings.cacheCapacity = 0 := by
        by_contra hroom
        simp [Cache.accepts, h.capacity, h.threshold, hroom, hshort, hcompiles] at hignored
      rw [hroom, List.take_zero, List.take_zero]
    · rfl

/-- **One compilation.**  It gives the code that the source is read as, and afterwards the
source is held in front of the others if it may be held at all. -/
theorem compile (h : e.Remembers settings sources) (hnodup : sources.Nodup) (source : Source)
    (s : Store) :
    (∃ unit, (e.compile source s).1 = source.compile ⟨settings.features, unit⟩) ∧
      (e.compile source s).2.1.Remembers settings (settings.refreshed source sources) := by
  unfold Engine.compile
  split
  case h_1 code hhit =>
    obtain ⟨haccepts, hfind⟩ := Option.ite_none_right_eq_some.mp hhit
    obtain ⟨unit, hcode⟩ := h.read source code (Cache.mem_of_find? hfind)
    exact ⟨⟨unit, hcode.symm⟩, h.use hnodup haccepts hcode⟩
  case h_2 =>
    dsimp only
    refine ⟨⟨s.newUnit.1, ?_⟩, ?_⟩ <;> split <;> rename_i hcode <;> rw [h.features] at hcode
    · exact hcode.symm
    · exact hcode.symm
    · exact h.ignore (.inr (by rw [Source.compiles_eq _ _ s.newUnit.1, hcode]; rfl))
    · cases haccepts : e.cache.accepts source with
      | true => exact h.use hnodup haccepts hcode
      | false => exact h.ignore (.inl haccepts)

end Remembers

/-! ## Histories -/

/-- What is asked of an engine.  A compilation counts itself in the store, which runs may
have changed since the request before. -/
inductive Request where
  | expression (text : String) (s : Store)
  | script (text : String) (params : List String) (s : Store)
  | clearCache

/-- The source that a request is about. -/
def Request.source? : Request → Option Source
  | expression text _ => some (.ofExpression text)
  | script text params _ => some (.ofScript text params)
  | clearCache => none

/-- The engine after a request. -/
def serve (e : Engine) : Request → Engine
  | .expression text s => (e.expression text s).2.1
  | .script text params s => (e.script text params s).2.1
  | .clearCache => e.clearCache

/-- The engine of some settings after a history of requests, the last of them first. -/
def served (settings : Settings) : List Request → Engine
  | [] => ofSettings settings
  | request :: earlier => (served settings earlier).serve request

/-- The different sources asked for since the cache was cleared, of those that compile and
are short enough.  The one asked for last stands first. -/
def recent (settings : Settings) (history : List Request) : List Source :=
  let sources := (history.takeWhile (·.source?.isSome)).filterMap Request.source?
  (sources.filter (Source.isHeld settings.features settings.cacheThreshold)).eraseDups

section

variable (settings : Settings)

theorem nodup_recent (history : List Request) : (recent settings history).Nodup :=
  nodup_eraseDups _

/-- A request for a source. -/
theorem recent_cons {request : Request} {source : Source} (h : request.source? = some source)
    (earlier : List Request) :
    recent settings (request :: earlier) =
      settings.refreshed source (recent settings earlier) := by
  rw [recent, List.takeWhile_cons_of_pos (by rw [h]; rfl), List.filterMap_cons_some h,
    Settings.refreshed]
  split
  · rename_i hheld
    exact (congrArg _ (List.filter_cons_of_pos hheld)).trans (eraseDups_cons_eq ..)
  · rename_i hheld
    exact congrArg _ (List.filter_cons_of_neg hheld)

/-- What the engine holds after a history, by induction on the requests. -/
theorem remembers_served (history : List Request) :
    (served settings history).Remembers settings (recent settings history) := by
  induction history with
  | nil => exact .start
  | cons request earlier ih =>
      cases request with
      | expression text s =>
          rw [recent_cons settings rfl]
          exact (ih.compile (nodup_recent settings earlier) (.ofExpression text) s).2
      | script text params s =>
          rw [recent_cons settings rfl]
          exact (ih.compile (nodup_recent settings earlier) (.ofScript text params) s).2
      | clearCache => exact ih.clearCache

/-- **The cache is transparent and holds the most recent compilations.**  After every history
of requests, an expression or script is answered by what its source is read as with the
features of the engine: its code or the violation.  Only the number of the compilation may be
an earlier one, and no tree depends on it but for that number.  The sources held are the
most recent ones, as many as the cache has room for. -/
theorem cache_holds_recent (history : List Request) :
    (∀ text s, ∃ unit, ((served settings history).expression text s).1 =
      ((Source.ofExpression text).compile ⟨settings.features, unit⟩).map
        fun code => ⟨text, code⟩) ∧
    (∀ text params s, ∃ unit, ((served settings history).script text params s).1 =
      ((Source.ofScript text params).compile ⟨settings.features, unit⟩).map
        fun code => ⟨text, .ofLambda code none⟩) ∧
    (∀ source unit unit', Source.tree source ⟨settings.features, unit'⟩ =
      (source.tree ⟨settings.features, unit⟩).map (Node.inUnit unit')) ∧
    (served settings history).cache.keys =
      (recent settings history).take settings.cacheCapacity ∧
    (served settings history).cachedCount =
      min settings.cacheCapacity (recent settings history).length := by
  have hremembers := remembers_served settings history
  have hanswer := fun source s =>
    (hremembers.compile (nodup_recent settings history) source s).1
  refine ⟨fun text s => ?_, fun text params s => ?_,
    fun source => source.tree_inUnit settings.features, hremembers.keys, ?_⟩
  · obtain ⟨unit, hunit⟩ := hanswer (.ofExpression text) s
    exact ⟨unit, congrArg (Except.map _) hunit⟩
  · obtain ⟨unit, hunit⟩ := hanswer (.ofScript text params) s
    exact ⟨unit, congrArg (Except.map _) hunit⟩
  · rw [cachedCount, Cache.count, ← List.length_map Prod.fst, ← List.length_take]
    exact congrArg List.length hremembers.keys

end

end Engine

end ScriptEngine

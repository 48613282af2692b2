import Mathlib.Data.List.Forall2
import Mathlib.Data.List.Induction
import ScriptEngine.Proofs.BuiltinEffects

/-!
# The first of the best overloads

A call of a host method runs the first of the best overloads: of those that take the
arguments, none has a greater total, and those declared before it have smaller ones.

* `MethodSignature.Fits`, `MethodSignature.total` — what an overload takes, and how well;
* `MethodSignature.score_eq` — they are what the score says;
* `MethodSignature.Best` — the first of the best;
* `MethodSignature.choose_none_iff`, `MethodSignature.choose_some_iff` — it is the one chosen;
* `MethodSignature.fitting` — the overloads that take the arguments, in order;
* `MethodSignature.choose_related`, `MethodSignature.choose_concat` — what becomes of the choice
  when overloads come or go;
* `Eval.callMethod_overload` — it is the one that runs;
* `Eval.overload_first_best` — all of this about one list of overloads.
-/

namespace ScriptEngine

namespace MethodSignature

variable {name : String} {args : List Value}

/-! ## What an overload takes -/

/-- An overload takes the arguments of a call of its name if it has a parameter for each
and each fits its own. -/
def Fits (signature : MethodSignature) (name : String) (args : List Value) : Prop :=
  signature.name = name ∧
    List.Forall₂ (fun kind arg => (ParamKind.score kind arg).isSome = true) signature.params args

instance (signature : MethodSignature) : Decidable (signature.Fits name args) :=
  inferInstanceAs (Decidable (_ ∧ _))

/-- How well the arguments fit in total. -/
def total (signature : MethodSignature) (args : List Value) : Nat :=
  (List.zipWith (fun kind arg => (ParamKind.score kind arg).getD 0) signature.params args).foldl
    (· + ·) 0

/-- The scores of arguments that all fit. -/
theorem scores_of_fit {params : List ParamKind}
    (h : List.Forall₂ (fun kind arg => (ParamKind.score kind arg).isSome = true) params args) :
    ((params.zip args).mapM fun (kind, arg) => ParamKind.score kind arg) =
      some (List.zipWith (fun kind arg => (ParamKind.score kind arg).getD 0) params args) := by
  induction h with
  | nil => rfl
  | @cons kind arg params args hfirst _ ih =>
    obtain ⟨score, hscore⟩ := Option.isSome_iff_exists.mp hfirst
    rw [List.zip_cons_cons, List.mapM_cons, ih, List.zipWith_cons_cons]
    dsimp only
    rw [hscore]
    rfl

/-- If there are scores, every argument fits. -/
theorem fit_of_scores {params : List ParamKind} {scores : List Nat}
    (hlength : params.length = args.length)
    (h : ((params.zip args).mapM fun (kind, arg) => ParamKind.score kind arg) = some scores) :
    List.Forall₂ (fun kind arg => (ParamKind.score kind arg).isSome = true) params args := by
  induction params generalizing args scores with
  | nil =>
    rw [List.eq_nil_of_length_eq_zero hlength.symm]
    exact .nil
  | cons kind params ih =>
    obtain _ | ⟨arg, args⟩ := args
    · cases hlength
    rw [List.zip_cons_cons, List.mapM_cons, Option.bind_eq_bind, Option.bind_eq_some_iff] at h
    obtain ⟨score, hscore, h⟩ := h
    rw [Option.bind_eq_bind, Option.bind_eq_some_iff] at h
    obtain ⟨rest, hrest, -⟩ := h
    exact .cons (Option.isSome_of_mem hscore) (ih (Nat.succ.inj hlength) hrest)

/-- The score of an overload is its total if it takes the arguments. -/
theorem score_eq (signature : MethodSignature) (name : String) (args : List Value) :
    signature.score name args =
      if signature.Fits name args then some (signature.total args) else none := by
  unfold score
  by_cases hfits : signature.Fits name args
  · rw [if_pos hfits, if_pos ⟨hfits.1, hfits.2.length_eq⟩, scores_of_fit hfits.2, Option.map_some]
    rfl
  · rw [if_neg hfits]
    split
    case isFalse => rfl
    case isTrue h =>
      -- with the name and the number right, it is an argument that does not fit
      rw [Option.map_eq_none_iff, ← Option.not_isSome_iff_eq_none, Option.isSome_iff_exists]
      rintro ⟨scores, hscores⟩
      exact hfits ⟨h.1, fit_of_scores h.2 hscores⟩

/-! ## The scan -/

variable {signatures others : List MethodSignature} {signature other last : MethodSignature}
  {i j : Nat}

/-- The first of the best overloads: none that takes the arguments has a greater total, and
those before it have smaller ones. -/
structure Best (signatures : List MethodSignature) (name : String) (args : List Value) (i : Nat)
    (signature : MethodSignature) : Prop where
  found : signatures[i]? = some signature
  fits : signature.Fits name args
  greatest : ∀ other ∈ signatures, other.Fits name args → other.total args ≤ signature.total args
  first : ∀ other ∈ signatures.take i, other.Fits name args →
    other.total args < signature.total args

/-- There is one first of the best overloads. -/
theorem Best.unique (h : Best signatures name args i signature)
    (h' : Best signatures name args j other) : i = j := by
  have not_before : ∀ {i j signature other}, Best signatures name args i signature →
      Best signatures name args j other → ¬i < j := by
    intro i j signature other h h' hij
    have hlt := h'.first signature
      (List.mem_of_getElem? (by rw [List.getElem?_take, if_pos hij, h.found])) h.fits
    have hle := h.greatest other (List.mem_of_getElem? h'.found) h'.fits
    omega
  have hij := not_before h h'
  have hji := not_before h' h
  omega

/-- An overload that does not take the arguments changes nothing behind the others. -/
theorem Best.concat_unfit (h : Best signatures name args i signature)
    (hlast : last.Fits name args → last.total args ≤ signature.total args) :
    Best (signatures ++ [last]) name args i signature where
  found := by
    obtain ⟨hi, -⟩ := List.getElem?_eq_some_iff.mp h.found
    rw [List.getElem?_append_left hi, h.found]
  fits := h.fits
  greatest other hother := by
    rw [List.mem_append, List.mem_singleton] at hother
    obtain hother | rfl := hother
    · exact h.greatest other hother
    · exact hlast
  first := by
    obtain ⟨hi, -⟩ := List.getElem?_eq_some_iff.mp h.found
    rw [List.take_append_of_le_length (Nat.le_of_lt hi)]
    exact h.first

/-- An overload that takes the arguments better than all others is the best behind them. -/
theorem Best.concat_fit (hlast : last.Fits name args)
    (h : ∀ other ∈ signatures, other.Fits name args → other.total args < last.total args) :
    Best (signatures ++ [last]) name args signatures.length last where
  found := List.getElem?_concat_length
  fits := hlast
  greatest other hother hfits := by
    rw [List.mem_append, List.mem_singleton] at hother
    obtain hother | rfl := hother
    · exact Nat.le_of_lt (h other hother hfits)
    · exact Nat.le_refl _
  first := by
    rw [List.take_left]
    exact h

/-- The best overload so far, with its total. -/
def leader (signatures : List MethodSignature) (name : String) (args : List Value) :
    Option (Nat × Nat) :=
  (signatures.zipIdx.map fun (signature, i) =>
    (signature.score name args).map fun total => (i, total)).foldl better none

theorem choose_eq_leader : choose signatures name args =
    (leader signatures name args).map Prod.fst := rfl

/-- One step of the scan. -/
theorem leader_concat : leader (signatures ++ [last]) name args =
    better (leader signatures name args)
      ((last.score name args).map fun total => (signatures.length, total)) := by
  rw [leader, leader, List.zipIdx_append, List.map_append, List.foldl_append, Nat.zero_add]
  rfl

/-- **The scan**, step by step: it holds no overload while none takes the arguments, and then
the first of the best. -/
theorem leader_outcome (signatures : List MethodSignature) (name : String) (args : List Value) :
    (leader signatures name args = none ∧
      ∀ other ∈ signatures, ¬other.Fits name args) ∨
    ∃ i signature, leader signatures name args = some (i, signature.total args) ∧
      Best signatures name args i signature := by
  induction signatures using List.reverseRecOn with
  | nil => exact .inl ⟨rfl, List.forall_mem_nil _⟩
  | append_singleton signatures last ih =>
    rw [leader_concat, score_eq]
    obtain ⟨hnone, hunfit⟩ | ⟨i, signature, hsome, hbest⟩ := ih
    · rw [hnone]
      by_cases hlast : last.Fits name args
      · right
        rw [if_pos hlast]
        exact ⟨signatures.length, last, rfl,
          Best.concat_fit hlast fun other hother hfits => absurd hfits (hunfit other hother)⟩
      · left
        rw [if_neg hlast]
        refine ⟨rfl, fun other hother => ?_⟩
        rw [List.mem_append, List.mem_singleton] at hother
        obtain hother | rfl := hother
        · exact hunfit other hother
        · exact hlast
    · right
      rw [hsome]
      by_cases hlast : last.Fits name args
      · rw [if_pos hlast, Option.map_some, better]
        by_cases hlt : signature.total args < last.total args
        · rw [if_pos hlt]
          refine ⟨signatures.length, last, rfl, Best.concat_fit hlast fun other hother hfits => ?_⟩
          exact Nat.lt_of_le_of_lt (hbest.greatest other hother hfits) hlt
        · rw [if_neg hlt]
          exact ⟨i, signature, rfl, hbest.concat_unfit fun _ => Nat.le_of_not_lt hlt⟩
      · rw [if_neg hlast]
        exact ⟨i, signature, rfl, hbest.concat_unfit fun hfits => absurd hfits hlast⟩

/-- **No overload is chosen** exactly if none takes the arguments. -/
theorem choose_none_iff : choose signatures name args = none ↔
    ∀ other ∈ signatures, ¬other.Fits name args := by
  rw [choose_eq_leader]
  obtain ⟨hnone, hunfit⟩ | ⟨i, signature, hsome, hbest⟩ := leader_outcome signatures name args
  · rw [hnone]
    exact iff_of_true rfl hunfit
  · rw [hsome]
    refine iff_of_false (by simp) fun hunfit => ?_
    exact hunfit signature (List.mem_of_getElem? hbest.found) hbest.fits

/-- **An overload is chosen** exactly if it is the first of the best. -/
theorem choose_some_iff : choose signatures name args = some i ↔
    ∃ signature, Best signatures name args i signature := by
  rw [choose_eq_leader]
  obtain ⟨hnone, hunfit⟩ | ⟨j, signature, hsome, hbest⟩ := leader_outcome signatures name args
  · rw [hnone]
    refine iff_of_false (by simp) ?_
    rintro ⟨signature, h⟩
    exact hunfit signature (List.mem_of_getElem? h.found) h.fits
  · rw [hsome, Option.map_some, Option.some_inj]
    constructor
    · rintro rfl
      exact ⟨signature, hbest⟩
    · rintro ⟨other, hother⟩
      exact hbest.unique hother

/-! ## Other lists of overloads -/

/-- The overloads that take the arguments, in order. -/
def fitting (signatures : List MethodSignature) (name : String) (args : List Value) :
    List MethodSignature :=
  signatures.filter fun signature => signature.Fits name args

theorem fitting_append (front back : List MethodSignature) :
    fitting (front ++ back) name args = fitting front name args ++ fitting back name args :=
  List.filter_append ..

theorem mem_fitting : other ∈ fitting signatures name args ↔
    other ∈ signatures ∧ other.Fits name args := by
  rw [fitting, List.mem_filter, decide_eq_true_iff]

/-- The first of the best overloads is the same in every list with the same overloads that
take the arguments, and behind the same of them. -/
theorem Best.transfer (h : Best signatures name args i signature)
    (hsame : fitting others name args = fitting signatures name args) :
    ∃ j, Best others name args j signature ∧
      fitting (others.take j) name args = fitting (signatures.take i) name args := by
  obtain ⟨hi, hfound⟩ := List.getElem?_eq_some_iff.mp h.found
  have hsplit : signatures = signatures.take i ++ signature :: signatures.drop (i + 1) := by
    rw [← hfound, ← List.drop_eq_getElem_cons hi, List.take_append_drop]
  have hcons : fitting (signature :: signatures.drop (i + 1)) name args =
      signature :: fitting (signatures.drop (i + 1)) name args :=
    List.filter_cons_of_pos (decide_eq_true h.fits)
  -- the other list has the overload behind the same ones, and behind some that do not fit
  obtain ⟨front, back, hothers, hfront, hback⟩ : ∃ front back, others = front ++ back ∧
      fitting front name args = fitting (signatures.take i) name args ∧
      fitting back name args = signature :: fitting (signatures.drop (i + 1)) name args := by
    rw [hsplit, fitting_append, hcons] at hsame
    exact List.filter_eq_append_iff.mp hsame
  obtain ⟨between, after, rfl, hbetween, -, -⟩ := List.filter_eq_cons_iff.mp hback
  have hskipped : fitting between name args = [] := List.filter_eq_nil_iff.mpr hbetween
  have htake : others.take (front ++ between).length = front ++ between := by
    rw [hothers, ← List.append_assoc, List.take_left]
  have hbefore : fitting (others.take (front ++ between).length) name args =
      fitting (signatures.take i) name args := by
    rw [htake, fitting_append, hskipped, List.append_nil, hfront]
  refine ⟨(front ++ between).length, ⟨?_, h.fits, ?_, ?_⟩, hbefore⟩
  · rw [hothers, ← List.append_assoc, List.getElem?_append_right (Nat.le_refl _), Nat.sub_self]
    rfl
  · intro other hother hfits
    have hmem := mem_fitting.mpr ⟨hother, hfits⟩
    rw [hsame] at hmem
    exact h.greatest other (mem_fitting.mp hmem).1 hfits
  · intro other hother hfits
    have hmem := mem_fitting.mpr ⟨hother, hfits⟩
    rw [hbefore] at hmem
    exact h.first other (mem_fitting.mp hmem).1 hfits

/-- **Overloads that do not take the arguments** may come and go: the same overload is chosen,
behind the same of those that take them. -/
theorem choose_related (hsame : fitting others name args = fitting signatures name args) :
    Option.Rel (fun i j => signatures[i]? = others[j]? ∧
        fitting (signatures.take i) name args = fitting (others.take j) name args)
      (choose signatures name args) (choose others name args) := by
  cases hchosen : choose signatures name args with
  | none =>
    have hothers : choose others name args = none := by
      rw [choose_none_iff] at hchosen ⊢
      intro other hother hfits
      have hmem := mem_fitting.mpr ⟨hother, hfits⟩
      rw [hsame] at hmem
      exact hchosen other (mem_fitting.mp hmem).1 hfits
    rw [hothers]
    exact .none
  | some i =>
    obtain ⟨signature, hbest⟩ := choose_some_iff.mp hchosen
    obtain ⟨j, hother, hbefore⟩ := hbest.transfer hsame
    rw [choose_some_iff.mpr ⟨signature, hother⟩]
    exact .some ⟨hbest.found.trans hother.found.symm, hbefore.symm⟩

/-- **A further overload that takes the arguments** is chosen exactly if its total is greater
than all others. -/
theorem choose_concat (hlast : last.Fits name args) :
    choose (signatures ++ [last]) name args =
      if ∀ other ∈ signatures, other.Fits name args → other.total args < last.total args then
        some signatures.length
      else choose signatures name args := by
  split
  case isTrue h => exact choose_some_iff.mpr ⟨last, Best.concat_fit hlast h⟩
  case isFalse h =>
    cases hchosen : choose signatures name args with
    | none =>
      rw [choose_none_iff] at hchosen
      exact absurd (fun other hother hfits => absurd hfits (hchosen other hother)) h
    | some i =>
      obtain ⟨signature, hbest⟩ := choose_some_iff.mp hchosen
      refine choose_some_iff.mpr ⟨signature, hbest.concat_unfit fun _ => Nat.le_of_not_lt ?_⟩
      intro hlt
      exact h fun other hother hfits =>
        Nat.lt_of_le_of_lt (hbest.greatest other hother hfits) hlt

end MethodSignature

namespace Eval

variable {rules : Semantics} {ev : Evaluator} {ctx : ContextRef} {r : Run} {ref : HostRef}
  {name : String} {args : List Value}

/-- A call of a method of a host object runs the overload that is chosen. -/
theorem callMethod_overload
    (hshown : rules.members.shows (r.store.host ref).typeName name = true) :
    callMethod rules ev (.object ref) name args ctx r =
      match MethodSignature.choose (r.store.host ref).methods name args with
      | some i => resolve (rules.members.embedder.invoke ref i args) r
      | none => absent (.methodNotFound name (r.store.host ref).typeName) .nil r := by
  have hmethod : rules.members.method? r.store (.object ref) name args =
      (MethodSignature.choose (r.store.host ref).methods name args).map .overload :=
    if_pos hshown
  cases hchosen : MethodSignature.choose (r.store.host ref).methods name args with
  | none =>
    rw [hchosen] at hmethod
    exact callMethod_missing hmethod rfl
  | some i =>
    rw [hchosen] at hmethod
    exact callMethod_found ctx hmethod

/-- **The first of the best overloads is called.**  Take any list of overloads, any name and
any arguments.  No overload is chosen exactly if none of the name takes the arguments; else it
is one that does, with a greatest total, and every one before it that takes them has a smaller
total.  So overloads that do not take the arguments may come and go, and one more that takes
them is chosen only if its total is greater than all others.  A call of a method of a host
object with these overloads, of a name that is shown, runs the one that is chosen, and finds no
method if there is none. -/
theorem overload_first_best (signatures : List MethodSignature) (name : String)
    (args : List Value) :
    let chosen := MethodSignature.choose signatures name args
    (chosen = none ↔ ∀ other ∈ signatures, ¬other.Fits name args) ∧
    (∀ i, chosen = some i ↔
      ∃ signature, signatures[i]? = some signature ∧ signature.Fits name args ∧
        (∀ other ∈ signatures, other.Fits name args →
          other.total args ≤ signature.total args) ∧
        ∀ other ∈ signatures.take i, other.Fits name args →
          other.total args < signature.total args) ∧
    (∀ others, MethodSignature.fitting others name args =
        MethodSignature.fitting signatures name args →
      Option.Rel (fun i j => signatures[i]? = others[j]? ∧
          MethodSignature.fitting (signatures.take i) name args =
            MethodSignature.fitting (others.take j) name args)
        chosen (MethodSignature.choose others name args)) ∧
    (∀ last : MethodSignature, last.Fits name args →
      MethodSignature.choose (signatures ++ [last]) name args =
        if ∀ other ∈ signatures, other.Fits name args → other.total args < last.total args then
          some signatures.length
        else chosen) ∧
    ∀ (rules : Semantics) (ev : Evaluator) (ctx : ContextRef) (r : Run) (ref : HostRef),
      (r.store.host ref).methods = signatures →
      rules.members.shows (r.store.host ref).typeName name = true →
      callMethod rules ev (.object ref) name args ctx r =
        match chosen with
        | some i => resolve (rules.members.embedder.invoke ref i args) r
        | none => absent (.methodNotFound name (r.store.host ref).typeName) .nil r := by
  refine ⟨MethodSignature.choose_none_iff, fun i => ?_, fun others hsame => ?_,
    fun last hlast => MethodSignature.choose_concat hlast, ?_⟩
  · rw [MethodSignature.choose_some_iff]
    constructor
    · rintro ⟨signature, h⟩
      exact ⟨signature, h.found, h.fits, h.greatest, h.first⟩
    · rintro ⟨signature, hfound, hfits, hgreatest, hfirst⟩
      exact ⟨signature, hfound, hfits, hgreatest, hfirst⟩
  · exact MethodSignature.choose_related hsame
  · intro rules ev ctx r ref hmethods hshown
    subst hmethods
    exact callMethod_overload hshown

/-- A number fits a number and an integer equally well, and anything less well: the overload
for a number is declared before the one for an integer and runs. -/
theorem overload_first_best_number :
    let host : Embedder := { Embedder.none with invoke := fun _ i _ s => .ok (.number i) s }
    let rules : Semantics := ⟨⟨true⟩, ⟨none, host⟩⟩
    let signatures : List MethodSignature := [⟨"f", [.any]⟩, ⟨"f", [.number]⟩, ⟨"f", [.integer]⟩]
    let s : Store :=
      { Store.empty with
        hosts := #[⟨"Host", 0, none, signatures, .empty⟩]
        contexts := #[.vars .empty none] }
    let r : Run := ⟨s, Options.standard, .top 8⟩
    (s.host ⟨0⟩).methods = signatures ∧
      rules.members.shows (s.host ⟨0⟩).typeName "f" = true ∧
      callMethod rules (rules.evaluate 1) (.object ⟨0⟩) "f" [.number 7] ⟨0⟩ r =
        .ok (.number (1 : Nat)) r := by
  intro host rules signatures s r
  have hmethods : (s.host ⟨0⟩).methods = signatures := rfl
  have hshown : rules.members.shows (s.host ⟨0⟩).typeName "f" = true := rfl
  have hchosen : MethodSignature.choose signatures "f" [.number 7] = some 1 := by
    with_unfolding_all rfl
  obtain ⟨-, -, -, -, hcall⟩ := overload_first_best signatures "f" [.number 7]
  have hcall := hcall rules (rules.evaluate 1) ⟨0⟩ r ⟨0⟩ hmethods hshown
  rw [hchosen] at hcall
  exact ⟨hmethods, hshown, hcall⟩

end Eval

end ScriptEngine

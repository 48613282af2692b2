import ScriptEngine.Proofs.ArrayMethods
import ScriptEngine.Proofs.MapHistories
import ScriptEngine.Proofs.Ranges

/-!
# Positions in text methods

The methods of texts count by characters, and they agree with one another: what one of them
finds at a position, another takes out there, and what one takes apart, another puts together.

* `Search.indexOf_some`, `Search.indexOf_none` — the first occurrence, or none;
* `Search.intercalate_splitOn`, `Search.replaceAll_eq` — pieces and what is between them;
* `Builtin.substring_between`, `Builtin.substring_from` — the characters between two positions,
  or from one on;
* `Eval.text_methods_agree` — the methods next to one another.
-/

namespace ScriptEngine

namespace Search

variable {needle sep new cs piece : List Char} {i skip : Nat}

/-! ## Occurrences -/

/-- **The first occurrence**: the text is there, inside the bounds, and at no smaller position. -/
theorem indexOf_some (h : indexOf? needle cs = some i) :
    needle <+: cs.drop i ∧ i ≤ cs.length ∧ ∀ j < i, ¬needle <+: cs.drop j := by
  induction cs generalizing i with
  | nil =>
    rw [indexOf?] at h
    split at h
    case isTrue hempty =>
      cases h
      rw [List.isEmpty_iff] at hempty
      subst hempty
      exact ⟨List.nil_prefix, Nat.le_refl _, fun j hj => absurd hj (Nat.not_lt_zero j)⟩
    case isFalse => cases h
  | cons c cs ih =>
    rw [indexOf?] at h
    split at h
    case isTrue hprefix =>
      cases h
      exact ⟨List.isPrefixOf_iff_prefix.mp hprefix, Nat.zero_le _,
        fun j hj => absurd hj (Nat.not_lt_zero j)⟩
    case isFalse hprefix =>
      obtain ⟨k, hk, rfl⟩ := Option.map_eq_some_iff.mp h
      obtain ⟨hhere, hbound, hfirst⟩ := ih hk
      refine ⟨hhere, Nat.succ_le_succ hbound, fun j hj hearlier => ?_⟩
      cases j with
      | zero => exact hprefix (List.isPrefixOf_iff_prefix.mpr hearlier)
      | succ j => exact hfirst j (Nat.lt_of_succ_lt_succ hj) hearlier

/-- **No occurrence**: the text is nowhere. -/
theorem indexOf_none (h : indexOf? needle cs = none) (j : Nat) : ¬needle <+: cs.drop j := by
  induction cs generalizing j with
  | nil =>
    rw [indexOf?] at h
    split at h
    case isTrue => cases h
    case isFalse hempty =>
      rw [List.drop_nil, List.prefix_nil]
      intro hnil
      exact hempty (List.isEmpty_iff.mpr hnil)
  | cons c cs ih =>
    rw [indexOf?] at h
    split at h
    case isTrue => cases h
    case isFalse hprefix =>
      cases j with
      | zero =>
        intro hhere
        exact hprefix (List.isPrefixOf_iff_prefix.mpr hhere)
      | succ j => exact ih (Option.map_eq_none_iff.mp h) j

/-- A text is contained where it has an occurrence. -/
theorem contains_eq : contains needle cs = (indexOf? needle cs).isSome := by
  induction cs with
  | nil =>
    rw [contains, indexOf?]
    split
    case isTrue h => exact h
    case isFalse h => exact Bool.eq_false_of_not_eq_true h
  | cons c cs ih =>
    rw [contains, indexOf?, ih]
    split
    case isTrue h => rw [h, Bool.true_or, Option.isSome_some]
    case isFalse h => rw [Bool.eq_false_of_not_eq_true h, Bool.false_or, Option.isSome_map]

/-- A text starts with another where the first occurrence is at the start. -/
theorem isPrefixOf_eq : needle.isPrefixOf cs = decide (indexOf? needle cs = some 0) := by
  rw [Bool.eq_iff_iff, decide_eq_true_iff, List.isPrefixOf_iff_prefix]
  constructor
  · intro hprefix
    cases hplace : indexOf? needle cs with
    | none => exact absurd hprefix (indexOf_none hplace 0)
    | some i =>
      cases i with
      | zero => rfl
      | succ i => exact absurd hprefix ((indexOf_some hplace).2.2 0 (Nat.succ_pos i))
  · intro hplace
    exact (indexOf_some hplace).1

/-- A text that is not contained is nowhere inside. -/
theorem contains_eq_false (h : ¬needle <:+: cs) : contains needle cs = false := by
  rw [contains_eq, ← Bool.not_eq_true]
  intro hsome
  obtain ⟨i, hplace⟩ := Option.isSome_iff_exists.mp hsome
  exact h ((indexOf_some hplace).1.isInfix.trans (List.drop_suffix i cs).isInfix)

/-! ## Pieces -/

/-- There is at least one piece. -/
theorem splitFrom_ne_nil : splitFrom sep skip piece cs ≠ [] := by
  fun_induction splitFrom sep skip piece cs with
  | case1 => exact List.cons_ne_nil _ _
  | case2 _ _ _ _ ih => exact ih
  | case3 => exact List.cons_ne_nil _ _
  | case4 _ _ _ _ ih => exact ih

/-- A text that starts with a separator goes on behind it. -/
theorem append_drop_of_isPrefixOf {c : Char} (hsep : sep ≠ [])
    (h : sep.isPrefixOf (c :: cs) = true) : sep ++ cs.drop (sep.length - 1) = c :: cs := by
  obtain ⟨rest, hrest⟩ := List.isPrefixOf_iff_prefix.mp h
  obtain _ | ⟨d, sep⟩ := sep
  · exact absurd rfl hsep
  · injection hrest with hd htail
    subst hd htail
    show d :: sep ++ (sep ++ rest).drop sep.length = d :: (sep ++ rest)
    rw [List.drop_left, List.cons_append]

/-- The pieces with the separator between them, from anywhere in the text. -/
theorem intercalate_splitFrom (hsep : sep ≠ []) :
    sep.intercalate (splitFrom sep skip piece cs) = piece.reverse ++ cs.drop skip := by
  fun_induction splitFrom sep skip piece cs with
  | case1 =>
    rw [List.intercalate_singleton, List.drop_nil, List.append_nil]
  | case2 piece skip c cs ih => exact ih
  | case3 piece c cs hprefix ih =>
    rw [List.intercalate_cons_of_ne_nil splitFrom_ne_nil, ih, List.reverse_nil, List.nil_append,
      List.append_assoc, append_drop_of_isPrefixOf hsep hprefix, List.drop_zero]
  | case4 piece c cs hprefix ih =>
    rw [ih, List.reverse_cons, List.append_assoc, List.drop_zero, List.drop_zero]
    rfl

/-- Replacing puts the other text between the pieces, from anywhere in the text. -/
theorem replaceFrom_eq : piece.reverse ++ replaceFrom sep new skip cs =
    new.intercalate (splitFrom sep skip piece cs) := by
  fun_induction splitFrom sep skip piece cs with
  | case1 =>
    rw [replaceFrom, List.intercalate_singleton, List.append_nil]
  | case2 piece skip c cs ih =>
    rw [replaceFrom, ih]
  | case3 piece c cs hprefix ih =>
    rw [replaceFrom, if_pos hprefix, List.intercalate_cons_of_ne_nil splitFrom_ne_nil, ← ih,
      List.reverse_nil, List.nil_append, List.append_assoc]
  | case4 piece c cs hprefix ih =>
    rw [replaceFrom, if_neg hprefix, ← ih, List.reverse_cons, List.append_assoc]
    rfl

/-- What is inside the piece so far starts in it. -/
theorem not_infix_of_far {rest : List Char} (hsep : sep ≠ [])
    (hfar : ∀ k < piece.length, ¬sep <+: (piece.reverse ++ rest).drop k) :
    ¬sep <:+: piece.reverse := by
  rintro ⟨before, after, h⟩
  have hlength := congrArg List.length h
  rw [List.length_append, List.length_append, List.length_reverse] at hlength
  have hpos := List.length_pos_of_ne_nil hsep
  refine hfar before.length (by omega) ?_
  rw [← h, List.append_assoc, List.append_assoc, List.drop_left]
  exact List.prefix_append _ _

/-- No piece has the separator in it, provided that none starts in the piece so far. -/
theorem not_infix_of_mem_splitFrom (hsep : sep ≠ [])
    (hfar : ∀ k < piece.length, ¬sep <+: (piece.reverse ++ cs.drop skip).drop k) :
    ∀ p ∈ splitFrom sep skip piece cs, ¬sep <:+: p := by
  fun_induction splitFrom sep skip piece cs with
  | case1 =>
    intro p hp
    obtain rfl := List.mem_singleton.mp hp
    exact not_infix_of_far hsep hfar
  | case2 piece skip c cs ih => exact ih hfar
  | case3 piece c cs hprefix ih =>
    intro p hp
    obtain rfl | hp := List.mem_cons.mp hp
    · exact not_infix_of_far hsep hfar
    · exact ih (fun k hk => absurd hk (Nat.not_lt_zero k)) p hp
  | case4 piece c cs hprefix ih =>
    refine ih fun k hk => ?_
    rw [List.reverse_cons, List.append_assoc]
    by_cases hlast : k < piece.length
    · exact hfar k hlast
    · obtain rfl : k = piece.reverse.length := by
        rw [List.length_cons] at hk
        rw [List.length_reverse]
        omega
      rw [List.drop_left]
      intro hhere
      exact hprefix (List.isPrefixOf_iff_prefix.mpr hhere)

/-- **The pieces with the separator between them** are the text again; an empty separator is
between any two characters. -/
theorem intercalate_splitOn (sep cs : List Char) : sep.intercalate (splitOn sep cs) = cs := by
  unfold splitOn
  split
  case isTrue hempty =>
    rw [List.isEmpty_iff] at hempty
    subst hempty
    induction cs with
    | nil => rfl
    | cons c cs ih =>
      cases cs with
      | nil => rfl
      | cons d cs =>
        show [].intercalate ([c] :: [d] :: cs.map fun c => [c]) = _
        rw [List.intercalate_cons_cons]
        exact congrArg (c :: ·) ih
  case isFalse hempty =>
    exact intercalate_splitFrom fun hnil => hempty (List.isEmpty_iff.mpr hnil)

/-- **Replacing a text** that is not empty puts the other one between the pieces. -/
theorem replaceAll_eq (hsep : sep ≠ []) (new cs : List Char) :
    replaceAll sep new cs = new.intercalate (splitOn sep cs) := by
  have hempty : ¬sep.isEmpty = true := by rwa [List.isEmpty_iff]
  rw [replaceAll, splitOn, if_neg hempty, if_neg hempty]
  show [].reverse ++ replaceFrom sep new 0 cs = _
  exact replaceFrom_eq

/-- **No piece** has the separator in it, unless that is empty. -/
theorem not_infix_of_mem_splitOn (hsep : sep ≠ []) : ∀ p ∈ splitOn sep cs, ¬sep <:+: p := by
  have hempty : ¬sep.isEmpty = true := by rwa [List.isEmpty_iff]
  rw [splitOn, if_neg hempty]
  exact not_infix_of_mem_splitFrom hsep fun k hk => absurd hk (Nat.not_lt_zero k)

end Search

/-! ## Methods -/

namespace Builtin

variable {s : Store} {text t u : String} {i j : Nat}

/-- A position up to the length. -/
theorem position_count (method : String) {args : List Value} {place length : Nat}
    (harg : args[place]? = some (.count i)) (hlength : length < 2 ^ 63) (hi : i ≤ length) :
    position method args place length s = .ok i s := by
  have hclamp : ((i : Int) : Number).clampInt64 = i := by
    rw [Number.clampInt64_eq, Number.towardZero_intCast]
    omega
  rw [position, ok_bind (wordArg_number harg), hclamp, if_pos (by omega)]
  rfl

/-- **The characters from one position to another.** -/
theorem substring_between (hsize : text.length < 2 ^ 63) (hij : i ≤ j) (hj : j ≤ text.length) :
    substring.run (.text text) [.count i, .count j] s =
      .ok (textOf ((text.toList.take j).drop i)) s := by
  rw [← String.length_toList] at hsize hj
  have hstart : position "substring" [.count i, .count j] 0 text.toList.length s = .ok i s :=
    position_count _ rfl hsize (Nat.le_trans hij hj)
  have hstop : position "substring" [.count i, .count j] 1 text.toList.length s = .ok j s :=
    position_count _ rfl hsize hj
  show (position "substring" [.count i, .count j] 0 text.toList.length >>= _) s = _
  rw [ok_bind hstart]
  show (position "substring" [.count i, .count j] 1 text.toList.length >>= _) s = _
  rw [ok_bind hstop]
  show (if j < i then outOfBounds _ _ >>= fun _ => pure _ else pure _ : Action Value) s = _
  rw [if_neg (Nat.not_lt.mpr hij)]
  rfl

/-- **The characters from a position on.** -/
theorem substring_from (hsize : text.length < 2 ^ 63) (hi : i ≤ text.length) :
    substring.run (.text text) [.count i] s = .ok (textOf (text.toList.drop i)) s := by
  rw [← String.length_toList] at hsize hi
  have hstart : position "substring" [.count i] 0 text.toList.length s = .ok i s :=
    position_count _ rfl hsize hi
  show (position "substring" [.count i] 0 text.toList.length >>= _) s = _
  rw [ok_bind hstart, if_neg (show ¬[Value.count i].length = 2 by simp)]
  show (if text.toList.length < i then outOfBounds _ _ >>= fun _ => pure _ else pure _ :
    Action Value) s = _
  rw [if_neg (Nat.not_lt.mpr hi), List.take_length]
  rfl

/-- What is between two positions is a text of that length exactly if it starts at the first. -/
theorem textOf_between_iff {cs : List Char} :
    textOf ((cs.take (j + t.length)).drop j) = .text t ↔ t.toList <+: cs.drop j := by
  rw [List.drop_take, Nat.add_sub_cancel_left, List.prefix_iff_eq_take, String.length_toList,
    textOf, Value.text.injEq]
  constructor
  · intro h
    have hlist := congrArg String.toList h
    rw [String.toList_ofList] at hlist
    exact hlist.symm
  · intro h
    rw [← h, String.ofList_toList]

/-- **The character at a position.** -/
theorem charAt_here (hsize : text.length < 2 ^ 63) (hi : i < text.length) :
    charAt.run (.text text) [.count i] s = .ok (textOf ((text.toList.take (i + 1)).drop i)) s := by
  rw [← String.length_toList] at hsize hi
  have hplace : element "charAt" [.count i] 0 text.toList.length s = .ok i s := by
    rw [element, ok_bind (position_count _ rfl hsize (Nat.le_of_lt hi)), if_pos hi]
    rfl
  have hchar : (text.toList.take (i + 1)).drop i = [text.toList[i]] := by
    rw [List.drop_take, Nat.add_sub_cancel_left, List.drop_eq_getElem_cons hi]
    rfl
  show (element "charAt" [.count i] 0 text.toList.length >>= _) s = _
  rw [ok_bind hplace, hchar, List.getElem?_eq_getElem hi]
  rfl

/-- The items of an array of texts with a text between them. -/
theorem join_texts {ref : ArrayRef} {pieces : List String}
    (hitems : s.items ref = (pieces.map Value.text).toArray) :
    arrayJoin.run (.array ref) [.text t] s = .ok (.text (t.intercalate pieces)) s := by
  have hplain : (s.items ref).toList.map s.plain = pieces := by
    rw [hitems, List.toList_toArray, List.map_map]
    exact List.map_id _
  have hjoin : arrayJoin.run (.array ref) [.text t] s =
      .ok (.text ((String.ofList t.toList).intercalate ((s.items ref).toList.map s.plain))) s := rfl
  rw [hjoin, hplain, String.ofList_toList]

end Builtin

namespace Eval

variable {rules : Semantics} {ev : Evaluator} {ctx : ContextRef} {r : Run} {text t u : String}
  {args : List Value}

/-- A builtin method of a text, called by its name. -/
theorem callMethod_text {method : String} {b : Builtin} {result : Value}
    (hshown : rules.members.shows "string" method = true) (hname : Builtin.ofText? method = some b)
    (hrun : b.run (.text text) args r.store = .ok result r.store) :
    callMethod rules ev (.text text) method args ctx r = .ok result r := by
  have hfound : rules.members.method? r.store (.text text) method args = some (.builtin b) :=
    Builtin.method_of_ofName hname hshown
  rw [callMethod_found ctx hfound]
  exact resolve_ok hrun

/-- Two texts are put together. -/
theorem binary_add_texts (rules : Semantics) (front back : String) (r : Run) :
    binary rules .add (.text front) (.text back) r = .ok (.text (front ++ back)) r := by
  have hadd : rules.arithmetic.add r.store (.text front) (.text back) =
      .ok (.text (front ++ back)) := by
    have htext : (Arithmetic.isText (.text front) || Arithmetic.isText (.text back)) = true := rfl
    rw [Arithmetic.add, if_pos htext, if_neg (by simp [Value.isNil])]
    rfl
  show compute (fun s => rules.arithmetic.add s (.text front) (.text back)) r = _
  rw [compute, hadd]

/-- What splits a text gives its pieces in a new array. -/
theorem split_gives (hshown : rules.members.shows "string" "split" = true) :
    GivesArray (callMethod rules ev (.text text) "split" [.text t] ctx) r
      ((Search.splitOn t.toList text.toList).map Builtin.textOf).toArray := by
  have hfound : rules.members.method? r.store (.text text) "split" [.text t] =
      some (.builtin .split) :=
    Builtin.method_of_ofName rfl hshown
  rw [GivesArray, callMethod_found ctx hfound]
  exact resolve_ok rfl

/-- What joins an array of texts puts them together with the text between them. -/
theorem join_gives {ref : ArrayRef} {pieces : List String}
    (hjoin : rules.members.shows "array" "join" = true) (sep : String)
    (hitems : r.store.items ref = (pieces.map Value.text).toArray) :
    callMethod rules ev (.array ref) "join" [.text sep] ctx r =
      .ok (.text (sep.intercalate pieces)) r := by
  have hfound : rules.members.method? r.store (.array ref) "join" [.text sep] =
      some (.builtin .arrayJoin) :=
    Builtin.method_of_ofName rfl hjoin
  rw [callMethod_found ctx hfound]
  exact resolve_ok (Builtin.join_texts hitems)

section Agreement

variable (hshown : ∀ member, rules.members.shows "string" member = true)

include hshown

/-- **Pieces and what is between them.** -/
theorem split_agrees (hjoin : rules.members.shows "array" "join" = true) (text t u : String) :
    ∃ pieces : List String,
      GivesArray (callMethod rules ev (.text text) "split" [.text t] ctx) r
          (pieces.map .text).toArray ∧
        (∀ r' ref, r'.store.items ref = (pieces.map .text).toArray →
          callMethod rules ev (.array ref) "join" [.text t] ctx r' = .ok (.text text) r') ∧
        (t ≠ "" → ∃ replaced,
          callMethod rules ev (.text text) "replace" [.text t, .text u] ctx r =
              .ok (.text replaced) r ∧
            ∀ r' ref, r'.store.items ref = (pieces.map .text).toArray →
              callMethod rules ev (.array ref) "join" [.text u] ctx r' =
                .ok (.text replaced) r') ∧
        (t ≠ "" → ∀ piece ∈ pieces,
          callMethod rules ev (.text piece) "contains" [.text t] ctx r = .ok (.bool false) r) := by
  let pieces := (Search.splitOn t.toList text.toList).map String.ofList
  have hlists : pieces.map String.toList = Search.splitOn t.toList text.toList := by
    rw [List.map_map]
    exact List.map_id'' (fun _ => String.toList_ofList) _
  have hbetween : ∀ sep : String, sep.intercalate pieces =
      String.ofList (sep.toList.intercalate (Search.splitOn t.toList text.toList)) := by
    intro sep
    rw [← hlists, ← String.toList_intercalate, String.ofList_toList]
  have hnonempty : t ≠ "" → t.toList ≠ [] := by
    intro hne hnil
    exact hne (String.toList_eq_nil_iff.mp hnil)
  refine ⟨pieces, ?_, ?_, ?_, ?_⟩
  · rw [List.map_map]
    exact split_gives (hshown _)
  · intro r' ref hitems
    rw [join_gives hjoin t hitems, hbetween, Search.intercalate_splitOn, String.ofList_toList]
  · intro hne
    refine ⟨u.intercalate pieces, ?_, fun r' ref hitems => join_gives hjoin u hitems⟩
    rw [hbetween, ← Search.replaceAll_eq (hnonempty hne)]
    exact callMethod_text (hshown _) rfl rfl
  · intro hne piece hpiece
    obtain ⟨cs, hcs, rfl⟩ := List.mem_map.mp hpiece
    have hcontains : Search.contains t.toList (String.ofList cs).toList = false := by
      rw [String.toList_ofList]
      exact Search.contains_eq_false (Search.not_infix_of_mem_splitOn (hnonempty hne) cs hcs)
    rw [← hcontains]
    exact callMethod_text (hshown _) rfl rfl

variable (hsize : text.length < 2 ^ 63)

include hsize

/-- **The two parts at a position** are the text when added. -/
theorem substring_agrees {i : Nat} (hi : i ≤ text.length) : ∃ front back,
    callMethod rules ev (.text text) "substring" [.count 0, .count i] ctx r = .ok front r ∧
      callMethod rules ev (.text text) "substring" [.count i] ctx r = .ok back r ∧
      binary rules .add front back r = .ok (.text text) r := by
  refine ⟨_, _,
    callMethod_text (hshown _) rfl (Builtin.substring_between hsize (Nat.zero_le i) hi),
    callMethod_text (hshown _) rfl (Builtin.substring_from hsize hi), ?_⟩
  rw [Builtin.textOf, Builtin.textOf, binary_add_texts, ← String.ofList_append, List.drop_zero,
    List.take_append_drop, String.ofList_toList]

/-- What is between two positions inside a text is another text exactly if that is there. -/
theorem substring_eq_iff {j : Nat} (hj : j + t.length ≤ text.length) :
    callMethod rules ev (.text text) "substring" [.count j, .count (j + t.length)] ctx r =
        .ok (.text t) r ↔ t.toList <+: text.toList.drop j := by
  rw [callMethod_text (hshown _) rfl
    (Builtin.substring_between hsize (Nat.le_add_right j t.length) hj), EStateM.Result.ok.injEq]
  rw [Builtin.textOf_between_iff]
  exact and_iff_left rfl

/-- **The position of a text in another**, or a negative one. -/
theorem indexOf_agrees (t : String) : ∃ place : Int,
    callMethod rules ev (.text text) "indexOf" [.text t] ctx r = .ok (.int place) r ∧
      callMethod rules ev (.text text) "contains" [.text t] ctx r = .ok (.bool (0 ≤ place)) r ∧
      callMethod rules ev (.text text) "startsWith" [.text t] ctx r =
        .ok (.bool (place = 0)) r ∧
      (0 ≤ place →
        callMethod rules ev (.text text) "substring" [.int place, .int (place + t.length)] ctx r =
          .ok (.text t) r) ∧
      (∀ j : Nat, j < place →
        callMethod rules ev (.text text) "substring" [.count j, .count (j + t.length)] ctx r ≠
          .ok (.text t) r) ∧
      (place < 0 → ∀ j : Nat, j + t.length ≤ text.length →
        callMethod rules ev (.text text) "substring" [.count j, .count (j + t.length)] ctx r ≠
          .ok (.text t) r) := by
  have hindex : callMethod rules ev (.text text) "indexOf" [.text t] ctx r =
      .ok (Builtin.placeValue (Search.indexOf? t.toList text.toList)) r :=
    callMethod_text (hshown _) rfl rfl
  have hcontains : callMethod rules ev (.text text) "contains" [.text t] ctx r =
      .ok (.bool (Search.contains t.toList text.toList)) r :=
    callMethod_text (hshown _) rfl rfl
  have hstarts : callMethod rules ev (.text text) "startsWith" [.text t] ctx r =
      .ok (.bool (t.toList.isPrefixOf text.toList)) r :=
    callMethod_text (hshown _) rfl rfl
  rw [Search.contains_eq] at hcontains
  rw [Search.isPrefixOf_eq] at hstarts
  cases hplace : Search.indexOf? t.toList text.toList with
  | none =>
    rw [hplace] at hindex hcontains hstarts
    refine ⟨-1, hindex, hcontains, hstarts, ?_, ?_, ?_⟩
    · intro hnonneg
      omega
    · intro j hj
      omega
    · intro _ j hj
      rw [ne_eq, substring_eq_iff hshown hsize hj]
      exact Search.indexOf_none hplace j
  | some i =>
    obtain ⟨hhere, hbound, hfirst⟩ := Search.indexOf_some hplace
    have hend : i + t.length ≤ text.length := by
      have hle := hhere.length_le
      rw [List.length_drop, String.length_toList, String.length_toList] at hle
      rw [String.length_toList] at hbound
      omega
    rw [hplace] at hindex hcontains hstarts
    refine ⟨i, hindex, ?_, ?_, ?_, ?_, ?_⟩
    · rw [decide_eq_true (Int.natCast_nonneg i)]
      exact hcontains
    · have hzero : decide ((i : Int) = 0) = decide (some i = some 0) := by simp
      rw [hzero]
      exact hstarts
    · intro _
      exact (substring_eq_iff hshown hsize hend).mpr hhere
    · intro j hj
      have hj : j < i := Int.ofNat_lt.mp hj
      rw [ne_eq, substring_eq_iff hshown hsize (by omega)]
      exact hfirst j hj
    · intro hneg
      omega

end Agreement

/-- **Text methods agree with one another.**  Take any texts, the first no longer than positions
count, and permissions that show the methods.  What `split` gives are pieces without the
separator, unless that is empty, and `join` puts them together to the text again; with another
text between them they are what `replace` gives.  The two parts that `substring` gives at a
position are the text when added, and the character that `charAt` gives is what is between two
positions.  `contains` and `startsWith` agree with the position that `indexOf` gives: the text
is there and at no smaller position, or the position is negative and the text is nowhere. -/
theorem text_methods_agree (rules : Semantics) (ev : Evaluator) (ctx : ContextRef) (r : Run)
    (text t u : String) (hshown : ∀ member, rules.members.shows "string" member = true)
    (hjoin : rules.members.shows "array" "join" = true) (hsize : text.length < 2 ^ 63) :
    let call := fun receiver method args => callMethod rules ev receiver method args ctx
    (∃ pieces : List String,
      GivesArray (call (.text text) "split" [.text t]) r (pieces.map .text).toArray ∧
        (∀ r' ref, r'.store.items ref = (pieces.map .text).toArray →
          call (.array ref) "join" [.text t] r' = .ok (.text text) r') ∧
        (t ≠ "" → ∃ replaced,
          call (.text text) "replace" [.text t, .text u] r = .ok (.text replaced) r ∧
            ∀ r' ref, r'.store.items ref = (pieces.map .text).toArray →
              call (.array ref) "join" [.text u] r' = .ok (.text replaced) r') ∧
        (t ≠ "" → ∀ piece ∈ pieces,
          call (.text piece) "contains" [.text t] r = .ok (.bool false) r)) ∧
    (∀ i ≤ text.length, ∃ front back,
      call (.text text) "substring" [.count 0, .count i] r = .ok front r ∧
        call (.text text) "substring" [.count i] r = .ok back r ∧
        binary rules .add front back r = .ok (.text text) r) ∧
    (∀ i < text.length, ∃ char,
      call (.text text) "charAt" [.count i] r = .ok char r ∧
        call (.text text) "substring" [.count i, .count (i + 1)] r = .ok char r) ∧
    ∃ place : Int,
      call (.text text) "indexOf" [.text t] r = .ok (.int place) r ∧
        call (.text text) "contains" [.text t] r = .ok (.bool (0 ≤ place)) r ∧
        call (.text text) "startsWith" [.text t] r = .ok (.bool (place = 0)) r ∧
        (0 ≤ place →
          call (.text text) "substring" [.int place, .int (place + t.length)] r =
            .ok (.text t) r) ∧
        (∀ j : Nat, j < place →
          call (.text text) "substring" [.count j, .count (j + t.length)] r ≠ .ok (.text t) r) ∧
        (place < 0 → ∀ j : Nat, j + t.length ≤ text.length →
          call (.text text) "substring" [.count j, .count (j + t.length)] r ≠ .ok (.text t) r) := by
  intro call
  refine ⟨split_agrees hshown hjoin text t u, ?_, ?_, indexOf_agrees hshown hsize t⟩
  · intro i hi
    exact substring_agrees hshown hsize hi
  · intro i hi
    exact ⟨_, callMethod_text (hshown _) rfl (Builtin.charAt_here hsize hi),
      callMethod_text (hshown _) rfl
        (Builtin.substring_between hsize (Nat.le_succ i) (Nat.succ_le_of_lt hi))⟩

/-- A text of wide characters: the parts at its second character, and that character. -/
theorem text_methods_agree_wide :
    let rules : Semantics := ⟨⟨true⟩, ⟨none, .none⟩⟩
    let r : Run := ⟨.empty, Options.standard, .top 8⟩
    let call := fun receiver method args =>
      callMethod rules (rules.evaluate 1) receiver method args ⟨0⟩
    (∀ member, rules.members.shows "string" member = true) ∧
      rules.members.shows "array" "join" = true ∧ "añaña".length < 2 ^ 63 ∧
      (∃ front back, call (.text "añaña") "substring" [.count 0, .count 2] r = .ok front r ∧
        call (.text "añaña") "substring" [.count 2] r = .ok back r ∧
        binary rules .add front back r = .ok (.text "añaña") r) ∧
      ∃ char, call (.text "añaña") "charAt" [.count 1] r = .ok char r ∧
        call (.text "añaña") "substring" [.count 1, .count 2] r = .ok char r := by
  intro rules r call
  have hshown : ∀ member, rules.members.shows "string" member = true := fun _ => rfl
  have hjoin : rules.members.shows "array" "join" = true := rfl
  have hsize : "añaña".length < 2 ^ 63 := by decide
  obtain ⟨-, hparts, hchar, -⟩ := text_methods_agree rules (rules.evaluate 1) ⟨0⟩ r "añaña" "ña" "u"
    hshown hjoin hsize
  exact ⟨hshown, hjoin, hsize, hparts 2 (by decide), hchar 1 (by decide)⟩

end Eval

end ScriptEngine

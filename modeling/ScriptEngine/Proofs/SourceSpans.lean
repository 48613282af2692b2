import ScriptEngine.Proofs.CheckedPrograms
import ScriptEngine.Proofs.RegularPrograms
import ScriptEngine.Proofs.Tiling

/-!
# Places in a source

The span of a node goes from the first token that was passed for it to the last.  As tokens
come in the order of their source, the spans of a tree nest, although parts of a node need not
cover all of it and some have a span that is made up: what a compound assignment stands for
has its place.  What fails does so at the place of a token, of a node, or behind the last
token, and all of these end between characters.

* `Span.isSome_slice_iff` — spans whose ends are places where a text can be cut;
* `Node.Nested` — trees with spans that nest, and go from token to token;
* `Reading.nested` — they are kept by reading;
* `Source.tree_spans` — the spans of the tree of a source, or of what it fails with.
-/

namespace ScriptEngine

/-! ## Where a text can be cut -/

/-- A number of bytes after which a text can be cut. -/
def Cuts (text : List Char) (n : Nat) : Prop :=
  ∃ front rest, text = front ++ rest ∧ byteLength front = n

/-- What is cut off a text has as many bytes as asked for. -/
theorem splitBytes_eq_some {n : Nat} {text front rest : List Char}
    (h : splitBytes n text = some (front, rest)) : text = front ++ rest ∧ byteLength front = n := by
  fun_induction splitBytes n text generalizing front with
  | case1 text =>
      cases h
      exact ⟨rfl, rfl⟩
  | case2 => cases h
  | case3 n c text hle ih =>
      obtain ⟨⟨front', rest'⟩, hfound, hpair⟩ := Option.map_eq_some_iff.mp h
      cases hpair
      obtain ⟨rfl, hlength⟩ := ih hfound
      refine ⟨rfl, ?_⟩
      rw [byteLength, hlength]
      exact Nat.add_sub_of_le hle
  | case4 => cases h

/-- Of two places where a text can be cut, the later one is where the rest after the earlier
one can be. -/
theorem Cuts.between {text : List Char} {m n : Nat} (hm : Cuts text m) (hn : Cuts text n)
    (hle : m ≤ n) : ∃ before covered after, text = before ++ (covered ++ after) ∧
      byteLength before = m ∧ byteLength before + byteLength covered = n := by
  obtain ⟨front, rest, hfront, rfl⟩ := hm
  obtain ⟨front', rest', hfront', rfl⟩ := hn
  rcases List.append_eq_append_iff.mp (hfront.symm.trans hfront') with
    ⟨covered, rfl, rfl⟩ | ⟨covered, rfl, rfl⟩
  · exact ⟨front, covered, rest', hfront, rfl, (byteLength_append ..).symm⟩
  · -- the earlier place would come after the later one, unless they are the same
    rw [byteLength_append] at hle ⊢
    have hcovered : covered = [] := by
      by_contra hne
      have hpos := byteLength_pos hne
      omega
    subst hcovered
    exact ⟨front', [], rest, by simpa using hfront, rfl, rfl⟩

/-- **A span covers a text of a source** if both its ends are places where the source can be
cut, in order. -/
theorem Span.isSome_slice_iff {span : Span} {source : String} :
    (span.slice? source).isSome = true ↔
      span.start ≤ span.stop ∧ Cuts source.toList span.start ∧ Cuts source.toList span.stop := by
  constructor
  · intro h
    obtain ⟨text, htext⟩ := Option.isSome_iff_exists.mp h
    simp only [Span.slice?, guard, Option.bind_eq_bind, Option.bind_eq_some_iff] at htext
    obtain ⟨_, hguard, ⟨front, rest⟩, hfront, ⟨covered, after⟩, hcovered, -⟩ := htext
    have hle : span.start ≤ span.stop := by
      by_contra hgt
      rw [if_neg hgt] at hguard
      cases hguard
    obtain ⟨htext, hlength⟩ := splitBytes_eq_some hfront
    obtain ⟨hrest, hlength'⟩ := splitBytes_eq_some hcovered
    refine ⟨hle, ⟨front, rest, htext, hlength⟩, front ++ covered, after, ?_, ?_⟩
    · rw [htext, List.append_assoc]
      exact congrArg _ hrest
    · rw [byteLength_append, hlength, hlength']
      exact Nat.add_sub_of_le hle
  · rintro ⟨hle, hstart, hstop⟩
    obtain ⟨before, covered, after, htext, hbefore, hcovered⟩ := hstart.between hstop hle
    have hspan : span = ⟨byteLength before, byteLength before + byteLength covered⟩ := by
      rw [hcovered, hbefore]
    rw [hspan, slice_append htext]
    rfl

/-! ## Spans that nest -/

/-- A span that goes from the start of one token to the end of another. -/
def Span.Joins (tokens : List Token) (span : Span) : Prop :=
  ∃ first ∈ tokens, ∃ last ∈ tokens,
    span = ⟨first.span.start, last.span.stop⟩ ∧ span.start ≤ span.stop

/-- A span that lies in another one. -/
def Span.Inside (inner outer : Span) : Prop :=
  outer.start ≤ inner.start ∧ inner.stop ≤ outer.stop

/-- **Trees with spans that nest**: each goes from token to token, and those of the parts of
a node lie in that of the node. -/
def Node.Nested (tokens : List Token) (tree : Node) : Prop :=
  ∀ node : Node, node.Within tree →
    node.span.Joins tokens ∧ ∀ part ∈ node.children, part.span.Inside node.span

/-- Tokens in the order of their source, the end of which comes last. -/
structure Token.InOrder (tokens : List Token) : Prop where
  start_le_stop : ∀ token ∈ tokens, token.span.start ≤ token.span.stop
  apart : tokens.Pairwise fun a b => a.kind ≠ .eof ∧ a.span.stop ≤ b.span.start

section

variable {tokens tokens' : List Token} {tree : Node}

theorem Token.InOrder.sublist (h : InOrder tokens) (hsub : tokens'.Sublist tokens) :
    InOrder tokens' :=
  ⟨fun token htoken => h.start_le_stop token (hsub.subset htoken), h.apart.sublist hsub⟩

/-- No token starts before the first one. -/
theorem Token.InOrder.head_start_le {first : Token} (h : InOrder (first :: tokens))
    {token : Token} (htoken : token ∈ first :: tokens) :
    first.span.start ≤ token.span.start := by
  rcases List.mem_cons.mp htoken with rfl | hrest
  · exact Nat.le_refl _
  · have hapart := (List.rel_of_pairwise_cons h.apart hrest).2
    exact (h.start_le_stop first List.mem_cons_self).trans hapart

/-- No token ends behind the last one. -/
theorem Token.InOrder.stop_le_last {last : Token} (h : InOrder (tokens ++ [last]))
    {token : Token} (htoken : token ∈ tokens ++ [last]) : token.span.stop ≤ last.span.stop := by
  rcases List.mem_append.mp htoken with hfront | hlast
  · have hapart := ((List.pairwise_append.mp h.apart).2.2 token hfront last
      (List.mem_singleton.mpr rfl)).2
    exact hapart.trans (h.start_le_stop last (by simp))
  · rw [List.mem_singleton.mp hlast]

theorem Span.Joins.mono {span : Span} (h : span.Joins tokens) (hsub : tokens ⊆ tokens') :
    span.Joins tokens' := by
  obtain ⟨first, hfirst, last, hlast, hspan⟩ := h
  exact ⟨first, hsub hfirst, last, hsub hlast, hspan⟩

theorem Node.Nested.mono (h : tree.Nested tokens) (hsub : tokens ⊆ tokens') :
    tree.Nested tokens' :=
  fun node hnode => ⟨(h node hnode).1.mono hsub, (h node hnode).2⟩

/-- A node with a span from the first token to the last, of parts that nest. -/
theorem Node.Nested.intro {first last : Token} {front rest : List Token}
    (hfirst : tokens = first :: rest) (hlast : tokens = front ++ [last])
    (horder : Token.InOrder tokens) (hspan : tree.span = first.span.merge last.span)
    (hparts : ∀ part ∈ tree.children, part.Nested tokens) : tree.Nested tokens := by
  have hhead {token : Token} (htoken : token ∈ tokens) : first.span.start ≤ token.span.start := by
    rw [hfirst] at horder htoken
    exact horder.head_start_le htoken
  have hend {token : Token} (htoken : token ∈ tokens) : token.span.stop ≤ last.span.stop := by
    rw [hlast] at horder htoken
    exact horder.stop_le_last htoken
  have hfirstmem : first ∈ tokens := hfirst ▸ List.mem_cons_self
  have hlastmem : last ∈ tokens := hlast ▸ by simp
  have hjoined : tree.span = ⟨first.span.start, last.span.stop⟩ := by
    rw [hspan, Span.merge, Nat.min_eq_left (hhead hlastmem), Nat.max_eq_right (hend hfirstmem)]
  refine Node.forall_within_iff.mpr ⟨⟨?_, fun part hpart => ?_⟩, hparts⟩
  · refine ⟨first, hfirstmem, last, hlastmem, hjoined, ?_⟩
    rw [hjoined]
    exact (horder.start_le_stop first hfirstmem).trans (hend hfirstmem)
  · obtain ⟨a, ha, b, hb, hpart, -⟩ := (hparts part hpart part .here).1
    rw [hjoined, hpart]
    exact ⟨hhead ha, hend hb⟩

end

/-! ## Reading keeps them -/

namespace Cursor

variable {F : Features} {c c' : Cursor}

/-- The tokens that a way passes. -/
theorem Path.exists_passed (h : c.Path F c') : ∃ passed,
    c.after = passed ++ c'.after ∧ c'.before = passed.reverse ++ c.before := by
  induction h with
  | refl => exact ⟨[], rfl, rfl⟩
  | @step c c' hpass _ ih =>
      obtain ⟨passed, hafter, hbefore⟩ := ih
      cases hhere : c.after with
      | nil => exact absurd hhere hpass.here
      | cons token rest =>
          simp only [advance, hhere] at hafter hbefore
          exact ⟨token :: passed, by rw [hafter]; rfl, by simp [hbefore]⟩

/-- The place of a token that is there. -/
theorem currentSpan_of_after {token : Token} {rest : List Token} (h : c.after = token :: rest)
    (horder : Token.InOrder c.after) : c.currentSpan = token.span := by
  have hcurrent : c.current = token := by rw [current, h]; rfl
  show (if c.current.kind = .eof ∧ c.current.span = .none then c.endSpan else c.current.span) = _
  rw [hcurrent]
  split
  · rename_i hend
    cases rest with
    | nil =>
        have hlast : c.endSpan = ⟨token.span.stop, token.span.stop⟩ := by rw [endSpan, h]; rfl
        rw [hlast, hend.2]
        rfl
    | cons next rest =>
        rw [h] at horder
        exact absurd hend.1 (List.rel_of_pairwise_cons horder.apart List.mem_cons_self).1
  · rfl

/-- What is passed is not empty, and its ends are where the cursors look. -/
theorem Passes.exists_ends (h : c.Passes F c') (horder : Token.InOrder c.after) :
    ∃ first rest front last, c.after = (first :: rest) ++ c'.after ∧
      first :: rest = front ++ [last] ∧
      c.currentSpan.merge c'.previousSpan = first.span.merge last.span := by
  obtain ⟨first, after, hhere⟩ := List.exists_cons_of_ne_nil h.1.here
  obtain ⟨rest, hafter, hbefore⟩ := h.2.exists_passed
  simp only [advance, hhere] at hafter hbefore
  obtain ⟨front, last, hlast⟩ :=
    (List.eq_nil_or_concat' (first :: rest)).resolve_left (List.cons_ne_nil _ _)
  have hprevious : c'.previousSpan = last.span := by
    have hback : c'.before = last :: (front.reverse ++ c.before) := by
      rw [hbefore, ← List.singleton_append, ← List.append_assoc, ← List.reverse_cons, hlast]
      simp
    rw [previousSpan, hback]
  refine ⟨first, rest, front, last, ?_, hlast, ?_⟩
  · rw [hhere, hafter, List.cons_append]
  · rw [currentSpan_of_after hhere horder, hprevious]

end Cursor

/-- A tree whose spans nest in what is passed between two cursors. -/
def Node.NestedBetween (c c' : Cursor) (tree : Node) : Prop :=
  ∃ passed, c.after = passed ++ c'.after ∧ (Token.InOrder c.after → tree.Nested passed)

/-- A node from one cursor to another, of parts that nest there. -/
theorem Node.NestedBetween.intro {F : Features} {c c' : Cursor} {tree : Node}
    (hpasses : c.Passes F c') (hspan : tree.span = c.currentSpan.merge c'.previousSpan)
    (hparts : ∀ part ∈ tree.children, part.NestedBetween c c') : tree.NestedBetween c c' := by
  obtain ⟨passed, hpassed, -⟩ := hpasses.path.exists_passed
  refine ⟨passed, hpassed, fun horder => ?_⟩
  obtain ⟨first, rest, front, last, hends, hlast, hmerge⟩ := hpasses.exists_ends horder
  have hfirst : passed = first :: rest := List.append_cancel_right (hpassed.symm.trans hends)
  have hhere : Token.InOrder passed := horder.sublist (hpassed ▸ List.sublist_append_left ..)
  refine .intro hfirst (hfirst.trans hlast) hhere (hspan.trans hmerge) fun part hpart => ?_
  -- a part was read between the same cursors, so the tokens passed for it are the same
  obtain ⟨between, hbetween, hnested⟩ := hparts part hpart
  obtain rfl : between = passed := List.append_cancel_right (hbetween.symm.trans hpassed)
  exact hnested horder

/-- More may be passed before and after. -/
theorem Node.NestedBetween.widen {F : Features} {c₀ c c' c₁ : Cursor} {tree : Node}
    (h : c₀.Path F c) (h' : c'.Path F c₁) (hnested : tree.NestedBetween c c') :
    tree.NestedBetween c₀ c₁ := by
  obtain ⟨before, hbefore, -⟩ := h.exists_passed
  obtain ⟨passed, hpassed, hnested⟩ := hnested
  obtain ⟨after, hafter, -⟩ := h'.exists_passed
  refine ⟨before ++ (passed ++ after), ?_, fun horder => ?_⟩
  · rw [hbefore, hpassed, hafter, List.append_assoc, List.append_assoc]
  · have hhere : Token.InOrder c.after := horder.sublist (hbefore ▸ List.sublist_append_right ..)
    exact (hnested hhere).mono (by simp)

/-- Reading in one dialect keeps the spans of trees nested. -/
def Reading.nested (dialect : Dialect) : Reading :=
  { Reading.regular dialect with
    Good := fun _ c c' node => node.NestedBetween c c'
    widen := .widen
    build := fun {inLoop _ _ _} hpasses hspan _ _ hparts =>
      .intro hpasses hspan fun _ hpart =>
        have ⟨_, hplace⟩ := Node.exists_place_of_mem_children inLoop hpart
        hparts _ hplace }

/-- The spans of a whole program nest. -/
theorem Reading.Program.nested {dialect : Dialect} {tokens : List Token} {c : Cursor} {tree : Node}
    (h : (Reading.nested dialect).Program (.ofList tokens) c tree) (horder : Token.InOrder tokens)
    (hne : tokens ≠ []) : tree.Nested tokens := by
  have hwhole {tree : Node} (h : tree.NestedBetween (.ofList tokens) c) : tree.Nested tokens := by
    obtain ⟨passed, hpassed, hnested⟩ := h
    have hsub : passed ⊆ tokens := by
      rw [show tokens = passed ++ c.after from hpassed]
      exact List.subset_append_left ..
    exact (hnested horder).mono hsub
  cases h with
  | expression h => exact hwhole h.good
  | @script span body pragmas hspan hbody _ =>
      cases body with
      | cons node body =>
          refine hwhole (.intro (hbody node List.mem_cons_self).passes hspan ?_)
          exact fun part hpart => (hbody part hpart).good
      | nil =>
          obtain ⟨first, rest, rfl⟩ := List.exists_cons_of_ne_nil hne
          obtain rfl : span = first.span := hspan.trans (Cursor.currentSpan_of_after rfl horder)
          have hone : Token.InOrder [first] := horder.sublist (by simp)
          have hlast : [first] = [] ++ [first] := rfl
          have hnested : (Node.script first.span [] pragmas).Nested [first] :=
            .intro rfl hlast hone (by simp [Span.merge, Node.span]) nofun
          exact hnested.mono (by simp)

/-- A script without statements is where its first token is. -/
theorem Node.span_of_ofScript {dialect : Dialect} {params : List String} {tokens : List Token}
    {tree : Node} (h : ofScript dialect params tokens = .ok tree) (hnone : tree.children = []) :
    tree.span = (Cursor.ofList tokens).currentSpan := by
  unfold ofScript ofTokens at h
  split at h
  · cases h
  · rw [Grammar.wholeScript_run] at h
    cases hrun : (do
        Parse.declareAll (Parse.start tokens).cursor.currentSpan params
        Grammar.scriptBody (tokens.length + 2) : Parse (List Node)) dialect
        (Parse.start tokens) with
    | error e =>
        rw [hrun] at h
        cases h
    | ok r =>
        rw [hrun] at h
        cases h
        have hbody : r.1 = [] := hnone
        show (if r.1.isEmpty then _ else _) = _
        rw [hbody]
        rfl

/-! ## Whole sources -/

namespace Token

theorem partitions_ofSource (text : String) : Partitions text (ofSource text) := by
  have hfuel : text.toList.length < text.length + 1 := by
    rw [String.length_toList]
    exact Nat.lt_succ_self _
  exact (tiles_ofChars 0 hfuel).partitions

/-- The tokens of a source come in its order. -/
theorem Partitions.inOrder {text : String} {tokens : List Token} (h : Partitions text tokens) :
    InOrder tokens where
  start_le_stop token htoken := by
    have hslice : (token.span.slice? text).isSome = true := by rw [h.slice token htoken]; rfl
    exact (Span.isSome_slice_iff.mp hslice).1
  apart := by
    obtain ⟨front, rfl, hfront⟩ := h.ends
    refine List.Pairwise.and ?_ h.ordered
    refine List.pairwise_append.mpr ⟨?_, List.pairwise_singleton _ _, ?_⟩
    · exact List.pairwise_of_forall_mem_list fun a ha _ _ => hfront a ha
    · exact fun a ha _ _ => hfront a ha

end Token

/-- Reading in a dialect and in the one without its lexical checks, where failures are
places of a text. -/
def Checking.within (text : String) (dialect : Dialect) : Checking where
  lax := ⟨(dialect.features.erase .lexical).erase .lexicalShade, dialect.unit⟩
  strict := dialect
  Here span := (span.slice? text).isSome = true
  unit := rfl
  features f h := by
    obtain ⟨h, h'⟩ := Feature.isLexicalCheck_eq_false.mp h
    show _ = (decide (f ≠ .lexicalShade) && (decide (f ≠ .lexical) && dialect.features.has f))
    rw [decide_eq_true h, decide_eq_true h', Bool.true_and, Bool.true_and]
  lexical := rfl
  lexicalShade := rfl
  nowhere := Span.isSome_slice_iff.mpr ⟨Nat.le_refl _, ⟨[], _, rfl, rfl⟩, ⟨[], _, rfl, rfl⟩⟩
  merge {a b} ha hb := by
    obtain ⟨hle, hstart, hstop⟩ := Span.isSome_slice_iff.mp ha
    obtain ⟨hle', hstart', hstop'⟩ := Span.isSome_slice_iff.mp hb
    refine Span.isSome_slice_iff.mpr ⟨?_, ?_, ?_⟩
    · exact (Nat.min_le_left ..).trans (hle.trans (Nat.le_max_left ..))
    · show Cuts _ (min a.start b.start)
      rcases Nat.le_total a.start b.start with h | h
      · rwa [Nat.min_eq_left h]
      · rwa [Nat.min_eq_right h]
    · show Cuts _ (max a.stop b.stop)
      rcases Nat.le_total a.stop b.stop with h | h
      · rwa [Nat.max_eq_right h]
      · rwa [Nat.max_eq_left h]
  behind ha := by
    obtain ⟨-, -, hstop⟩ := Span.isSome_slice_iff.mp ha
    exact Span.isSome_slice_iff.mpr ⟨Nat.le_refl _, hstop, hstop⟩

namespace Source

variable {source : Source} {dialect : Dialect}

/-- The spans of the tree of a source nest. -/
theorem nested_of_tree {tree : Node} (h : source.tree dialect = .ok tree) :
    tree.Nested (Token.ofSource source.text) := by
  have hpartitions := Token.partitions_ofSource source.text
  have hne : Token.ofSource source.text ≠ [] := by
    obtain ⟨front, hends, -⟩ := hpartitions.ends
    simp [hends]
  rw [source.tree_eq_read] at h
  have hresults : (Reading.nested dialect).Results (Token.ofSource source.text)
      (source.kind.read source.params (Token.ofSource source.text) dialect)
      (source.kind.read source.params (Token.ofSource source.text) dialect) :=
    Reading.results_read ..
  rw [h] at hresults
  obtain ⟨-, c, -, -, hprogram⟩ := hresults
  exact hprogram.nested hpartitions.inOrder hne

/-- What a source fails with is a place in it. -/
theorem isSome_slice_of_error {e : ParseError} (h : source.tree dialect = .error e) :
    (e.span.slice? source.text).isSome = true := by
  have htokens : ∀ token ∈ Token.ofSource source.text,
      (Checking.within source.text dialect).Here token.span := by
    intro token htoken
    have hslice := (Token.partitions_ofSource source.text).slice token htoken
    exact Option.isSome_iff_exists.mpr ⟨_, hslice⟩
  rw [source.tree_eq_read] at h
  have hresults : ∃ walk result, (Checking.within source.text dialect).Results walk result
      (source.kind.read source.params (Token.ofSource source.text) dialect) := by
    cases source.kind with
    | expression => exact ⟨_, _, Checking.results_ofExpression htokens⟩
    | script => exact ⟨_, _, Checking.results_ofScript source.params htokens⟩
  obtain ⟨walk, result, hresults⟩ := hresults
  rw [h] at hresults
  exact hresults.here

/-- A script without statements is where its first token is. -/
theorem head_of_script {tree : Node} (h : source.tree dialect = .ok tree)
    (hkind : source.kind = .script) (hnone : tree.children = []) :
    (Token.ofSource source.text).head?.map Token.span = some tree.span := by
  have hpartitions := Token.partitions_ofSource source.text
  rw [source.tree_eq_read, hkind] at h
  have hspan := Node.span_of_ofScript h hnone
  obtain ⟨front, hends, -⟩ := hpartitions.ends
  have horder := hpartitions.inOrder
  cases htokens : Token.ofSource source.text with
  | nil => simp [htokens] at hends
  | cons first rest =>
      rw [htokens] at hspan horder
      rw [hspan, Cursor.currentSpan_of_after rfl horder]
      rfl

/-- **Spans nest and stay inside the source.**  Each span of the tree of a source goes from
token to token, and those of the parts of a node lie in that of the node.  A script without
statements is where its first token is; if there is no token but the end, nothing is covered.
What cannot be read fails at a place in the source whose ends are between characters. -/
theorem tree_spans (source : Source) (dialect : Dialect) :
    match source.tree dialect with
    | .ok tree =>
      tree.Nested (Token.ofSource source.text) ∧
        (source.kind = .script → tree.children = [] →
          (Token.ofSource source.text).head?.map Token.span = some tree.span) ∧
        ((Token.ofSource source.text).length = 1 →
          tree.span = ⟨source.text.utf8ByteSize, source.text.utf8ByteSize⟩)
    | .error e => (e.span.slice? source.text).isSome = true := by
  cases hread : source.tree dialect with
  | error e => exact isSome_slice_of_error hread
  | ok tree =>
      refine ⟨nested_of_tree hread, head_of_script hread, fun hlength => ?_⟩
      obtain ⟨front, hends, -⟩ := (Token.partitions_ofSource source.text).ends
      have hfront : front = [] := by simpa [hends] using hlength
      obtain ⟨first, hfirst, last, hlast, hspan, -⟩ := (nested_of_tree hread tree .here).1
      rw [hends, hfront, List.nil_append, List.mem_singleton] at hfirst hlast
      rw [hspan, hfirst, hlast]

end Source

end ScriptEngine

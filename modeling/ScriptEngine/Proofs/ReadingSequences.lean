import ScriptEngine.Proofs.PairedReading
import ScriptEngine.Proofs.ReadingStatements

/-!
# Reading statements in a row

Blocks and scripts are statements one after the other.  They differ in what ends them, and
both pass a semicolon by itself as an empty statement, so that the semicolons that a statement
leaves over do no harm in either.

* `RecitesAll` — words that are statements in a row;
* `Sequence.reads` — they are read, in a block as well as in a script;
* `recites_block`, `Recites.reads_block` — blocks.
-/

namespace ScriptEngine.Grammar

open Word

/-- Words that are statements in a row. -/
inductive RecitesAll (inLoop : Bool) : List Word → List Node → Prop
  | nil : RecitesAll inLoop [] []
  | cons {loose : Nat} {ws us : List Word} {t : Node} {ts : List Node} :
      Recites inLoop loose ws t → RecitesAll inLoop us ts → RecitesAll inLoop (ws ++ us) (t :: ts)

theorem RecitesAll.valid {inLoop : Bool} {ws : List Word} {ts : List Node}
    (h : RecitesAll inLoop ws ts) : ∀ w ∈ ws, w.Valid := by
  induction h with
  | nil => exact Valid.nil
  | cons h _ ih => exact Valid.append h.valid ih

/-- A production that reads statements in a row, up to the words `stop`, of which it leaves
`rest`. -/
structure Sequence (σ : Frame) (read : Nat → Parse (List Node)) (stop rest : List Word) :
    Prop where
  stops : headKind stop = .symbol .rbrace ∨ headKind stop = .eof
  pos : 0 < stop.length
  ends : ∀ {n : Nat}, Reads σ (read (n + 1)) stop rest (· = [])
  goes : ∀ {n : Nat} {ws us : List Word} {first? : Option Node} {others : List Node},
    headKind ws ≠ .symbol .rbrace → headKind ws ≠ .eof →
    Reads σ (upTo n).statement ws us (Node.AlikeOption · first?) →
    Reads σ (read n) us rest (Node.AlikeAll · others) →
    Reads σ (read (n + 1)) ws rest (Node.AlikeAll · (first?.toList ++ others))

section Sequences

variable {inLoop : Bool} {n : Nat} {σ : Frame} {ws us stop rest : List Word} {ts : List Node}
variable {read : Nat → Parse (List Node)}

/-- No `else` comes where a statement or the end of a sequence does. -/
theorem RecitesAll.noElse (h : RecitesAll inLoop us ts)
    (hstop : headKind stop = .symbol .rbrace ∨ headKind stop = .eof) : NoElse (us ++ stop) := by
  cases h with
  | nil =>
      have hne : headKind stop ≠ .keyword .kwElse ∧ headKind stop ≠ .symbol .semicolon := by
        rcases hstop with hstop | hstop
        · rw [hstop]
          exact ⟨nofun, nofun⟩
        · rw [hstop]
          exact ⟨nofun, nofun⟩
      exact ⟨hne.1, fun hsemicolon => absurd hsemicolon hne.2⟩
  | cons h _ =>
      rw [List.append_assoc]
      have hne := fun kind hkind => headKind_ne_of_starts h.starts kind hkind
      exact ⟨hne _ rfl _, fun hsemicolon => absurd hsemicolon (hne _ rfl _)⟩

theorem alikeAll_toList_append {found first? : Option Node} {others' others : List Node}
    (h : Node.AlikeOption found first?) (h' : Node.AlikeAll others' others) :
    Node.AlikeAll (found.toList ++ others') (first?.toList ++ others) := by
  cases first? with
  | none =>
      cases found with
      | none => exact h'
      | some node => cases h
  | some first =>
      obtain ⟨node, rfl, hnode⟩ := h.of_some
      exact .cons hnode h'

/-- The statements of a block, with the brace that ends it. -/
theorem sequence_block :
    Sequence σ (fun n => (upTo n).blockStatements) (sign .rbrace :: rest) rest where
  stops := .inl rfl
  pos := Nat.succ_pos _
  ends := by
    intro n
    refine reads_bind (reads_check _) fun yes hyes => ?_
    obtain rfl : yes = true := hyes.trans (decide_eq_true rfl)
    exact reads_bind reads_advance fun _ _ => reads_pure rfl
  goes := by
    intro n ws us first? others hbrace hend hfirst hothers
    refine reads_bind (reads_check _) fun yes hyes => ?_
    obtain rfl : yes = false := hyes.trans (decide_eq_false hbrace)
    refine reads_bind reads_cursor fun c hc => ?_
    rw [show c.isAtEnd = false from decide_eq_false (current_kind hc ▸ hend)]
    refine reads_bind hfirst fun found hfound => ?_
    refine reads_bind hothers fun others' hothers' => reads_pure ?_
    exact alikeAll_toList_append hfound hothers'

/-- The statements of a script, up to the end of the input. -/
theorem sequence_script : Sequence σ (fun n => (upTo n).statements) [final] [final] where
  stops := .inr rfl
  pos := Nat.succ_pos _
  ends := by
    intro n
    refine reads_bind reads_cursor fun c hc => ?_
    rw [show c.isAtEnd = true from decide_eq_true (current_kind hc)]
    exact reads_pure rfl
  goes := by
    intro n ws us first? others _ hend hfirst hothers
    refine reads_bind reads_cursor fun c hc => ?_
    rw [show c.isAtEnd = false from decide_eq_false (current_kind hc ▸ hend)]
    refine reads_bind hfirst fun found hfound => ?_
    refine reads_bind hothers fun others' hothers' => reads_pure ?_
    exact alikeAll_toList_append hfound hothers'

/-- A semicolon by itself is an empty statement. -/
theorem reads_statement_semicolon :
    Reads σ (upTo n).statement (sign .semicolon :: rest) rest (Node.AlikeOption · none) := by
  refine reads_bind reads_currentKind fun kind hkind => ?_
  obtain rfl : kind = .symbol .semicolon := hkind
  exact reads_bind reads_advance fun _ _ => reads_pure rfl

/-- Semicolons that are left over are empty statements. -/
theorem Sequence.skips (hread : Sequence σ read stop rest) {others : List Node} (loose : Nat)
    (h : ∀ m, us.length ≤ m → Reads σ (read m) us rest (Node.AlikeAll · others)) :
    ∀ m, loose + us.length ≤ m →
      Reads σ (read m) (List.replicate loose (sign .semicolon) ++ us) rest
        (Node.AlikeAll · others) := by
  induction loose with
  | zero => exact fun m hm => h m (by omega)
  | succ loose ih =>
      intro m hm
      obtain ⟨m, rfl⟩ : ∃ j, m = j + 1 := ⟨m - 1, by omega⟩
      have hothers := ih m (by omega)
      have hfirst : Reads σ (upTo m).statement
          (sign .semicolon :: (List.replicate loose (sign .semicolon) ++ us)) _ _ :=
        reads_statement_semicolon
      refine hread.goes ?_ ?_ hfirst hothers
      · nofun
      · nofun

/-- **Statements in a row are read** by any production that reads statements in a row. -/
theorem Sequence.reads (hread : Sequence σ read stop rest) (h : RecitesAll inLoop ws ts)
    (hloops : inLoop = true → 0 < σ.loops) :
    ∀ m, ws.length + stop.length ≤ m →
      Reads σ (read m) (ws ++ stop) rest (Node.AlikeAll · ts) := by
  have hpos := hread.pos
  induction h with
  | nil =>
      intro m hm
      obtain ⟨m, rfl⟩ : ∃ j, m = j + 1 := ⟨m - 1, by omega⟩
      exact hread.ends.imp fun found hfound => hfound ▸ rfl
  | @cons loose ws us t ts h hrest ih =>
      intro m hm
      have hloose := h.loose_lt
      simp only [List.length_append] at hm
      obtain ⟨m, rfl⟩ : ∃ j, m = j + 1 := ⟨m - 1, by omega⟩
      have hnext := hrest.noElse hread.stops
      rw [List.append_assoc]
      have hfirst : Reads σ (upTo m).statement (ws ++ (us ++ stop)) _ _ :=
        h.reads hloops (fun _ => hnext) (by simp; omega)
      have hothers := hread.skips loose (fun m hm => ih m (by simpa using hm)) m
        (by simp; omega)
      exact hread.goes (headKind_ne_of_starts h.starts _ rfl _)
        (headKind_ne_of_starts h.starts _ rfl _) hfirst hothers

/-- A block, with the brace that ends it. -/
theorem recites_block {span : Span} (h : RecitesAll inLoop ws ts) :
    Recites inLoop 0 (sign .lbrace :: (ws ++ [sign .rbrace])) (.block span ts) where
  valid := Valid.cons (valid_sign _) (Valid.append h.valid (Valid.cons (valid_sign _) Valid.nil))
  starts := rfl
  loose_lt := Nat.succ_pos _
  reads := by
    intro σ n rest hloops _ hlen
    simp only [List.length_cons, List.length_append, List.length_nil] at hlen
    simp only [List.cons_append, List.append_assoc, List.nil_append]
    have hread : Reads σ (upTo n).blockStatement
        (sign .lbrace :: (ws ++ sign .rbrace :: rest)) rest (Node.Alike · (.block span ts)) := by
      refine reads_bind reads_currentSpan fun start _ => ?_
      refine reads_bind (reads_expect rfl) fun _ _ => ?_
      have hstatements : Reads σ (upTo n).blockStatements (ws ++ sign .rbrace :: rest) rest
          (Node.AlikeAll · ts) :=
        sequence_block.reads h hloops n (by simp only [List.length_cons]; omega)
      refine reads_bind (reads_inScope false hstatements) fun ts' hts => ?_
      exact reads_bind (reads_spanFrom start) fun _ _ =>
        reads_pure (congrArg (Node.block .none) hts)
    refine reads_bind reads_currentKind fun kind hkind => ?_
    obtain rfl : kind = .symbol .lbrace := hkind
    exact reads_map hread fun _ hnode => hnode.some

/-- A statement that starts with a brace is a block where a block is asked for. -/
theorem Recites.reads_block {t : Node} (h : Recites inLoop 0 ws t)
    (hbrace : headKind ws = .symbol .lbrace) (hloops : inLoop = true → 0 < σ.loops)
    (hhangs : t.hangs = false) (hlen : ws.length + rest.length ≤ n) :
    Reads σ (upTo n).block (ws ++ rest) rest (Node.Alike · t) := by
  have hpos := h.loose_lt
  obtain ⟨n, rfl⟩ : ∃ j, n = j + 1 := ⟨n - 1, by omega⟩
  intro p hp
  obtain ⟨found, p', hread, hp', hfound⟩ :=
    h.reads hloops (fun hhang => Bool.noConfusion (hhangs ▸ hhang)) hlen p hp
  have hkind : p.cursor.currentKind = .symbol .lbrace := by
    rw [current_kind hp.words]
    cases ws with
    | nil => cases hbrace
    | cons w ws => exact hbrace
  have hmap : (some <$> (upTo n).blockStatement) σ.dialect p = .ok (found, p') := by
    unfold statement at hread
    rw [Parse.currentKind_bind, hkind] at hread
    exact hread
  rw [map_eq_pure_bind, Parse.bind_eq_ok] at hmap
  obtain ⟨⟨node, p''⟩, hblock, hpure⟩ := hmap
  obtain ⟨rfl, rfl⟩ := Prod.mk.inj (Except.ok.inj hpure)
  exact ⟨node, p'', hblock, hp', Option.some.inj hfound⟩

end Sequences

end ScriptEngine.Grammar

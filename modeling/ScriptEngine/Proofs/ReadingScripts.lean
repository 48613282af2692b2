import ScriptEngine.Proofs.ReadingSequences
import ScriptEngine.Proofs.Scanning

/-!
# Reading scripts

A script is written as its directives and then its statements.  A directive leaves no node; it
adds to what the state of reading keeps, so that the frame after it is another one.

* `ReadsWith` — a step passes some words and some directives;
* `SpellsPragma` — words that spell a directive;
* `reads_statements` — directives and statements up to the end of the input;
* `Node.ofScript_of_recites` — a token list that is a script is read as that script.
-/

namespace ScriptEngine

open Word

/-! ## Names -/

/-- A word in ASCII letters and digits, reserved or not, that is no number. -/
def IsWordName (name : String) : Prop :=
  NameChars name.toList ∧ Grammar.isWord name = true

theorem isWordName_pragma : IsWordName "pragma" :=
  ⟨⟨'p', ['r', 'a', 'g', 'm', 'a'], rfl, rfl, List.all_eq_true.mp rfl⟩, by decide⟩

/-- The word that characters of a name are read as. -/
def Word.named (name : String) : Word := ⟨nameKind name, name⟩

theorem Word.valid_named (name : String) : (named name).Valid := by
  intro reason hkind
  have hkind' : nameKind name = .error reason := hkind
  unfold nameKind at hkind'
  split at hkind' <;> cases hkind'

/-- A word name is taken where a word is asked for. -/
theorem IsWordName.name? {name : String} (h : IsWordName name) :
    (named name).name? = some name := by
  have hword : (if Grammar.isWord name = true then some name else none) = some name :=
    if_pos h.2
  unfold Word.name? named nameKind
  split <;> exact hword

/-! ## Directives -/

/-- The frame after some directives. -/
def Frame.after (σ : Frame) (more : List Pragma) : Frame :=
  { σ with pragmas := σ.pragmas ++ more }

/-- **A step passes words and directives.** -/
def ReadsWith {α : Type} (σ : Frame) (more : List Pragma) (step : Parse α)
    (ws rest : List Word) (holds : α → Prop) : Prop :=
  ∀ p : Progress, p.At σ ws →
    ∃ a p', step σ.dialect p = .ok (a, p') ∧ p'.At (σ.after more) rest ∧ holds a

section Steps

variable {α β : Type} {σ : Frame} {more more' : List Pragma} {ws us rest : List Word}
variable {holds : α → Prop} {holds' : β → Prop} {step : Parse α}

theorem Frame.after_nil (σ : Frame) : σ.after [] = σ := by
  unfold after
  rw [List.append_nil]

theorem Frame.after_after (σ : Frame) (more more' : List Pragma) :
    (σ.after more).after more' = σ.after (more ++ more') := by
  unfold after
  rw [List.append_assoc]

theorem Reads.readsWith (h : Reads σ step ws rest holds) : ReadsWith σ [] step ws rest holds := by
  unfold ReadsWith
  rw [σ.after_nil]
  exact h

/-- One step after another passes the words and the directives of both. -/
theorem readsWith_bind {next : α → Parse β} (h : ReadsWith σ more step ws us holds)
    (hnext : ∀ a, holds a → ReadsWith (σ.after more) more' (next a) us rest holds') :
    ReadsWith σ (more ++ more') (step >>= next) ws rest holds' := by
  intro p hp
  obtain ⟨a, p', hstep, hp', ha⟩ := h p hp
  obtain ⟨b, p'', hstep', hp'', hb⟩ := hnext a ha p' hp'
  refine ⟨b, p'', ?_, σ.after_after more more' ▸ hp'', hb⟩
  show (step σ.dialect p >>= fun r => next r.1 σ.dialect r.2) = _
  rw [hstep]
  exact hstep'

/-- A step that passes words only, and then one that passes directives. -/
theorem Reads.bind_readsWith {next : α → Parse β} (h : Reads σ step ws us holds)
    (hnext : ∀ a, holds a → ReadsWith σ more (next a) us rest holds') :
    ReadsWith σ more (step >>= next) ws rest holds' := by
  have hboth : ReadsWith σ ([] ++ more) (step >>= next) ws rest holds' :=
    readsWith_bind h.readsWith fun a ha => σ.after_nil.symm ▸ hnext a ha
  exact hboth

/-- A step that passes directives, and then one that passes words only. -/
theorem ReadsWith.bind_reads {next : α → Parse β} (h : ReadsWith σ more step ws us holds)
    (hnext : ∀ a, holds a → Reads (σ.after more) (next a) us rest holds') :
    ReadsWith σ more (step >>= next) ws rest holds' := by
  have hboth : ReadsWith σ (more ++ []) (step >>= next) ws rest holds' :=
    readsWith_bind h fun a ha => (hnext a ha).readsWith
  rwa [List.append_nil] at hboth

end Steps

/-- A name in several parts, with points between them. -/
def dottedName (part : String) (parts : List String) : String :=
  parts.foldl (fun name part => name ++ "." ++ part) part

/-- The words of more parts of a name, each after a point. -/
def pointWords (parts : List String) : List Word :=
  parts.flatMap fun part => [sign .dot, named part]

/-- The words of a literal; a number below zero is written with a sign. -/
def Literal.words : Literal → List Word
  | nil => [reserved .kwNull]
  | bool value => [reserved (if value then .kwTrue else .kwFalse)]
  | number q =>
    if q < 0 then [sign .minus, ⟨.number (-q), (-q).render⟩] else [⟨.number q, q.render⟩]
  | text value => [⟨.text value, Quoted.source value⟩]

/-- Words that spell a directive. -/
inductive SpellsPragma : List Word → Pragma → Prop
  | intro {part : String} {parts : List String} {value : Literal} :
      (∀ name ∈ part :: parts, IsWordName name) →
      SpellsPragma
        (sign .hash :: named "pragma" :: named part :: (pointWords parts ++ value.words))
        ⟨dottedName part parts, value⟩

/-- Words that spell directives, one after the other. -/
inductive SpellsPragmas : List Word → List Pragma → Prop
  | nil : SpellsPragmas [] []
  | cons {ws us : List Word} {p : Pragma} {ps : List Pragma} :
      SpellsPragma ws p → SpellsPragmas us ps → SpellsPragmas (ws ++ us) (p :: ps)

theorem Literal.valid_words (value : Literal) : ∀ w ∈ value.words, w.Valid := by
  cases value with
  | nil => exact Valid.cons (valid_reserved _) Valid.nil
  | bool value => exact Valid.cons (valid_reserved _) Valid.nil
  | number q =>
      by_cases hq : q < 0
      · simp only [words, if_pos hq]
        exact Valid.cons (valid_sign _) (Valid.cons nofun Valid.nil)
      · simp only [words, if_neg hq]
        exact Valid.cons nofun Valid.nil
  | text value => exact Valid.cons nofun Valid.nil

/-- No value of a directive starts with a point. -/
theorem Literal.headKind_words_ne (value : Literal) (rest : List Word) :
    headKind (value.words ++ rest) ≠ .symbol .dot := by
  cases value with
  | nil => nofun
  | bool value => nofun
  | number q =>
      by_cases hq : q < 0
      · simp only [words, if_pos hq]
        nofun
      · simp only [words, if_neg hq]
        nofun
  | text value => nofun

theorem length_le_pointWords (parts : List String) : parts.length ≤ (pointWords parts).length := by
  induction parts with
  | nil => exact Nat.le_refl 0
  | cons part parts ih =>
      simp only [pointWords, List.flatMap_cons, List.length_append, List.length_cons] at ih ⊢
      omega

theorem valid_pointWords (parts : List String) : ∀ w ∈ pointWords parts, w.Valid := by
  intro w hw
  obtain ⟨part, -, hw⟩ := List.mem_flatMap.mp hw
  exact Valid.cons (valid_sign _) (Valid.cons (valid_named part) Valid.nil) w hw

theorem SpellsPragmas.valid {ws : List Word} {ps : List Pragma} (h : SpellsPragmas ws ps) :
    ∀ w ∈ ws, w.Valid := by
  induction h with
  | nil => exact Valid.nil
  | cons h _ ih =>
      cases h with
      | @intro part parts value _ =>
          have hvalue := Valid.append (valid_pointWords parts) value.valid_words
          exact Valid.append (Valid.cons (valid_sign _) (Valid.cons (valid_named _)
            (Valid.cons (valid_named part) hvalue))) ih

namespace Grammar

variable {n : Nat} {σ : Frame} {ws us rest : List Word}

/-- More parts of a name, up to what is no point. -/
theorem reads_dottedTail {parts : List String} (hparts : ∀ part ∈ parts, IsWordName part)
    (hrest : headKind rest ≠ .symbol .dot) (hlen : parts.length ≤ n) (name : String) :
    Reads σ ((upTo n).dottedTail name) (pointWords parts ++ rest) rest
      (· = ScriptEngine.dottedName name parts) := by
  induction parts generalizing n name with
  | nil =>
      refine reads_bind (reads_eat_not hrest) fun yes hyes => ?_
      subst hyes
      exact reads_pure rfl
  | cons part parts ih =>
      obtain ⟨hpart, hmore⟩ := List.forall_mem_cons.mp hparts
      rw [List.length_cons] at hlen
      obtain ⟨n, rfl⟩ : ∃ j, n = j + 1 := ⟨n - 1, by omega⟩
      refine reads_bind (reads_eat rfl) fun yes hyes => ?_
      subst hyes
      refine reads_bind (reads_word hpart.name?) fun found hfound => ?_
      obtain ⟨found, place⟩ := found
      obtain rfl : found = part := hfound
      exact ih hmore (by omega) _

/-- The value of a directive. -/
theorem reads_pragmaValue (value : Literal) :
    Reads σ (upTo n).pragmaValue (value.words ++ rest) rest (· = value) := by
  refine reads_bind reads_currentKind fun kind hkind => ?_
  cases value with
  | nil =>
      obtain rfl : kind = .keyword .kwNull := hkind
      exact reads_bind reads_advance fun _ _ => reads_pure rfl
  | bool value =>
      cases value with
      | true =>
          obtain rfl : kind = .keyword .kwTrue := hkind
          exact reads_bind reads_advance fun _ _ => reads_pure rfl
      | false =>
          obtain rfl : kind = .keyword .kwFalse := hkind
          exact reads_bind reads_advance fun _ _ => reads_pure rfl
  | number q =>
      by_cases hq : q < 0
      · simp only [Literal.words, if_pos hq] at hkind ⊢
        obtain rfl : kind = .symbol .minus := hkind
        refine reads_bind reads_advance fun _ _ => ?_
        refine reads_bind reads_currentKind fun kind' hkind' => ?_
        obtain rfl : kind' = .number (-q) := hkind'
        have hvalue : Literal.number (-(-q)) = .number q := congrArg Literal.number (Rat.neg_neg q)
        exact reads_bind reads_advance fun _ _ => reads_pure hvalue
      · simp only [Literal.words, if_neg hq] at hkind ⊢
        obtain rfl : kind = .number q := hkind
        exact reads_bind reads_advance fun _ _ => reads_pure rfl
  | text value =>
      obtain rfl : kind = .text value := hkind
      exact reads_bind reads_advance fun _ _ => reads_pure rfl

/-- **A directive is read**, where no semicolon comes after it. -/
theorem reads_pragmaDirective {p : Pragma} (h : SpellsPragma ws p)
    (hrest : headKind rest ≠ .symbol .semicolon) (hlen : ws.length ≤ n) :
    ReadsWith σ [p] (upTo n).pragmaDirective (ws ++ rest) rest (fun _ => True) := by
  cases h with
  | @intro part parts value hparts =>
      obtain ⟨hpart, hmore⟩ := List.forall_mem_cons.mp hparts
      have hvalue := value.headKind_words_ne rest
      have hlength := length_le_pointWords parts
      simp only [List.length_cons, List.length_append] at hlen
      have hkey : Reads σ (upTo n).dottedName
          (named part :: (pointWords parts ++ (value.words ++ rest))) (value.words ++ rest)
          (· = ScriptEngine.dottedName part parts) := by
        refine reads_bind (reads_word hpart.name?) fun found hfound => ?_
        obtain ⟨found, place⟩ := found
        obtain rfl : found = part := hfound
        exact reads_dottedTail hmore hvalue (by omega) _
      simp only [List.cons_append, List.append_assoc]
      refine reads_currentSpan.bind_readsWith fun start _ => ?_
      refine (reads_require rfl start).bind_readsWith fun _ _ => ?_
      refine reads_advance.bind_readsWith fun _ _ => ?_
      refine (reads_word isWordName_pragma.name?).bind_readsWith fun found hfound => ?_
      obtain ⟨found, place⟩ := found
      obtain rfl : found = "pragma" := hfound
      refine hkey.bind_readsWith fun key hkey => ?_
      refine (reads_pragmaValue value).bind_readsWith fun value' hvalue' => ?_
      subst hkey hvalue'
      have hend : Reads σ endSimple rest rest (fun _ => True) :=
        reads_bind (reads_eat_not hrest) fun _ _ => reads_pure trivial
      refine hend.bind_readsWith fun _ _ p hp => ?_
      exact ⟨(), _, rfl, ⟨hp.words, hp.loops, congrArg (· ++ _) hp.pragmas⟩, trivial⟩

/-! ## Scripts -/

/-- No semicolon comes where a directive, a statement or the end of the input does. -/
theorem headKind_ne_semicolon {ps : List Pragma} {ts : List Node} (h : SpellsPragmas us ps)
    (hbody : RecitesAll false ws ts) :
    headKind (us ++ (ws ++ [final])) ≠ .symbol .semicolon := by
  cases h with
  | cons h =>
      cases h
      nofun
  | nil =>
      cases hbody with
      | nil => nofun
      | cons h _ =>
          rw [List.append_assoc]
          exact headKind_ne_of_starts h.starts _ rfl _

/-- **Directives and statements are read** up to the end of the input. -/
theorem reads_statements {ps : List Pragma} {ts : List Node} {ds : List Word}
    (h : SpellsPragmas ds ps) (hbody : RecitesAll false ws ts) {m : Nat}
    (hlen : ds.length + ws.length + 1 ≤ m) :
    ReadsWith σ ps (upTo m).statements (ds ++ (ws ++ [final])) [final] (Node.AlikeAll · ts) := by
  induction h generalizing σ m with
  | nil =>
      have hread : Reads σ (upTo m).statements (ws ++ [final]) [final] (Node.AlikeAll · ts) :=
        sequence_script.reads hbody Bool.noConfusion m (by simpa using hlen)
      exact hread.readsWith
  | @cons ds us p ps hp hps ih =>
      have hpos : 0 < ds.length := by
        cases hp
        exact Nat.succ_pos _
      simp only [List.length_append] at hlen
      obtain ⟨m, rfl⟩ : ∃ j, m = j + 1 := ⟨m - 1, by omega⟩
      have hdirective : ReadsWith σ [p] (upTo m).statement (ds ++ (us ++ (ws ++ [final])))
          (us ++ (ws ++ [final])) (Node.AlikeOption · none) := by
        have hread := reads_pragmaDirective (σ := σ) hp (headKind_ne_semicolon hps hbody)
          (by omega : ds.length ≤ m)
        refine reads_currentKind.bind_readsWith fun kind hkind => ?_
        cases hp
        obtain rfl : kind = .symbol .hash := hkind
        exact hread.bind_reads fun _ _ => reads_pure rfl
      have hends : headKind (ds ++ (us ++ (ws ++ [final]))) ≠ .eof := by
        cases hp
        nofun
      rw [List.append_assoc]
      refine reads_cursor.bind_readsWith fun c hc => ?_
      rw [show c.isAtEnd = false from decide_eq_false (current_kind hc ▸ hends)]
      show ReadsWith σ ([p] ++ ps) _ _ _ _
      refine readsWith_bind hdirective fun found hfound => ?_
      refine (ih (by omega)).bind_reads fun others hothers => reads_pure ?_
      exact alikeAll_toList_append hfound hothers

/-- **A whole script is read.** -/
theorem reads_wholeScript {ps : List Pragma} {ts : List Node} {ds : List Word} {span : Span}
    (h : SpellsPragmas ds ps) (hbody : RecitesAll false ws ts)
    (hlen : ds.length + ws.length + 1 ≤ n) (params : List String) :
    ReadsWith σ ps (wholeScript n params) (ds ++ (ws ++ [final])) [final]
      (Node.Alike · (.script span ts (σ.pragmas ++ ps))) := by
  refine reads_currentSpan.bind_readsWith fun start _ => ?_
  refine (reads_declareAll start params).bind_readsWith fun _ _ => ?_
  have hfeatures {us : List Word} :
      Reads σ (read : Parse Dialect) us us (fun d => d.features = .standard) :=
    fun p hp => ⟨σ.dialect, p, rfl, hp, σ.features_eq⟩
  have hscript : ReadsWith σ ps (scriptBody n) (ds ++ (ws ++ [final])) [final]
      (Node.AlikeAll · ts) := by
    refine hfeatures.bind_readsWith fun d hd => ?_
    rw [hd]
    exact reads_statements h hbody hlen
  refine hscript.bind_reads fun body hsame => ?_
  have hfinish (place : Span) : Reads (σ.after ps) (do
      return Node.script place body (← get).pragmas) [final] [final]
      (Node.Alike · (.script span ts (σ.pragmas ++ ps))) := by
    intro p hp
    refine ⟨_, p, rfl, hp, ?_⟩
    show Node.script .none (Node.eraseAll body) p.pragmas = _
    rw [show p.pragmas = σ.pragmas ++ ps from hp.pragmas, hsame]
    rfl
  split
  · exact hfinish start
  · exact reads_bind (reads_spanFrom start) fun place _ => hfinish place

end Grammar

/-- **A token list that is a script is read as that script**, up to places, whatever the names
of its parameters. -/
theorem Node.ofScript_of_recites {tokens : List Token} {ds ws : List Word} {ps : List Pragma}
    {ts : List Node} (hpragmas : SpellsPragmas ds ps) (hbody : Grammar.RecitesAll false ws ts)
    (hwords : tokens.map Token.word = ds ++ (ws ++ [final])) (span : Span) (unit : Nat)
    (params : List String) :
    ∃ read, Node.ofScript ⟨.standard, unit⟩ params tokens = .ok read ∧
      read.Alike (.script span ts ps) := by
  let σ : Frame := ⟨⟨.standard, unit⟩, 0, [], rfl⟩
  have hlength : ds.length + ws.length + 1 = tokens.length := by
    have hlength := congrArg List.length hwords
    simp only [List.length_map, List.length_append, List.length_singleton] at hlength
    omega
  have hvalid : ∀ w ∈ tokens.map Token.word, w.Valid := by
    rw [hwords]
    exact Valid.append hpragmas.valid (Valid.append hbody.valid (Valid.cons nofun Valid.nil))
  obtain ⟨read, p, hrun, -, hread⟩ :=
    Grammar.reads_wholeScript (σ := σ) hpragmas hbody (n := tokens.length + 2) (by omega) params
      (Parse.start tokens) ⟨hwords, rfl, rfl⟩
  refine ⟨read, ?_, hread⟩
  unfold ofScript ofTokens
  rw [Grammar.firstError_eq_none hvalid]
  show (Grammar.wholeScript (tokens.length + 2) params σ.dialect (Parse.start tokens)).map (·.1) = _
  rw [hrun]
  rfl

end ScriptEngine

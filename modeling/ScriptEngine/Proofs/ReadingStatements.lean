import ScriptEngine.Proofs.ReadingExpressions

/-!
# Reading statements

What the productions of statements do to the words in front of them.  A statement that is
written may be followed by more semicolons than it takes: an `if`, a loop or an annotation
ends with the statement in it, and the semicolon behind that is another one.  Each such
semicolon is an empty statement where statements follow one another, but not before `else`
or `while`.

* `reads_inLoop`, `reads_inFunction`, … — the steps that only statements take;
* `Recites` — words that are read as a statement, up to the semicolons left over;
* `recites_expression`, `recites_var`, `recites_ifElse`, … — simple statements, branches and
  annotations.
-/

namespace ScriptEngine

open Word

/-- The frame inside one more loop. -/
def Frame.looping (σ : Frame) : Frame := { σ with loops := σ.loops + 1 }

/-- The frame inside a function: no loop outside of it is in reach. -/
def Frame.enclosed (σ : Frame) : Frame := { σ with loops := 0 }

section Steps

variable {α β : Type} {σ : Frame} {ws us rest : List Word} {w : Word}
variable {step : Parse α} {holds : α → Prop}

/-- The result of a step, changed by a function. -/
theorem reads_map {f : α → β} {holds' : β → Prop} (h : Reads σ step ws rest holds)
    (hf : ∀ a, holds a → holds' (f a)) : Reads σ (f <$> step) ws rest holds' := by
  rw [map_eq_pure_bind]
  exact reads_bind h fun a ha => reads_pure (hf a ha)

/-- Scopes make no difference to what is read in them. -/
theorem reads_inScope (isFunction : Bool) (h : Reads σ step ws rest holds) :
    Reads σ (Parse.inScope isFunction step) ws rest holds := by
  intro p hp
  obtain ⟨a, p', hstep, hp', ha⟩ := h { p with scopes := ⟨[], isFunction⟩ :: p.scopes }
    ⟨hp.words, hp.loops, hp.pragmas⟩
  refine ⟨a, { p' with scopes := p'.scopes.tail }, ?_, ⟨hp'.words, hp'.loops, hp'.pragmas⟩, ha⟩
  show (step σ.dialect _ >>= fun r => .ok (r.1, { r.2 with scopes := r.2.scopes.tail })) = _
  rw [hstep]
  rfl

theorem reads_inLoop (h : Reads σ.looping step ws rest holds) :
    Reads σ (Parse.inLoop step) ws rest holds := by
  intro p hp
  obtain ⟨a, p', hstep, hp', ha⟩ := h { p with loopDepth := p.loopDepth + 1 }
    ⟨hp.words, congrArg (· + 1) hp.loops, hp.pragmas⟩
  refine ⟨a, { p' with loopDepth := p'.loopDepth - 1 }, ?_,
    ⟨hp'.words, congrArg (· - 1) hp'.loops, hp'.pragmas⟩, ha⟩
  show (step σ.looping.dialect _ >>= fun r =>
    .ok (r.1, { r.2 with loopDepth := r.2.loopDepth - 1 })) = _
  rw [hstep]
  rfl

theorem reads_inFunction (h : Reads σ.enclosed step ws rest holds) :
    Reads σ (Parse.inFunction step) ws rest holds := by
  intro p hp
  obtain ⟨a, p', hstep, hp', ha⟩ := reads_inScope true h { p with loopDepth := 0 }
    ⟨hp.words, rfl, hp.pragmas⟩
  refine ⟨a, { p' with loopDepth := p.loopDepth }, ?_, ⟨hp'.words, hp.loops, hp'.pragmas⟩, ha⟩
  show (Parse.inScope true step σ.enclosed.dialect _ >>= fun r =>
    .ok (r.1, { r.2 with loopDepth := p.loopDepth })) = _
  rw [hstep]
  rfl

/-- The standard features refuse no declaration. -/
theorem reads_declare (name : String) (span : Span) :
    Reads σ (Parse.declare name span) ws ws (fun _ => True) := by
  intro p hp
  have hfault : Parse.declarationFault? σ.dialect.features name p.scopes = none := by
    rw [σ.features_eq]
    cases p.scopes <;> rfl
  have hget (next : Progress → Parse Unit) : (get >>= next) σ.dialect p = next p σ.dialect p := rfl
  have hread (next : Dialect → Parse Unit) :
      (read >>= next) σ.dialect p = next σ.dialect σ.dialect p := rfl
  refine ⟨(), { p with scopes := Parse.declared name p.scopes }, ?_,
    ⟨hp.words, hp.loops, hp.pragmas⟩, trivial⟩
  rw [Parse.declare, hget, hread, hfault]
  rfl

theorem reads_declareAll (span : Span) (names : List String) :
    Reads σ (Parse.declareAll span names) ws ws (fun _ => True) := by
  induction names with
  | nil => exact reads_pure trivial
  | cons name names ih => exact reads_bind (reads_declare name span) fun _ _ => ih

/-- An identifier is passed. -/
theorem reads_expectIdent {name : String} (h : w.kind = .ident name) :
    Reads σ Parse.expectIdent (w :: rest) rest (fun found => found.1 = name) := by
  refine reads_bind reads_currentKind fun kind hkind => ?_
  obtain rfl : kind = .ident name := hkind.trans h
  exact reads_bind reads_advance fun _ _ => reads_pure rfl

/-- The word that a word is, reserved or not. -/
def Word.name? (w : Word) : Option String := Grammar.word? ⟨w.kind, .none, w.literal⟩

/-- A word is passed. -/
theorem reads_word {name : String} (h : w.name? = some name) :
    Reads σ Grammar.word (w :: rest) rest (fun found => found.1 = name) := by
  refine reads_bind reads_cursor fun c hc => ?_
  have hname : Grammar.word? c.current = some name := by
    have hword : c.current.word = w := current_word hc
    rw [← h, ← hword]
    rfl
  dsimp only
  rw [hname]
  exact reads_bind reads_advance fun _ _ => reads_pure rfl

end Steps

/-! ## Statements -/

theorem Word.valid_reserved (k : Keyword) : (reserved k).Valid := nofun

theorem Word.valid_ident (name literal : String) : Word.Valid ⟨.ident name, literal⟩ := by
  intro reason hkind
  cases hkind

/-- Words that spell a part that may be left out; `lead` stands before it if it is there. -/
inductive SpellsOption (L : List Word → Node → Prop) (lead : List Word) :
    List Word → Option Node → Prop
  | none : SpellsOption L lead [] none
  | some {ws : List Word} {t : Node} : Spells L Binding.assignment ws t →
      SpellsOption L lead (lead ++ ws) (some t)

/-- Words that spell what a counting loop starts with. -/
inductive SpellsStart (L : List Word → Node → Prop) : List Word → Option Node → Prop
  | none : SpellsStart L [] none
  | expression {ws : List Word} {t : Node} : Spells L Binding.assignment ws t →
      SpellsStart L ws (some t)
  | var {ws : List Word} {span : Span} {name literal : String} {init : Option Node} :
      SpellsOption L [sign .assign] ws init →
      SpellsStart L (reserved .kwVar :: ⟨.ident name, literal⟩ :: ws) (some (.var span name init))

/-- Words that spell the arguments of an annotation; without arguments there are none. -/
inductive SpellsArguments (L : List Word → Node → Prop) : List Word → List Node → Prop
  | nil : SpellsArguments L [] []
  | cons {ws : List Word} {t : Node} {ts : List Node} : SpellsAll L ws (t :: ts) →
      SpellsArguments L (sign .lparen :: ws ++ [sign .rparen]) (t :: ts)

section Valid

variable {L : List Word → Node → Prop} {lead ws : List Word} {init : Option Node}
variable {args : List Node}

theorem SpellsOption.valid (hL : ∀ ws t, L ws t → ∀ w ∈ ws, w.Valid)
    (hlead : ∀ w ∈ lead, w.Valid) (h : SpellsOption L lead ws init) : ∀ w ∈ ws, w.Valid := by
  cases h with
  | none => exact Valid.nil
  | some h => exact Valid.append hlead (h.valid hL)

theorem SpellsStart.valid (hL : ∀ ws t, L ws t → ∀ w ∈ ws, w.Valid) (h : SpellsStart L ws init) :
    ∀ w ∈ ws, w.Valid := by
  cases h with
  | none => exact Valid.nil
  | expression h => exact h.valid hL
  | var h =>
      have hinit := h.valid hL (Valid.cons (valid_sign _) Valid.nil)
      exact Valid.cons (valid_reserved _) (Valid.cons (valid_ident _ _) hinit)

theorem SpellsArguments.valid (hL : ∀ ws t, L ws t → ∀ w ∈ ws, w.Valid)
    (h : SpellsArguments L ws args) : ∀ w ∈ ws, w.Valid := by
  cases h with
  | nil => exact Valid.nil
  | cons h =>
      exact Valid.cons (valid_sign _)
        (Valid.append (h.valid hL) (Valid.cons (valid_sign _) Valid.nil))

end Valid

/-- Whether a word of this kind starts a statement that is written. -/
def TokenKind.startsStatement : TokenKind → Bool
  | .keyword word =>
    TokenKind.startsExpression (.keyword word) ||
      word ∈ [.kwIf, .kwFor, .kwWhile, .kwDo, .kwBreak, .kwContinue, .kwReturn, .kwVar]
  | .symbol sign => TokenKind.startsExpression (.symbol sign) || sign = .atSign
  | kind => kind.startsExpression

/-- What opens an expression starts a statement. -/
theorem Word.Opens.startsStatement {level : Nat} {ws : List Word} (h : Opens level ws) :
    (headKind ws).startsStatement = true := by
  cases ws with
  | nil => exact h.elim
  | cons w ws =>
      have hstarts := h.1
      show w.kind.startsStatement = true
      cases hkind : w.kind <;> simp_all [TokenKind.startsStatement]

/-- Whether a statement ends with an `if` that has no `else` and would take one that follows. -/
def Node.hangs : Node → Bool
  | .ifElse _ _ _ none => true
  | .ifElse _ _ _ (some statement) | .forLoop _ _ _ _ statement | .foreach _ _ _ _ statement
  | .whileLoop _ _ statement | .annotated _ _ _ statement => statement.hangs
  | _ => false

/-- What is no statement leaves no `if` open. -/
theorem Node.hangs_of_isStatement {t : Node} (h : t.isStatement = false) : t.hangs = false := by
  cases t <;> first | rfl | cases h

/-- Neither does a block. -/
theorem Node.hangs_of_isBlock {t : Node} (h : t.isBlock = true) : t.hangs = false := by
  cases t <;> first | rfl | cases h

/-- Words that give no `if` before them a branch: neither `else` comes first, nor after one
semicolon. -/
def NoElse (ws : List Word) : Prop :=
  headKind ws ≠ .keyword .kwElse ∧
    (headKind ws = .symbol .semicolon → headKind ws.tail ≠ .keyword .kwElse)

namespace Grammar

/-- **Words that are a statement.**  They are read as it, where a loop is open if it stands
in one, up to so many semicolons at the end that are left over. -/
structure Recites (inLoop : Bool) (loose : Nat) (ws : List Word) (t : Node) : Prop where
  valid : ∀ w ∈ ws, w.Valid
  starts : (headKind ws).startsStatement = true
  loose_lt : loose < ws.length
  reads : ∀ {σ : Frame} {n : Nat} {rest : List Word}, (inLoop = true → 0 < σ.loops) →
    (t.hangs = true → NoElse rest) → ws.length + rest.length ≤ n + 1 →
    Reads σ (upTo n).statement (ws ++ rest) (List.replicate loose (sign .semicolon) ++ rest)
      (Node.AlikeOption · (some t))

section Forms

variable {L : List Word → Node → Prop} {inLoop : Bool} {loose n : Nat} {σ : Frame}
variable {cs ws us rest : List Word} {t cond body : Node} {span : Span}

/-- A statement does not start with what starts none. -/
theorem headKind_ne_of_starts (h : (headKind ws).startsStatement = true) (kind : TokenKind)
    (hkind : kind.startsStatement = false) (us : List Word) : headKind (ws ++ us) ≠ kind := by
  intro heq
  cases ws with
  | nil => cases h
  | cons w ws =>
      have hw : w.kind = kind := heq
      rw [← hw] at hkind
      exact Bool.noConfusion (hkind.symm.trans h)

/-- Where no `else` comes, none comes after more semicolons. -/
theorem noElse_replicate (h : NoElse rest) (loose : Nat) :
    NoElse (List.replicate loose (sign .semicolon) ++ rest) := by
  match loose with
  | 0 => exact h
  | 1 => exact ⟨nofun, fun _ => h.1⟩
  | loose + 2 => exact ⟨nofun, fun _ => nofun⟩

/-! ## Statements as parts -/

/-- One more semicolon is one more that is left over. -/
theorem Recites.semicolon (h : Recites inLoop loose ws t) :
    Recites inLoop (loose + 1) (ws ++ [sign .semicolon]) t where
  valid := Valid.append h.valid (Valid.cons (valid_sign _) Valid.nil)
  starts := by
    cases ws with
    | nil => exact h.starts
    | cons w ws => exact h.starts
  loose_lt := by
    have := h.loose_lt
    simp only [List.length_append, List.length_singleton]
    omega
  reads := by
    intro σ n rest hloops hhangs hlen
    simp only [List.length_append, List.length_singleton] at hlen
    have hread : Reads σ (upTo n).statement (ws ++ sign .semicolon :: rest)
        (List.replicate loose (sign .semicolon) ++ sign .semicolon :: rest)
        (Node.AlikeOption · (some t)) :=
      h.reads hloops (fun hends => ⟨nofun, fun _ => (hhangs hends).1⟩)
        (by simp only [List.length_cons]; omega)
    rw [List.append_assoc, List.replicate_succ', List.append_assoc]
    exact hread

/-- The body of a branch or a loop. -/
theorem Recites.reads_body (h : Recites inLoop loose ws t) (hloops : inLoop = true → 0 < σ.loops)
    (hhangs : t.hangs = true → NoElse rest) (hlen : ws.length + rest.length ≤ n) :
    Reads σ (upTo n).body (ws ++ rest) (List.replicate loose (sign .semicolon) ++ rest)
      (Node.Alike · t) := by
  have hpos := h.loose_lt
  obtain ⟨n, rfl⟩ : ∃ j, n = j + 1 := ⟨n - 1, by omega⟩
  show Reads σ (upTo n).bodyStatement _ _ _
  refine reads_bind reads_currentSpan fun place _ => ?_
  refine reads_bind (reads_eat_not (headKind_ne_of_starts h.starts _ rfl rest)) fun yes hyes => ?_
  subst hyes
  refine reads_bind (h.reads hloops hhangs hlen) fun found hfound => ?_
  obtain ⟨node, rfl, hnode⟩ := hfound.of_some
  exact reads_pure hnode

/-- A condition in parentheses. -/
theorem reads_condition (hL : Lambdas L) (h : Spells L Binding.assignment cs cond)
    (hlen : cs.length + 1 + rest.length ≤ n) :
    Reads σ (upTo n).condition (sign .lparen :: (cs ++ sign .rparen :: rest)) rest
      (Node.Alike · cond) := by
  unfold condition
  refine reads_bind (reads_expect rfl) fun _ _ => ?_
  refine reads_bind ((complete hL n).expr h ⟨rfl, by decide⟩
    (by simp only [List.length_cons]; omega)) fun found hfound => ?_
  exact reads_bind (reads_expect rfl) fun _ _ => reads_pure hfound

/-- The semicolon that ends a simple statement. -/
theorem reads_endSimple : Reads σ endSimple (sign .semicolon :: rest) rest (fun _ => True) :=
  reads_bind (reads_eat rfl) fun _ _ => reads_pure trivial

/-! ## Simple statements -/

/-- **An expression is a statement**, unless it starts with a brace. -/
theorem recites_expression (hL : Lambdas L) (h : Spells L Binding.assignment ws t)
    (hbrace : headKind ws ≠ .symbol .lbrace) :
    Recites inLoop 0 (ws ++ [sign .semicolon]) t := by
  have hne := (h.opens hL.opens).headKind_ne
  have hstarts := (h.opens hL.opens).startsStatement
  refine ⟨Valid.append (h.valid hL.valid) (Valid.cons (valid_sign _) Valid.nil), ?_, by simp, ?_⟩
  · cases ws with
    | nil => exact hstarts
    | cons w ws => exact hstarts
  · intro σ n rest _ _ hlen
    simp only [List.length_append, List.length_singleton] at hlen
    rw [List.append_assoc]
    have hread : Reads σ (do
        let node ← (upTo n).assignmentLevel
        endSimple
        return some node) (ws ++ ([sign .semicolon] ++ rest)) rest
        (Node.AlikeOption · (some t)) := by
      refine reads_bind (reads_assignment hL (fun m _ => complete hL m) h ⟨rfl, by decide⟩
        (by simp only [List.singleton_append, List.length_cons]; omega)) fun node hnode => ?_
      exact reads_bind reads_endSimple fun _ _ => reads_pure hnode.some
    refine reads_bind reads_currentKind fun kind hkind => ?_
    have hbrace' : kind ≠ .symbol .lbrace := by
      rw [hkind]
      cases ws with
      | nil => nofun
      | cons w ws => exact hbrace
    have hne' : ∀ other : TokenKind, other.startsExpression = false → kind ≠ other :=
      fun other hother => hkind ▸ hne other hother _
    split <;> first | exact absurd rfl (hne' _ rfl) | exact absurd rfl hbrace' | exact hread

/-- A step that leaves a loop, where one is open. -/
theorem reads_loopControl {k : Keyword} (hloops : 0 < σ.loops)
    (ht : ∀ place, (if TokenKind.keyword k = .keyword .kwBreak then Node.breakLoop place
      else .continueLoop place).Alike t) :
    Reads σ loopControl (reserved k :: sign .semicolon :: rest) rest (Node.Alike · t) := by
  have hget {ws : List Word} : Reads σ (get : Parse Progress) ws ws (·.loopDepth = σ.loops) :=
    fun p hp => ⟨p, p, rfl, hp, hp.loops⟩
  unfold loopControl
  refine reads_bind reads_advance fun token htoken => ?_
  refine reads_bind hget fun state hstate => ?_
  rw [if_neg (by omega)]
  refine reads_bind reads_endSimple fun _ _ => reads_pure ?_
  rw [show token.kind = .keyword k from congrArg Word.kind htoken]
  exact ht _

theorem recites_breakLoop :
    Recites true 0 [reserved .kwBreak, sign .semicolon] (.breakLoop span) where
  valid := Valid.cons (valid_reserved _) (Valid.cons (valid_sign _) Valid.nil)
  starts := rfl
  loose_lt := Nat.succ_pos _
  reads := by
    intro σ n rest hloops _ _
    have hread : Reads σ loopControl (reserved .kwBreak :: sign .semicolon :: rest) rest
        (Node.Alike · (.breakLoop span)) := reads_loopControl (hloops rfl) fun _ => rfl
    refine reads_bind reads_currentKind fun kind hkind => ?_
    obtain rfl : kind = .keyword .kwBreak := hkind
    exact reads_map hread fun _ hnode => hnode.some

theorem recites_continueLoop :
    Recites true 0 [reserved .kwContinue, sign .semicolon] (.continueLoop span) where
  valid := Valid.cons (valid_reserved _) (Valid.cons (valid_sign _) Valid.nil)
  starts := rfl
  loose_lt := Nat.succ_pos _
  reads := by
    intro σ n rest hloops _ _
    have hread : Reads σ loopControl (reserved .kwContinue :: sign .semicolon :: rest) rest
        (Node.Alike · (.continueLoop span)) := reads_loopControl (hloops rfl) fun _ => rfl
    refine reads_bind reads_currentKind fun kind hkind => ?_
    obtain rfl : kind = .keyword .kwContinue := hkind
    exact reads_map hread fun _ hnode => hnode.some

/-- An expression where it may be left out. -/
theorem reads_someExpression (hL : Lambdas L) (h : Spells L Binding.assignment ws t)
    (hrest : Stops Binding.assignment rest) (hlen : ws.length + rest.length ≤ n) :
    Reads σ (some <$> (upTo n).expr) (ws ++ rest) rest (Node.AlikeOption · (some t)) :=
  reads_map ((complete hL n).expr h hrest hlen) fun _ hnode => hnode.some

/-- The value of a return, in front of its semicolon. -/
theorem reads_returnedValue {value : Option Node} (hL : Lambdas L) (h : SpellsOption L [] ws value)
    (hlen : ws.length + 1 + rest.length ≤ n) :
    Reads σ (upTo n).returnedValue (ws ++ sign .semicolon :: rest) (sign .semicolon :: rest)
      (Node.AlikeOption · value) := by
  refine reads_bind reads_currentKind fun kind hkind => ?_
  cases h with
  | none =>
      obtain rfl : kind = .symbol .semicolon := hkind
      exact reads_pure rfl
  | @some ws t h =>
      have hne : ∀ other : TokenKind, other.startsExpression = false → kind ≠ other :=
        fun other hother => hkind ▸ (h.opens hL.opens).headKind_ne other hother _
      have hvalue : Reads σ (some <$> (upTo n).expr) (ws ++ sign .semicolon :: rest)
          (sign .semicolon :: rest) (Node.AlikeOption · (some t)) :=
        reads_someExpression hL h ⟨rfl, by decide⟩ (by simp at hlen ⊢; omega)
      split <;> first | exact absurd rfl (hne _ rfl) | exact hvalue

theorem recites_returnValue {value : Option Node} (hL : Lambdas L)
    (h : SpellsOption L [] ws value) :
    Recites inLoop 0 (reserved .kwReturn :: (ws ++ [sign .semicolon]))
      (.returnValue span value) where
  valid := Valid.cons (valid_reserved _)
    (Valid.append (h.valid hL.valid Valid.nil) (Valid.cons (valid_sign _) Valid.nil))
  starts := rfl
  loose_lt := Nat.succ_pos _
  reads := by
    intro σ n rest _ _ hlen
    simp only [List.length_cons, List.length_append, List.length_nil] at hlen
    simp only [List.cons_append, List.append_assoc, List.nil_append]
    have hread : Reads σ (upTo n).returnStatement
        (reserved .kwReturn :: (ws ++ sign .semicolon :: rest)) rest
        (Node.Alike · (.returnValue span value)) := by
      refine reads_bind reads_currentSpan fun start _ => ?_
      refine reads_bind reads_advance fun _ _ => ?_
      refine reads_bind (reads_returnedValue hL h (by omega)) fun value' hvalue => ?_
      refine reads_bind reads_endSimple fun _ _ => ?_
      exact reads_bind (reads_spanFrom start) fun _ _ =>
        reads_pure (congrArg (Node.returnValue .none) hvalue)
    refine reads_bind reads_currentKind fun kind hkind => ?_
    obtain rfl : kind = .keyword .kwReturn := hkind
    exact reads_map hread fun _ hnode => hnode.some

/-- A declaration in front of its semicolon. -/
theorem reads_declaration {name literal : String} {init : Option Node} (hL : Lambdas L)
    (place : Span) (h : SpellsOption L [sign .assign] ws init)
    (hlen : ws.length + 1 + rest.length ≤ n) :
    Reads σ (upTo n).declaration
      (reserved .kwVar :: ⟨.ident name, literal⟩ :: (ws ++ sign .semicolon :: rest))
      (sign .semicolon :: rest) (Node.Alike · (.var place name init)) := by
  have hinit : Reads σ (upTo n).initialValue (ws ++ sign .semicolon :: rest)
      (sign .semicolon :: rest) (Node.AlikeOption · init) := by
    cases h with
    | none =>
        refine reads_bind (reads_eat_not nofun) fun yes hyes => ?_
        subst hyes
        exact reads_pure rfl
    | some h =>
        refine reads_bind (reads_eat rfl) fun yes hyes => ?_
        subst hyes
        exact reads_someExpression hL h ⟨rfl, by decide⟩ (by simp at hlen ⊢; omega)
  refine reads_bind reads_currentSpan fun start _ => ?_
  refine reads_bind (reads_require rfl start) fun _ _ => ?_
  refine reads_bind reads_advance fun _ _ => ?_
  refine reads_bind (reads_expectIdent rfl) fun found hfound => ?_
  obtain ⟨found, nameSpan⟩ := found
  obtain rfl : found = name := hfound
  refine reads_bind hinit fun init' hinit' => ?_
  refine reads_bind (reads_declare found nameSpan) fun _ _ => ?_
  exact reads_bind (reads_spanFrom start) fun _ _ =>
    reads_pure (congrArg (Node.var .none found) hinit')

theorem recites_var {name literal : String} {init : Option Node} (hL : Lambdas L)
    (h : SpellsOption L [sign .assign] ws init) :
    Recites inLoop 0 (reserved .kwVar :: ⟨.ident name, literal⟩ :: (ws ++ [sign .semicolon]))
      (.var span name init) where
  valid := Valid.cons (valid_reserved _) (Valid.cons (valid_ident _ _)
    (Valid.append (h.valid hL.valid (Valid.cons (valid_sign _) Valid.nil))
      (Valid.cons (valid_sign _) Valid.nil)))
  starts := rfl
  loose_lt := Nat.succ_pos _
  reads := by
    intro σ n rest _ _ hlen
    simp only [List.length_cons, List.length_append, List.length_nil] at hlen
    simp only [List.cons_append, List.append_assoc, List.nil_append]
    refine reads_bind reads_currentKind fun kind hkind => ?_
    obtain rfl : kind = .keyword .kwVar := hkind
    refine reads_bind (reads_declaration hL span h (by omega)) fun node hnode => ?_
    exact reads_bind reads_endSimple fun _ _ => reads_pure hnode.some

/-! ## Branches -/

/-- No `else` comes: semicolons are left where they are. -/
theorem reads_elseBranch_none (h : NoElse rest) (loose : Nat) :
    Reads σ (upTo n).elseBranch (List.replicate loose (sign .semicolon) ++ rest)
      (List.replicate loose (sign .semicolon) ++ rest) (· = none) := by
  obtain ⟨hnone, hlater⟩ := noElse_replicate h loose
  unfold elseBranch
  refine reads_bind (reads_check _) fun yes hyes => ?_
  refine reads_bind (reads_peek 1) fun second hsecond => ?_
  have hleft : ¬(yes && decide (second = .keyword .kwElse)) = true := by
    intro hboth
    obtain ⟨hfirst, hsecond'⟩ := Bool.and_eq_true_iff.mp hboth
    refine hlater (of_decide_eq_true (hyes ▸ hfirst)) ?_
    rw [← List.drop_one, ← hsecond]
    exact of_decide_eq_true hsecond'
  rw [if_neg hleft]
  refine reads_bind (reads_eat_not hnone) fun yes hyes => ?_
  subst hyes
  exact reads_pure rfl

/-- `else` comes, after one semicolon or none. -/
theorem reads_elseBranch_some {elseBranch : Node} {loose' : Nat} (hloose : loose ≤ 1)
    (h : Recites inLoop loose' us elseBranch) (hloops : inLoop = true → 0 < σ.loops)
    (hhangs : elseBranch.hangs = true → NoElse rest) (hlen : us.length + rest.length ≤ n) :
    Reads σ (upTo n).elseBranch
      (List.replicate loose (sign .semicolon) ++ reserved .kwElse :: (us ++ rest))
      (List.replicate loose' (sign .semicolon) ++ rest)
      (Node.AlikeOption · (some elseBranch)) := by
  have htail : Reads σ (do
      if ← Parse.eat (.keyword .kwElse) then some <$> (upTo n).body else return none)
      (reserved .kwElse :: (us ++ rest)) (List.replicate loose' (sign .semicolon) ++ rest)
      (Node.AlikeOption · (some elseBranch)) := by
    refine reads_bind (reads_eat rfl) fun yes hyes => ?_
    subst hyes
    exact reads_map (h.reads_body hloops hhangs hlen) fun _ hnode => hnode.some
  unfold Grammar.elseBranch
  refine reads_bind (reads_check _) fun yes hyes => ?_
  refine reads_bind (reads_peek 1) fun second hsecond => ?_
  obtain rfl | rfl : loose = 0 ∨ loose = 1 := by omega
  · subst hyes
    exact htail
  · subst hyes hsecond
    exact reads_bind reads_advance fun _ _ => htail

/-- A condition without another branch, which hangs. -/
theorem recites_ifThen {thenBranch : Node} (hL : Lambdas L)
    (hcond : Spells L Binding.assignment cs cond) (hthen : Recites inLoop loose ws thenBranch) :
    Recites inLoop loose (reserved .kwIf :: sign .lparen :: (cs ++ sign .rparen :: ws))
      (.ifElse span cond thenBranch none) where
  valid := Valid.cons (valid_reserved _) (Valid.cons (valid_sign _)
    (Valid.append (hcond.valid hL.valid) (Valid.cons (valid_sign _) hthen.valid)))
  starts := rfl
  loose_lt := by
    have := hthen.loose_lt
    simp only [List.length_cons, List.length_append]
    omega
  reads := by
    intro σ n rest hloops hhangs hlen
    have hnone := hhangs rfl
    simp only [List.length_cons, List.length_append] at hlen
    simp only [List.cons_append, List.append_assoc]
    have hread : Reads σ (upTo n).ifStatement
        (reserved .kwIf :: sign .lparen :: (cs ++ sign .rparen :: (ws ++ rest)))
        (List.replicate loose (sign .semicolon) ++ rest)
        (Node.Alike · (.ifElse span cond thenBranch none)) := by
      refine reads_bind reads_currentSpan fun start _ => ?_
      refine reads_bind reads_advance fun _ _ => ?_
      refine reads_bind (reads_condition hL hcond (by simp; omega)) fun cond' hcond' => ?_
      refine reads_bind (hthen.reads_body hloops (fun _ => hnone) (by omega))
        fun then' hthen' => ?_
      refine reads_bind (reads_elseBranch_none hnone loose) fun else' helse' => ?_
      subst helse'
      refine reads_bind (reads_spanFrom start) fun _ _ => reads_pure ?_
      simp_all only [Node.Alike, Node.erase]
    refine reads_bind reads_currentKind fun kind hkind => ?_
    obtain rfl : kind = .keyword .kwIf := hkind
    exact reads_map hread fun _ hnode => hnode.some

/-- A condition with both branches: the first one may leave one semicolon over, and is not
open to the `else`. -/
theorem recites_ifElse {thenBranch elseBranch : Node} {loose' : Nat} (hL : Lambdas L)
    (hcond : Spells L Binding.assignment cs cond) (hthen : Recites inLoop loose ws thenBranch)
    (hloose : loose ≤ 1) (hends : thenBranch.hangs = false)
    (helse : Recites inLoop loose' us elseBranch) :
    Recites inLoop loose'
      (reserved .kwIf :: sign .lparen :: (cs ++ sign .rparen :: (ws ++ reserved .kwElse :: us)))
      (.ifElse span cond thenBranch (some elseBranch)) where
  valid := Valid.cons (valid_reserved _) (Valid.cons (valid_sign _)
    (Valid.append (hcond.valid hL.valid) (Valid.cons (valid_sign _)
      (Valid.append hthen.valid (Valid.cons (valid_reserved _) helse.valid)))))
  starts := rfl
  loose_lt := by
    have := helse.loose_lt
    simp only [List.length_cons, List.length_append]
    omega
  reads := by
    intro σ n rest hloops hhangs hlen
    simp only [List.length_cons, List.length_append] at hlen
    simp only [List.cons_append, List.append_assoc]
    have hread : Reads σ (upTo n).ifStatement
        (reserved .kwIf :: sign .lparen ::
          (cs ++ sign .rparen :: (ws ++ reserved .kwElse :: (us ++ rest))))
        (List.replicate loose' (sign .semicolon) ++ rest)
        (Node.Alike · (.ifElse span cond thenBranch (some elseBranch))) := by
      refine reads_bind reads_currentSpan fun start _ => ?_
      refine reads_bind reads_advance fun _ _ => ?_
      refine reads_bind (reads_condition hL hcond (by simp; omega)) fun cond' hcond' => ?_
      refine reads_bind (hthen.reads_body hloops (fun hhang => Bool.noConfusion (hends ▸ hhang))
        (by simp; omega)) fun then' hthen' => ?_
      refine reads_bind (reads_elseBranch_some hloose helse hloops hhangs (by omega))
        fun else' helse' => ?_
      refine reads_bind (reads_spanFrom start) fun _ _ => reads_pure ?_
      simp_all only [Node.Alike, Node.AlikeOption, Node.erase]
    refine reads_bind reads_currentKind fun kind hkind => ?_
    obtain rfl : kind = .keyword .kwIf := hkind
    exact reads_map hread fun _ hnode => hnode.some

/-! ## Annotations -/

/-- The arguments of an annotation; if there are none, no parenthesis may follow. -/
theorem reads_annotationArguments {args : List Node} (hL : Lambdas L)
    (h : SpellsArguments L ws args) (hnone : args = [] → headKind rest ≠ .symbol .lparen)
    (hlen : ws.length + rest.length ≤ n) :
    Reads σ (upTo n).annotationArguments (ws ++ rest) rest (Node.AlikeAll · args) := by
  refine reads_bind (reads_check _) fun yes hyes => ?_
  cases h with
  | nil =>
      obtain rfl : yes = false := hyes.trans (decide_eq_false (hnone rfl))
      exact reads_pure rfl
  | cons h =>
      obtain rfl : yes = true := hyes.trans (decide_eq_true rfl)
      simp only [List.length_cons, List.length_append, List.length_nil, List.cons_append] at hlen
      simp only [List.cons_append, List.append_assoc, List.nil_append]
      exact reads_callArguments hL (complete hL n) h (by omega)

theorem recites_annotated {w : Word} {name : String} {args : List Node} {statement : Node}
    (hL : Lambdas L) (hw : w.Valid) (hname : w.name? = some name)
    (hargs : SpellsArguments L cs args) (hnone : args = [] → headKind ws ≠ .symbol .lparen)
    (hstatement : Recites inLoop loose ws statement) :
    Recites inLoop loose (sign .atSign :: w :: (cs ++ ws))
      (.annotated span name args statement) where
  valid := Valid.cons (valid_sign _) (Valid.cons hw
    (Valid.append (hargs.valid hL.valid) hstatement.valid))
  starts := rfl
  loose_lt := by
    have := hstatement.loose_lt
    simp only [List.length_cons, List.length_append]
    omega
  reads := by
    intro σ n rest hloops hhangs hlen
    have hnone' : args = [] → headKind (ws ++ rest) ≠ .symbol .lparen := by
      intro hargs
      cases ws with
      | nil => exact absurd hstatement.starts Bool.noConfusion
      | cons w ws => exact hnone hargs
    simp only [List.length_cons, List.length_append] at hlen
    simp only [List.cons_append, List.append_assoc]
    have hread : Reads σ (upTo n).annotatedStatement (sign .atSign :: w :: (cs ++ (ws ++ rest)))
        (List.replicate loose (sign .semicolon) ++ rest)
        (Node.Alike · (.annotated span name args statement)) := by
      refine reads_bind reads_currentSpan fun start _ => ?_
      refine reads_bind (reads_require rfl start) fun _ _ => ?_
      refine reads_bind reads_advance fun _ _ => ?_
      refine reads_bind (reads_word hname) fun found hfound => ?_
      obtain ⟨found, place⟩ := found
      obtain rfl : found = name := hfound
      refine reads_bind (reads_annotationArguments hL hargs hnone' (by simp; omega))
        fun args' hargs' => ?_
      refine reads_bind (hstatement.reads_body hloops hhangs (by omega))
        fun statement' hstatement' => ?_
      refine reads_bind (reads_spanFrom start) fun _ _ => reads_pure ?_
      simp_all only [Node.Alike, Node.AlikeAll, Node.erase]
    refine reads_bind reads_currentKind fun kind hkind => ?_
    obtain rfl : kind = .symbol .atSign := hkind
    exact reads_map hread fun _ hnode => hnode.some

end Forms

end Grammar

end ScriptEngine

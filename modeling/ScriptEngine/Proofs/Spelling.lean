import ScriptEngine.Proofs.Erasure
import ScriptEngine.Proofs.Word

/-!
# How expressions are spelled

The grammar of expressions as a relation between words and trees, without a
word about how they are read.  `Spells L level ws t` says that the words `ws`
are a way to write the tree `t` where at least the binding power `level` is
needed.  What counts as a function literal is left open: `L` says which words
spell one.

A step such as `x++` ends a chain of accesses, so that it may stand where an
operand of a prefix operator may, but not before a point.

* `Spells`, `SpellsAtom`, `SpellsAccess`, `SpellsAll`, `SpellsEntries` — the
  relation;
* `Spells.mono` — what is spelled tightly may stand where less is needed;
* `Spells.opens` — the words that an expression starts with.
-/

namespace ScriptEngine

open Word

/-- The operation that a symbol applies as a step after its operand. -/
def Symbol.step? : Symbol → Option BinaryOp
  | .plusPlus => some .add
  | .minusMinus => some .sub
  | _ => none

/-- Only two symbols are steps. -/
theorem Symbol.eq_of_step? {s : Symbol} {op : BinaryOp} (h : s.step? = some op) :
    s = .plusPlus ∨ s = .minusMinus := by
  cases s <;> first | exact .inl rfl | exact .inr rfl | cases h

/-- Whether arguments after a node are those of a call of its value: after a
property they are those of a method, and after `new` those of a constructor. -/
def Node.isCallable : Node → Bool
  | .property .. => false
  | .ident _ name => name ≠ "new"
  | _ => true

mutual

/-- Words that spell an operand that no operator takes apart. -/
inductive SpellsAtom (L : List Word → Node → Prop) : List Word → Node → Prop
  | literal {w : Word} {span : Span} {value : Literal} :
      w.Spelled → w.literal? = some value → SpellsAtom L [w] (.literal span value)
  | ident {span : Span} {name literal : String} :
      SpellsAtom L [⟨.ident name, literal⟩] (.ident span name)
  | group {ws : List Word} {t : Node} :
      Spells L Binding.assignment ws t → SpellsAtom L (sign .lparen :: ws ++ [sign .rparen]) t
  | array {ws : List Word} {span : Span} {items : List Node} :
      SpellsAll L ws items →
      SpellsAtom L (sign .lbracket :: ws ++ [sign .rbracket]) (.array span items)
  | emptyMap {span : Span} :
      SpellsAtom L [sign .lbrace, sign .colon, sign .rbrace] (.map span [])
  | map {ws us vs : List Word} {span : Span} {key value : Node}
      {entries : List (Node × Node)} :
      Spells L Binding.assignment ws key → Spells L Binding.assignment us value →
      SpellsEntries L vs entries →
      SpellsAtom L (sign .lbrace :: ws ++ sign .colon :: us ++ vs ++ [sign .rbrace])
        (.map span ((key, value) :: entries))
  | set {ws us : List Word} {span : Span} {item : Node} {items : List Node} :
      Spells L Binding.assignment ws item → SpellsTail L us items →
      SpellsAtom L (sign .lbrace :: ws ++ us ++ [sign .rbrace]) (.set span (item :: items))
  | construct {ws : List Word} {span : Span} {literal : String} {className : Node}
      {args : List Node} :
      SpellsAll L ws (className :: args) →
      SpellsAtom L (⟨.ident "new", literal⟩ :: sign .lparen :: ws ++ [sign .rparen])
        (.construct span className args)

/-- Words that spell an access or a call. -/
inductive SpellsAccess (L : List Word → Node → Prop) : List Word → Node → Prop
  | property {ws : List Word} {w : Word} {span : Span} {object : Node} {name : String} :
      Spells L Binding.postfixChain ws object → w.member? = some name →
      SpellsAccess L (ws ++ [sign .dot, w]) (.property span object name)
  | index {ws us : List Word} {span : Span} {object key : Node} :
      Spells L Binding.postfixChain ws object → Spells L Binding.assignment us key →
      SpellsAccess L (ws ++ (sign .lbracket :: us ++ [sign .rbracket])) (.index span object key)
  | methodCall {ws us : List Word} {w : Word} {span : Span} {object : Node} {name : String}
      {args : List Node} :
      Spells L Binding.postfixChain ws object → w.member? = some name → SpellsAll L us args →
      SpellsAccess L (ws ++ (sign .dot :: w :: sign .lparen :: us ++ [sign .rparen]))
        (.methodCall span object name args)
  | call {ws us : List Word} {span : Span} {callee : Node} {args : List Node} :
      Spells L Binding.postfixChain ws callee → callee.isCallable = true → SpellsAll L us args →
      SpellsAccess L (ws ++ (sign .lparen :: us ++ [sign .rparen])) (.call span callee args)

/-- Words that spell a tree where some binding power is needed. -/
inductive Spells (L : List Word → Node → Prop) : Nat → List Word → Node → Prop
  | atom {level : Nat} {ws : List Word} {t : Node} : level ≤ Binding.atom →
      SpellsAtom L ws t → Spells L level ws t
  | access {level : Nat} {ws : List Word} {t : Node} : level ≤ Binding.postfixChain →
      SpellsAccess L ws t → Spells L level ws t
  | step {level : Nat} {ws : List Word} {s : Symbol} {op : BinaryOp} {span inner place : Span}
      {target old : Node} :
      level ≤ Binding.unary → s.step? = some op → Spells L Binding.postfixChain ws target →
      target.isAssignable = true → old.Alike target →
      Spells L level (ws ++ [sign s])
        (.assign span target (.binary inner op old (.literal place (.number 1))) true)
  | unary {level : Nat} {ws : List Word} {w : Word} {symbol : String} {arity power : Nat}
      {span : Span} {op : UnaryOp} {operand : Node} :
      level ≤ Binding.unary → w.Spelled → w.before? = some ⟨symbol, arity, power, .unary op⟩ →
      Spells L Binding.unary ws operand →
      Spells L level (w :: ws) (.unary span op operand)
  | binary {level : Nat} {ws us : List Word} {w : Word} {symbol : String} {arity : Nat}
      {span : Span} {op : BinaryOp} {left right : Node} :
      level ≤ op.precedence → w.Spelled →
      w.after? = some ⟨symbol, arity, op.precedence, .binary op⟩ →
      Spells L op.precedence ws left → Spells L (op.precedence + 1) us right →
      Spells L level (ws ++ w :: us) (Grammar.binaryNode span op left right)
  | ternary {level : Nat} {ws us vs : List Word} {span : Span}
      {cond thenBranch elseBranch : Node} :
      level ≤ Binding.conditional → Spells L Binding.disjunction ws cond →
      Spells L Binding.assignment us thenBranch → Spells L Binding.conditional vs elseBranch →
      Spells L level (ws ++ sign .question :: (us ++ sign .colon :: vs))
        (.ternary span cond thenBranch elseBranch)
  | elvis {level : Nat} {ws us : List Word} {span : Span} {left right : Node} :
      level ≤ Binding.conditional → Spells L Binding.disjunction ws left →
      Spells L Binding.conditional us right →
      Spells L level (ws ++ sign .question :: sign .colon :: us) (.elvis span left right false)
  | coalesce {level : Nat} {ws us : List Word} {span : Span} {left right : Node} :
      level ≤ Binding.conditional → Spells L Binding.disjunction ws left →
      Spells L Binding.conditional us right →
      Spells L level (ws ++ sign .questionQuestion :: us) (.elvis span left right true)
  | assign {level : Nat} {ws us : List Word} {span : Span} {target value : Node} :
      level ≤ Binding.assignment → Spells L Binding.conditional ws target →
      target.isAssignable = true → Spells L Binding.assignment us value →
      Spells L level (ws ++ sign .assign :: us) (.assign span target value false)
  | lambda {level : Nat} {ws : List Word} {t : Node} : level ≤ Binding.assignment → L ws t →
      Spells L level ws t

/-- Words that spell several operands, separated by commas. -/
inductive SpellsAll (L : List Word → Node → Prop) : List Word → List Node → Prop
  | nil : SpellsAll L [] []
  | cons {ws us : List Word} {t : Node} {rest : List Node} :
      Spells L Binding.assignment ws t → SpellsTail L us rest → SpellsAll L (ws ++ us) (t :: rest)

/-- Words that spell more operands, each after a comma. -/
inductive SpellsTail (L : List Word → Node → Prop) : List Word → List Node → Prop
  | nil : SpellsTail L [] []
  | cons {ws us : List Word} {t : Node} {rest : List Node} :
      Spells L Binding.assignment ws t → SpellsTail L us rest →
      SpellsTail L (sign .comma :: (ws ++ us)) (t :: rest)

/-- Words that spell more entries of a map, each after a comma. -/
inductive SpellsEntries (L : List Word → Node → Prop) :
    List Word → List (Node × Node) → Prop
  | nil : SpellsEntries L [] []
  | cons {ws us vs : List Word} {key value : Node} {rest : List (Node × Node)} :
      Spells L Binding.assignment ws key → Spells L Binding.assignment us value →
      SpellsEntries L vs rest →
      SpellsEntries L (sign .comma :: (ws ++ sign .colon :: (us ++ vs))) ((key, value) :: rest)

end

variable {L : List Word → Node → Prop} {level : Nat} {ws : List Word} {t : Node}

/-- What is spelled tightly may stand where less is needed. -/
theorem Spells.mono {low : Nat} (h : Spells L level ws t) (hle : low ≤ level) :
    Spells L low ws t := by
  have hlow : ∀ {power : Nat}, level ≤ power → low ≤ power := Nat.le_trans hle
  cases h with
  | atom hlevel h => exact .atom (hlow hlevel) h
  | access hlevel h => exact .access (hlow hlevel) h
  | step hlevel hs h ht hold => exact .step (hlow hlevel) hs h ht hold
  | unary hlevel hs hw h => exact .unary (hlow hlevel) hs hw h
  | binary hlevel hs hw h hright => exact .binary (hlow hlevel) hs hw h hright
  | ternary hlevel h hthen helse => exact .ternary (hlow hlevel) h hthen helse
  | elvis hlevel h hright => exact .elvis (hlow hlevel) h hright
  | coalesce hlevel h hright => exact .coalesce (hlow hlevel) h hright
  | assign hlevel h ht hvalue => exact .assign (hlow hlevel) h ht hvalue
  | lambda hlevel h => exact .lambda (hlow hlevel) h

/-- More operands end where what follows them does. -/
theorem SpellsTail.stops {rest : List Word} {ts : List Node}
    (h : SpellsTail L ws ts) (hlevel : 0 < level) (hrest : Stops level rest) :
    Stops level (ws ++ rest) := by
  cases h with
  | nil => exact hrest
  | cons => exact ⟨rfl, hlevel⟩

/-- More entries end where what follows them does. -/
theorem SpellsEntries.stops {rest : List Word} {entries : List (Node × Node)}
    (h : SpellsEntries L ws entries) (hlevel : 0 < level)
    (hrest : Stops level rest) : Stops level (ws ++ rest) := by
  cases h with
  | nil => exact hrest
  | cons => exact ⟨rfl, hlevel⟩

/-! ## The first words -/

/-- Whether a word of this kind may start an expression. -/
def TokenKind.startsExpression : TokenKind → Bool
  | .ident _ | .number _ | .text _ => true
  | .keyword word => word ∈ [.kwTrue, .kwFalse, .kwNull, .kwNot, .kwEmpty, .kwSize]
  | .symbol sign => sign ∈ [.lparen, .lbracket, .lbrace, .minus, .plus, .bang, .tilde]
  | .error _ | .eof => false

/-- Whether a word of this kind stands between two expressions without joining
them. -/
def TokenKind.separates : TokenKind → Bool
  | .symbol sign => sign ∈ [.comma, .rparen, .colon]
  | _ => false

/-- Words that an expression of a level starts with: what may start one, a name
that nothing separates from the word after it, and no operator if accesses may
follow the expression. -/
def Word.Opens (level : Nat) : List Word → Prop
  | [] => False
  | w :: rest =>
    w.kind.startsExpression = true ∧
      (∀ name, w.kind = .ident name → (headKind rest).separates = false) ∧
      (Binding.postfixChain ≤ level → w.before? = none)

/-- A reserved word is written in one of its spellings. -/
theorem Keyword.eq_of_ofSpelling? {text : String} {k : Keyword}
    (h : Keyword.ofSpelling? text = some k) :
    text = k.spelling ∨ (text = "nil" ∧ k = .kwNull) := by
  unfold ofSpelling? at h
  split at h
  case isTrue hnil => exact .inr ⟨hnil, (Option.some.inj h).symm⟩
  case isFalse =>
    have hspelling := List.find?_some h
    exact .inl (of_decide_eq_true hspelling).symm

namespace Word

/-- An operator after an operand separates nothing. -/
theorem joins_of_after {w : Word} {row : Operator.Row} (hs : w.Spelled)
    (h : w.after? = some row) : w.kind.separates = false := by
  obtain ⟨kind, literal⟩ := w
  cases kind with
  | symbol s =>
      have hliteral : literal = s.spelling := hs
      have hrow : Operator.afterOperand? s.spelling = some row := hliteral ▸ h
      cases s <;> first | rfl | cases hrow
  | keyword k => rfl
  | ident name => rfl
  | number value => rfl
  | text value => rfl
  | error reason => rfl
  | eof => rfl

/-- A unary operator may start an expression and is no name. -/
theorem starts_of_before {w : Word} {symbol : String} {arity power : Nat} {op : UnaryOp}
    (hs : w.Spelled) (h : w.before? = some ⟨symbol, arity, power, .unary op⟩) :
    w.kind.startsExpression = true ∧ ∀ name, w.kind ≠ .ident name := by
  obtain ⟨kind, literal⟩ := w
  cases kind with
  | keyword k =>
      have hrow : Operator.beforeOperand? literal = some ⟨symbol, arity, power, .unary op⟩ := h
      refine ⟨?_, nofun⟩
      have hspelled : Keyword.ofSpelling? literal = some k := hs
      rcases Keyword.eq_of_ofSpelling? hspelled with hliteral | ⟨hliteral, -⟩
      · rw [hliteral] at hrow
        cases k <;> first | rfl | cases hrow
      · rw [hliteral] at hrow
        cases hrow
  | symbol s =>
      have hliteral : literal = s.spelling := hs
      have hrow : Operator.beforeOperand? s.spelling = some ⟨symbol, arity, power, .unary op⟩ :=
        hliteral ▸ h
      refine ⟨?_, nofun⟩
      cases s <;> first | rfl | cases hrow
  | ident name => cases h
  | number value => cases h
  | text value => cases h
  | error reason => cases h
  | eof => cases h

/-- The word of a literal may start an expression, and is neither a name nor an
operator. -/
theorem starts_of_literal {w : Word} {value : Literal} (hs : w.Spelled)
    (h : w.literal? = some value) :
    w.kind.startsExpression = true ∧ (∀ name, w.kind ≠ .ident name) ∧ w.before? = none := by
  obtain ⟨kind, literal⟩ := w
  cases kind with
  | number value => exact ⟨rfl, nofun, rfl⟩
  | text value => exact ⟨rfl, nofun, rfl⟩
  | keyword k =>
      refine ⟨by cases k <;> first | rfl | (cases h), nofun, ?_⟩
      have hspelled : Keyword.ofSpelling? literal = some k := hs
      show Operator.beforeOperand? literal = none
      rcases Keyword.eq_of_ofSpelling? hspelled with hliteral | ⟨hliteral, -⟩
      · rw [hliteral]
        cases k <;> first | rfl | cases h
      · rw [hliteral]
        rfl
  | ident name => cases h
  | symbol s => cases h
  | error reason => cases h
  | eof => cases h

/-- What words open does not depend on what follows, as long as that does not
separate. -/
theorem Opens.append {high level : Nat} {ws us : List Word} (h : Opens high ws)
    (hus : (headKind us).separates = false)
    (hlevel : Binding.postfixChain ≤ level → Binding.postfixChain ≤ high) :
    Opens level (ws ++ us) := by
  cases ws with
  | nil => exact h.elim
  | cons w rest =>
      obtain ⟨hstarts, hname, hbefore⟩ := h
      refine ⟨hstarts, fun name hkind => ?_, fun hle => hbefore (hlevel hle)⟩
      cases rest with
      | nil => exact hus
      | cons w' rest => exact hname name hkind

/-- A bracket opens an expression of any level. -/
theorem opens_sign {level : Nat} {s : Symbol} {ws : List Word}
    (hs : s = .lparen ∨ s = .lbracket ∨ s = .lbrace) : Opens level (sign s :: ws) := by
  rcases hs with rfl | rfl | rfl
  · exact ⟨rfl, fun _ hkind => TokenKind.noConfusion hkind, fun _ => rfl⟩
  · exact ⟨rfl, fun _ hkind => TokenKind.noConfusion hkind, fun _ => rfl⟩
  · exact ⟨rfl, fun _ hkind => TokenKind.noConfusion hkind, fun _ => rfl⟩

/-- Words that open an expression are not of a kind that starts none. -/
theorem Opens.headKind_ne {level : Nat} {ws : List Word} (h : Opens level ws)
    (kind : TokenKind) (hkind : kind.startsExpression = false) (us : List Word) :
    headKind (ws ++ us) ≠ kind := by
  cases ws with
  | nil => exact h.elim
  | cons w rest =>
      intro heq
      have hw : w.kind = kind := heq
      rw [← hw, h.1] at hkind
      cases hkind

/-- Where accesses may follow, an expression opens with no operator. -/
theorem Opens.before_eq_none {level : Nat} {ws : List Word} (h : Opens level ws)
    (hlevel : Binding.postfixChain ≤ level) (us : List Word) :
    ((ws ++ us).headD final).before? = none := by
  cases ws with
  | nil => exact h.elim
  | cons w rest => exact h.2.2 hlevel

/-- Words that open an expression are at least one. -/
theorem Opens.length_pos {level : Nat} {ws : List Word} (h : Opens level ws) :
    0 < ws.length := by
  cases ws with
  | nil => exact h.elim
  | cons w rest => exact Nat.succ_pos _

end Word

/-- How an operand opens. -/
theorem SpellsAtom.opens (h : SpellsAtom L ws t) : Opens level ws := by
  cases h with
  | literal hs hw =>
      obtain ⟨hstarts, hname, hbefore⟩ := starts_of_literal hs hw
      exact ⟨hstarts, fun name hkind => (hname name hkind).elim, fun _ => hbefore⟩
  | ident => exact ⟨rfl, fun _ _ => rfl, fun _ => rfl⟩
  | group => exact opens_sign (.inl rfl)
  | array => exact opens_sign (.inr (.inl rfl))
  | emptyMap => exact opens_sign (.inr (.inr rfl))
  | map => exact opens_sign (.inr (.inr rfl))
  | set => exact opens_sign (.inr (.inr rfl))
  | construct => exact ⟨rfl, fun _ _ => rfl, fun _ => rfl⟩

/-- **How an expression opens.**  Function literals, if any, start with a
parenthesis. -/
theorem Spells.opens (hL : ∀ ws t, L ws t → ∃ us, ws = sign .lparen :: us)
    (h : Spells L level ws t) : Opens level ws := by
  induction hn : ws.length using Nat.strongRecOn generalizing level ws t with
  | _ n ih =>
    have hchain : ∀ {level high : Nat} {ws us : List Word} {t : Node}, Spells L high ws t →
        (ws ++ us).length = n → (headKind us).separates = false → us ≠ [] →
        (Binding.postfixChain ≤ level → Binding.postfixChain ≤ high) →
        Opens level (ws ++ us) := by
      intro level high ws us t h hlength hus hne hlevel
      have hpos : 0 < us.length := List.length_pos_iff.mpr hne
      exact (ih ws.length (by simp at hlength; omega) h rfl).append hus hlevel
    cases h with
    | atom _ h => exact h.opens
    | access _ h =>
        cases h with
        | property hobject => exact hchain hobject hn rfl nofun fun _ => Nat.le_refl _
        | index hobject => exact hchain hobject hn rfl nofun fun _ => Nat.le_refl _
        | methodCall hobject => exact hchain hobject hn rfl nofun fun _ => Nat.le_refl _
        | call hcallee => exact hchain hcallee hn rfl nofun fun _ => Nat.le_refl _
    | @step _ _ s _ _ _ _ _ _ hlevel hstep htarget =>
        have hjoins : (TokenKind.symbol s).separates = false := by
          rcases Symbol.eq_of_step? hstep with rfl | rfl <;> rfl
        exact hchain htarget hn hjoins nofun fun _ => Nat.le_refl _
    | unary hlevel hs hw =>
        obtain ⟨hstarts, hname⟩ := starts_of_before hs hw
        refine ⟨hstarts, fun name hkind => (hname name hkind).elim, fun hle => ?_⟩
        exact absurd (Nat.le_trans hle hlevel) (by decide)
    | @binary _ _ _ w _ _ _ op _ _ hlevel hs hw hleft =>
        have hsmall : op.precedence < Binding.postfixChain := by cases op <;> decide
        exact hchain hleft hn (joins_of_after hs hw) nofun
          fun hle => absurd (Nat.le_trans hle hlevel) (Nat.not_le_of_lt hsmall)
    | ternary hlevel hcond =>
        exact hchain hcond hn rfl nofun fun hle => absurd (Nat.le_trans hle hlevel) (by decide)
    | elvis hlevel hleft =>
        exact hchain hleft hn rfl nofun fun hle => absurd (Nat.le_trans hle hlevel) (by decide)
    | coalesce hlevel hleft =>
        exact hchain hleft hn rfl nofun fun hle => absurd (Nat.le_trans hle hlevel) (by decide)
    | assign hlevel htarget =>
        exact hchain htarget hn rfl nofun fun hle => absurd (Nat.le_trans hle hlevel) (by decide)
    | lambda hlevel hlambda =>
        obtain ⟨us, rfl⟩ := hL _ _ hlambda
        exact opens_sign (.inl rfl)

/-! ## Errors -/

namespace Word

theorem valid_sign (s : Symbol) : (sign s).Valid := nofun

theorem Valid.of_literal {w : Word} {value : Literal} (h : w.literal? = some value) :
    w.Valid := by
  intro reason hkind
  simp [literal?, hkind] at h

theorem Valid.of_member {w : Word} {name : String} (h : w.member? = some name) : w.Valid := by
  intro reason hkind
  simp [member?, Grammar.memberName?, hkind] at h

theorem Valid.of_row {lookup : String → Option Operator.Row} {w : Word} {row : Operator.Row}
    (h : w.row? lookup = some row) : w.Valid := by
  intro reason hkind
  simp [row?, hkind] at h

/-- All words of a list are valid when those of both parts are. -/
theorem Valid.append {ws us : List Word} (h : ∀ w ∈ ws, w.Valid) (h' : ∀ w ∈ us, w.Valid) :
    ∀ w ∈ ws ++ us, w.Valid := by
  intro w hw
  rcases List.mem_append.mp hw with hw | hw
  · exact h w hw
  · exact h' w hw

theorem Valid.cons {w : Word} {ws : List Word} (h : w.Valid) (h' : ∀ w ∈ ws, w.Valid) :
    ∀ u ∈ w :: ws, u.Valid := by
  intro u hu
  rcases List.mem_cons.mp hu with rfl | hu
  · exact h
  · exact h' u hu

theorem Valid.nil : ∀ w ∈ ([] : List Word), w.Valid := nofun

end Word

open Word.Valid

mutual

/-- The words of an operand are valid if those of function literals are. -/
theorem SpellsAtom.valid {ws : List Word} {t : Node}
    (hL : ∀ ws t, L ws t → ∀ w ∈ ws, w.Valid) : SpellsAtom L ws t → ∀ w ∈ ws, w.Valid
  | .literal _ hw => cons (.of_literal hw) nil
  | .ident => cons nofun nil
  | .group h => cons (valid_sign _) (append (h.valid hL) (cons (valid_sign _) nil))
  | .array h => cons (valid_sign _) (append (h.valid hL) (cons (valid_sign _) nil))
  | .emptyMap => cons (valid_sign _) (cons (valid_sign _) (cons (valid_sign _) nil))
  | .map hkey hvalue hentries =>
    append (append (append (cons (valid_sign _) (hkey.valid hL))
      (cons (valid_sign _) (hvalue.valid hL))) (hentries.valid hL)) (cons (valid_sign _) nil)
  | .set hitem hitems =>
    append (append (cons (valid_sign _) (hitem.valid hL)) (hitems.valid hL))
      (cons (valid_sign _) nil)
  | .construct h =>
    cons nofun (cons (valid_sign _) (append (h.valid hL) (cons (valid_sign _) nil)))

/-- The words of an access are valid if those of function literals are. -/
theorem SpellsAccess.valid {ws : List Word} {t : Node}
    (hL : ∀ ws t, L ws t → ∀ w ∈ ws, w.Valid) : SpellsAccess L ws t → ∀ w ∈ ws, w.Valid
  | .property h hw => append (h.valid hL) (cons (valid_sign _) (cons (.of_member hw) nil))
  | .index h hkey =>
    append (h.valid hL) (cons (valid_sign _) (append (hkey.valid hL) (cons (valid_sign _) nil)))
  | .methodCall h hw hargs =>
    append (h.valid hL) (cons (valid_sign _) (cons (.of_member hw)
      (cons (valid_sign _) (append (hargs.valid hL) (cons (valid_sign _) nil)))))
  | .call h _ hargs =>
    append (h.valid hL) (cons (valid_sign _) (append (hargs.valid hL) (cons (valid_sign _) nil)))

/-- The words of an expression are valid if those of function literals are. -/
theorem Spells.valid {level : Nat} {ws : List Word} {t : Node}
    (hL : ∀ ws t, L ws t → ∀ w ∈ ws, w.Valid) : Spells L level ws t → ∀ w ∈ ws, w.Valid
  | .atom _ h => h.valid hL
  | .access _ h => h.valid hL
  | .step _ _ h _ _ => append (h.valid hL) (cons (valid_sign _) nil)
  | .unary _ _ hw h => cons (.of_row hw) (h.valid hL)
  | .binary _ _ hw h hright => append (h.valid hL) (cons (.of_row hw) (hright.valid hL))
  | .ternary _ h hthen helse =>
    append (h.valid hL) (cons (valid_sign _)
      (append (hthen.valid hL) (cons (valid_sign _) (helse.valid hL))))
  | .elvis _ h hright =>
    append (h.valid hL) (cons (valid_sign _) (cons (valid_sign _) (hright.valid hL)))
  | .coalesce _ h hright => append (h.valid hL) (cons (valid_sign _) (hright.valid hL))
  | .assign _ h _ hvalue => append (h.valid hL) (cons (valid_sign _) (hvalue.valid hL))
  | .lambda _ h => hL _ _ h

theorem SpellsAll.valid {ws : List Word} {ts : List Node}
    (hL : ∀ ws t, L ws t → ∀ w ∈ ws, w.Valid) : SpellsAll L ws ts → ∀ w ∈ ws, w.Valid
  | .nil => nil
  | .cons h hrest => append (h.valid hL) (hrest.valid hL)

theorem SpellsTail.valid {ws : List Word} {ts : List Node}
    (hL : ∀ ws t, L ws t → ∀ w ∈ ws, w.Valid) : SpellsTail L ws ts → ∀ w ∈ ws, w.Valid
  | .nil => nil
  | .cons h hrest => cons (valid_sign _) (append (h.valid hL) (hrest.valid hL))

theorem SpellsEntries.valid {ws : List Word} {entries : List (Node × Node)}
    (hL : ∀ ws t, L ws t → ∀ w ∈ ws, w.Valid) : SpellsEntries L ws entries → ∀ w ∈ ws, w.Valid
  | .nil => nil
  | .cons hkey hvalue hrest =>
    cons (valid_sign _) (append (hkey.valid hL) (cons (valid_sign _)
      (append (hvalue.valid hL) (hrest.valid hL))))

end

end ScriptEngine

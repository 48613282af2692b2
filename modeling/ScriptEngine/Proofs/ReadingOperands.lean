import ScriptEngine.Proofs.Reading
import ScriptEngine.Proofs.Spelling

/-!
# Reading operands

The productions read every spelling of an operand and of a chain of accesses, up
to the words that end it, and give back the tree that was spelled, up to places.
What they ask other productions for is read by `Complete`: the number of words
bounds the number of nested requests.

* `Complete` — what the productions with some number of requests read;
* `reads_primary` — an operand that no operator takes apart;
* `reads_chain` — accesses and calls, which build a tree from the left: what
  follows a part is left to what the chain does next, `Continues`.
-/

namespace ScriptEngine.Grammar

open Word

/-- Whether words after an object do not turn it into something else: arguments
after a property would be those of a method. -/
def Fits (t : Node) (rest : List Word) : Prop :=
  t.isCallable = true ∨ headKind rest ≠ .symbol .lparen

/-- What the words of function literals have to be: no errors, with a parenthesis
in front, and read as an operand as they say. -/
structure Lambdas (L : List Word → Node → Prop) : Prop where
  opens : ∀ ws t, L ws t → ∃ us, ws = sign .lparen :: us
  valid : ∀ ws t, L ws t → ∀ w ∈ ws, w.Valid
  reads : ∀ {σ : Frame} {n : Nat} {ws rest : List Word} {t : Node}, L ws t →
    Stops Binding.assignment rest → ws.length + rest.length ≤ n + 1 →
    Reads σ (upTo n).primary (ws ++ rest) rest (Node.Alike · t)

/-- The productions with at most `n` nested requests read all spellings of at
most `n` words, with what ends them. -/
structure Complete (σ : Frame) (L : List Word → Node → Prop) (n : Nat) : Prop where
  expr : ∀ {ws rest : List Word} {t : Node}, Spells L Binding.assignment ws t →
    Stops Binding.assignment rest → ws.length + rest.length ≤ n →
    Reads σ (upTo n).expr (ws ++ rest) rest (Node.Alike · t)
  assignment : ∀ {ws rest : List Word} {t : Node}, Spells L Binding.assignment ws t →
    Stops Binding.assignment rest → ws.length + rest.length ≤ n →
    Reads σ (upTo n).assignment (ws ++ rest) rest (Node.Alike · t)
  conditional : ∀ {ws rest : List Word} {t : Node}, Spells L Binding.conditional ws t →
    Stops Binding.conditional rest → ws.length + rest.length ≤ n →
    Reads σ (upTo n).conditional (ws ++ rest) rest (Node.Alike · t)
  binary : ∀ {least : Nat} {ws rest : List Word} {t : Node}, Binding.disjunction ≤ least →
    least ≤ Binding.unary → Spells L least ws t → Stops least rest →
    ws.length + rest.length ≤ n →
    Reads σ ((upTo n).binary least) (ws ++ rest) rest (Node.Alike · t)
  unary : ∀ {ws rest : List Word} {t : Node}, Spells L Binding.unary ws t →
    Stops Binding.unary rest → ws.length + rest.length ≤ n →
    Reads σ (upTo n).unary (ws ++ rest) rest (Node.Alike · t)
  arguments : ∀ {ws rest : List Word} {t : Node} {ts : List Node}, SpellsAll L ws (t :: ts) →
    ws.length + 1 + rest.length ≤ n →
    Reads σ (upTo n).arguments (ws ++ sign .rparen :: rest) rest (Node.AlikeAll · (t :: ts))
  items : ∀ {ws rest : List Word} {ts : List Node}, SpellsAll L ws ts →
    ws.length + 1 + rest.length ≤ n →
    Reads σ (upTo n).items (ws ++ sign .rbracket :: rest) (sign .rbracket :: rest)
      (Node.AlikeAll · ts)
  moreItems : ∀ {ws rest : List Word} {ts : List Node}, SpellsTail L ws ts →
    ws.length + 1 + rest.length ≤ n →
    Reads σ (upTo n).moreItems (ws ++ sign .rbrace :: rest) (sign .rbrace :: rest)
      (Node.AlikeAll · ts)
  moreEntries : ∀ {ws rest : List Word} {entries : List (Node × Node)},
    SpellsEntries L ws entries → ws.length + 1 + rest.length ≤ n →
    Reads σ (upTo n).moreEntries (ws ++ sign .rbrace :: rest) (sign .rbrace :: rest)
      (Node.AlikeEntries · entries)

section Productions

variable {σ : Frame} {L : List Word → Node → Prop} {n : Nat} {ws rest : List Word} {t : Node}

/-! ## Operands -/

/-- Operands in parentheses. -/
theorem reads_callArguments (hL : Lambdas L) (hc : Complete σ L n) {ts : List Node}
    (h : SpellsAll L ws ts) (hlen : ws.length + 1 + rest.length ≤ n) :
    Reads σ (upTo n).callArguments (sign .lparen :: (ws ++ sign .rparen :: rest)) rest
      (Node.AlikeAll · ts) := by
  unfold callArguments
  refine reads_bind (reads_expect rfl) fun _ _ => ?_
  cases h with
  | nil =>
      refine reads_bind (reads_eat rfl) fun yes hyes => ?_
      subst hyes
      exact reads_pure rfl
  | @cons ws us first others hfirst hothers =>
      have hne := (hfirst.opens hL.opens).headKind_ne (.symbol .rparen) rfl
        (us ++ sign .rparen :: rest)
      rw [← List.append_assoc] at hne
      refine reads_bind (reads_eat_not hne) fun yes hyes => ?_
      subst hyes
      exact hc.arguments (.cons hfirst hothers) hlen

/-- A literal. -/
theorem reads_literal {w : Word} {span : Span} {value : Literal} :
    Reads σ (literal value) (w :: rest) rest (Node.Alike · (.literal span value)) :=
  reads_bind reads_advance fun _ _ => reads_pure rfl

/-- A constructor call. -/
theorem reads_construct (hL : Lambdas L) (hc : Complete σ L n) {w : Word} {span : Span}
    {className : Node} {args : List Node} (h : SpellsAll L ws (className :: args))
    (hlen : ws.length + 1 + rest.length ≤ n) :
    Reads σ (upTo n).construct (w :: sign .lparen :: (ws ++ sign .rparen :: rest)) rest
      (Node.Alike · (.construct span className args)) := by
  unfold construct
  refine reads_bind reads_currentSpan fun start _ => ?_
  refine reads_bind (reads_require rfl start) fun _ _ => ?_
  refine reads_bind reads_advance fun _ _ => ?_
  refine reads_bind (reads_callArguments hL hc h hlen) fun found hfound => ?_
  obtain ⟨first, others, rfl, hfirst, hothers⟩ := hfound.of_cons
  refine reads_bind (reads_spanFrom start) fun _ _ => reads_pure ?_
  simp_all only [Node.Alike, Node.AlikeAll, Node.erase]

/-- An array literal. -/
theorem reads_array (hc : Complete σ L n) {span : Span} {items : List Node}
    (h : SpellsAll L ws items) (hlen : ws.length + 1 + rest.length ≤ n) :
    Reads σ (upTo n).array (sign .lbracket :: (ws ++ sign .rbracket :: rest)) rest
      (Node.Alike · (.array span items)) := by
  unfold array
  refine reads_bind reads_currentSpan fun start _ => ?_
  refine reads_bind (reads_require rfl start) fun _ _ => ?_
  refine reads_bind reads_advance fun _ _ => ?_
  refine reads_bind (hc.items h hlen) fun found hfound => ?_
  refine reads_bind (reads_expect rfl) fun _ _ => ?_
  refine reads_bind (reads_spanFrom start) fun _ _ => reads_pure ?_
  simp_all only [Node.Alike, Node.AlikeAll, Node.erase]

/-- The braces of a map without entries. -/
theorem reads_emptyMap {span : Span} :
    Reads σ (upTo n).braces (sign .lbrace :: sign .colon :: sign .rbrace :: rest) rest
      (Node.Alike · (.map span [])) := by
  unfold braces
  refine reads_bind reads_currentSpan fun start _ => ?_
  refine reads_bind (reads_require rfl start) fun _ _ => ?_
  refine reads_bind reads_advance fun _ _ => ?_
  refine reads_bind (reads_eat_not nofun) fun yes hyes => ?_
  subst hyes
  refine reads_bind (reads_check _) fun yes hyes => ?_
  refine reads_bind (reads_peek 1) fun second hsecond => ?_
  subst hyes hsecond
  refine reads_bind reads_advance fun _ _ => ?_
  refine reads_bind reads_advance fun _ _ => ?_
  exact reads_bind (reads_spanFrom start) fun _ _ => reads_pure rfl

/-- The opening brace of a map or set that is not empty, up to its first inner
expression. -/
theorem reads_braces (hL : Lambdas L) (hc : Complete σ L n) {us : List Word} {first : Node}
    {holds : Node → Prop} (h : Spells L Binding.assignment ws first)
    (hus : Stops Binding.assignment us) (hlen : ws.length + us.length ≤ n)
    (htail : ∀ start key, key.Alike first →
      Reads σ ((upTo n).bracesTail start key) us rest holds) :
    Reads σ (upTo n).braces (sign .lbrace :: (ws ++ us)) rest holds := by
  have hne : ∀ kind : TokenKind, kind.startsExpression = false → headKind (ws ++ us) ≠ kind :=
    fun kind hkind => (h.opens hL.opens).headKind_ne kind hkind us
  unfold braces
  refine reads_bind reads_currentSpan fun start _ => ?_
  refine reads_bind (reads_require rfl start) fun _ _ => ?_
  refine reads_bind reads_advance fun _ _ => ?_
  refine reads_bind (reads_eat_not (hne _ rfl)) fun yes hyes => ?_
  subst hyes
  refine reads_bind (reads_check _) fun yes hyes => ?_
  refine reads_bind (reads_peek 1) fun second _ => ?_
  have hfalse : yes = false := by rw [hyes]; exact decide_eq_false (hne _ rfl)
  subst hfalse
  refine reads_bind (hc.expr h hus hlen) fun key hkey => ?_
  exact htail start key hkey

/-- A map with at least one entry. -/
theorem reads_map_literal (hL : Lambdas L) (hc : Complete σ L n) {us vs : List Word} {span : Span}
    {key value : Node} {entries : List (Node × Node)} (hkey : Spells L Binding.assignment ws key)
    (hvalue : Spells L Binding.assignment us value) (hentries : SpellsEntries L vs entries)
    (hlen : ws.length + us.length + vs.length + 2 + rest.length ≤ n) :
    Reads σ (upTo n).braces
      (sign .lbrace :: (ws ++ sign .colon :: (us ++ (vs ++ sign .rbrace :: rest)))) rest
      (Node.Alike · (.map span ((key, value) :: entries))) := by
  have hstops : Stops Binding.assignment (vs ++ sign .rbrace :: rest) :=
    hentries.stops (by decide) ⟨rfl, by decide⟩
  refine reads_braces hL hc hkey ⟨rfl, by decide⟩ (by simp; omega) fun start key' hkey' => ?_
  unfold bracesTail
  refine reads_bind (reads_eat rfl) fun yes hyes => ?_
  subst hyes
  refine reads_bind (hc.expr hvalue hstops (by simp; omega)) fun value' hvalue' => ?_
  refine reads_bind (hc.moreEntries hentries (by omega)) fun entries' hentries' => ?_
  refine reads_bind (reads_expect rfl) fun _ _ => ?_
  refine reads_bind (reads_spanFrom start) fun _ _ => reads_pure ?_
  exact congrArg (Node.map .none) (Node.AlikeEntries.cons hkey' hvalue' hentries')

/-- A set with at least one item. -/
theorem reads_set_literal (hL : Lambdas L) (hc : Complete σ L n) {us : List Word} {span : Span}
    {item : Node} {items : List Node} (hitem : Spells L Binding.assignment ws item)
    (hitems : SpellsTail L us items) (hlen : ws.length + us.length + 1 + rest.length ≤ n) :
    Reads σ (upTo n).braces (sign .lbrace :: (ws ++ (us ++ sign .rbrace :: rest))) rest
      (Node.Alike · (.set span (item :: items))) := by
  have hstops : Stops Binding.assignment (us ++ sign .rbrace :: rest) :=
    hitems.stops (by decide) ⟨rfl, by decide⟩
  have hne : headKind (us ++ sign .rbrace :: rest) ≠ .symbol .colon := by
    cases hitems <;> nofun
  refine reads_braces hL hc hitem hstops (by simp; omega) fun start item' hitem' => ?_
  unfold bracesTail
  refine reads_bind (reads_eat_not hne) fun yes hyes => ?_
  subst hyes
  refine reads_bind (hc.moreItems hitems (by omega)) fun items' hitems' => ?_
  refine reads_bind (reads_expect rfl) fun _ _ => ?_
  refine reads_bind (reads_spanFrom start) fun _ _ => reads_pure ?_
  exact congrArg (Node.set .none) (Node.AlikeAll.cons hitem' hitems')

/-- What no comma and no closing parenthesis with an arrow after it follows is no
list of parameters. -/
theorem parametersAhead_eq_false {tokens : List Token} {w : Word} {ws : List Word}
    (hwords : tokens.map Token.word = w :: ws)
    (hcomma : ∀ name, w.kind = .ident name → headKind ws ≠ .symbol .comma)
    (harrow : ∀ name, w.kind = .ident name → headKind ws = .symbol .rparen →
      headKind ws.tail ≠ .symbol .arrow ∧ headKind ws.tail ≠ .symbol .fatArrow) :
    parametersAhead tokens = false := by
  unfold parametersAhead
  split
  case h_1 name _ _ _ _ _ =>
    obtain ⟨rfl, rfl⟩ := List.cons_eq_cons.mp hwords
    exact (hcomma name rfl rfl).elim
  case h_2 name _ _ _ _ sign _ _ _ =>
    obtain ⟨rfl, rfl⟩ := List.cons_eq_cons.mp hwords
    obtain ⟨hne, hne'⟩ := harrow name rfl rfl
    have hsign : sign ≠ .arrow ∧ sign ≠ .fatArrow :=
      ⟨fun heq => hne (congrArg TokenKind.symbol heq),
        fun heq => hne' (congrArg TokenKind.symbol heq)⟩
    simp [hsign]
  case h_3 => rfl

/-- An expression in parentheses is not taken for the head of a function
literal. -/
theorem lambdaAhead_eq_false {level : Nat} {tokens : List Token}
    (hwords : tokens.map Token.word = sign .lparen :: (ws ++ sign .rparen :: rest))
    (hopens : Opens level ws) (hrest : Stops Binding.atom rest) : lambdaAhead tokens = false := by
  cases ws with
  | nil => exact hopens.elim
  | cons w us =>
      obtain ⟨hstarts, hname, -⟩ := hopens
      have hne : w.kind ≠ .symbol .rparen := fun heq => by rw [heq] at hstarts; cases hstarts
      unfold lambdaAhead
      split
      case h_1 | h_2 =>
        obtain ⟨-, htail⟩ := List.cons_eq_cons.mp hwords
        obtain ⟨rfl, -⟩ := List.cons_eq_cons.mp htail
        exact (hne rfl).elim
      case h_3 =>
        obtain ⟨-, htail⟩ := List.cons_eq_cons.mp hwords
        have hplain : ∀ name, w.kind = .ident name →
            headKind (us ++ sign .rparen :: rest) ≠ .symbol .comma := by
          intro name hkind hcomma
          cases us with
          | nil => cases hcomma
          | cons w' us =>
              have hseparates := hname name hkind
              rw [show headKind (w' :: us) = .symbol .comma from hcomma] at hseparates
              cases hseparates
        refine parametersAhead_eq_false htail hplain fun name hkind hparen => ?_
        cases us with
        | nil => exact hrest.headKind_ne_arrow
        | cons w' us =>
            have hseparates := hname name hkind
            rw [show headKind (w' :: us) = .symbol .rparen from hparen] at hseparates
            cases hseparates
      case h_4 => cases hwords

/-- **An operand is read.** -/
theorem reads_primary (hL : Lambdas L) (hc : Complete σ L n) (h : SpellsAtom L ws t)
    (hfits : Fits t rest) (hrest : Stops Binding.atom rest)
    (hlen : ws.length + rest.length ≤ n + 1) :
    Reads σ (upTo n).primary (ws ++ rest) rest (Node.Alike · t) := by
  unfold primary
  refine reads_bind reads_cursor fun c hwords => ?_
  have hkind : c.current.kind = headKind (ws ++ rest) := current_kind hwords
  dsimp only
  cases h with
  | @literal w span value hs hw =>
      have hkind' : c.current.kind = w.kind := hkind
      obtain ⟨kind, text⟩ := w
      rw [hkind']
      cases kind with
      | number value =>
          cases hw
          exact reads_literal
      | text value =>
          cases hw
          exact reads_literal
      | keyword k =>
          cases k <;> first | cases hw; exact reads_literal | cases hw
      | ident name => cases hw
      | symbol s => cases hw
      | error reason => cases hw
      | eof => cases hw
  | @ident span name text =>
      obtain ⟨harrow, hfat⟩ := hrest.headKind_ne_arrow
      have hnew : ¬(name = "new" ∧ headKind rest = .symbol .lparen) := by
        rintro ⟨rfl, hparen⟩
        rcases hfits with hcallable | hne
        · cases hcallable
        · exact hne hparen
      rw [show c.current.kind = .ident name from hkind]
      refine reads_bind (reads_peek 1) fun following hfollowing => ?_
      obtain rfl : following = headKind rest := hfollowing
      rw [if_neg hnew, if_neg (by simp [harrow, hfat])]
      exact reads_bind reads_advance fun _ _ => reads_pure rfl
  | @group ws t h =>
      have hopens := h.opens hL.opens
      rw [show c.current.kind = .symbol .lparen from hkind]
      simp only [List.cons_append, List.append_assoc, List.nil_append] at hlen ⊢
      refine reads_bind reads_cursor fun c' hwords' => ?_
      rw [lambdaAhead_eq_false hwords' hopens hrest]
      refine reads_bind reads_advance fun _ _ => ?_
      refine reads_bind (hc.expr h ⟨rfl, by decide⟩ (by simp at hlen ⊢; omega))
        fun inner hinner => ?_
      exact reads_bind (reads_expect rfl) fun _ _ => reads_pure hinner
  | array h =>
      rw [show c.current.kind = .symbol .lbracket from hkind]
      simp only [List.cons_append, List.append_assoc, List.nil_append] at hlen ⊢
      exact reads_array hc h (by simp at hlen; omega)
  | emptyMap =>
      rw [show c.current.kind = .symbol .lbrace from hkind]
      exact reads_emptyMap
  | map hkey hvalue hentries =>
      rw [show c.current.kind = .symbol .lbrace from hkind]
      simp only [List.cons_append, List.append_assoc, List.nil_append] at hlen ⊢
      exact reads_map_literal hL hc hkey hvalue hentries (by simp at hlen; omega)
  | set hitem hitems =>
      rw [show c.current.kind = .symbol .lbrace from hkind]
      simp only [List.cons_append, List.append_assoc, List.nil_append] at hlen ⊢
      exact reads_set_literal hL hc hitem hitems (by simp at hlen; omega)
  | construct h =>
      rw [show c.current.kind = .ident "new" from hkind]
      simp only [List.cons_append, List.append_assoc, List.nil_append] at hlen ⊢
      refine reads_bind (reads_peek 1) fun following hfollowing => ?_
      rw [if_pos ⟨trivial, hfollowing⟩]
      exact reads_construct hL hc h (by simp at hlen; omega)

/-! ## Accesses and calls -/

/-- Accesses end where nothing goes on with one. -/
theorem reads_accessTail_stop {start : Span} {object : Node}
    (hrest : Stops Binding.postfixChain rest) :
    Reads σ ((upTo n).accessTail start object) rest rest (· = object) := by
  obtain ⟨hdot, hbracket, hparen, hplus, hminus⟩ := hrest.headKind_ne_access
  unfold accessTail
  refine reads_bind reads_currentKind fun kind hkind => ?_
  subst hkind
  split <;> first | contradiction | exact reads_pure rfl

/-- A step after what may be assigned to ends the accesses. -/
theorem reads_accessTail_step {start span inner place : Span} {object target old : Node}
    {s : Symbol} {op : BinaryOp} (hs : s.step? = some op) (hobject : object.Alike target)
    (htarget : target.isAssignable = true) (hold : old.Alike target) :
    Reads σ ((upTo n).accessTail start object) (sign s :: rest) rest
      (Node.Alike · (.assign span target
        (.binary inner op old (.literal place (.number 1))) true)) := by
  have hassignable : object.isAssignable = true := hobject.isAssignable_eq.trans htarget
  have hstep : ∀ span', Reads σ (stepAssign object op true span') rest rest
      (Node.Alike · (.assign span target
        (.binary inner op old (.literal place (.number 1))) true)) := by
    intro span'
    unfold stepAssign
    refine reads_bind (reads_require rfl _) fun _ _ => ?_
    rw [hassignable]
    refine reads_pure ?_
    simp_all only [Node.Alike, Node.erase]
  unfold accessTail
  refine reads_bind reads_currentKind fun kind hkind => ?_
  obtain rfl : kind = .symbol s := hkind
  cases s <;> cases hs
  all_goals
    dsimp only
    rw [if_pos hassignable]
    refine reads_bind reads_advance fun _ _ => ?_
    exact reads_bind (reads_spanFrom start) fun span' _ => hstep span'

/-- From any tree alike to `t` the chain of accesses goes on to what `holds`. -/
def Continues (σ : Frame) (n : Nat) (rest rest' : List Word) (holds : Node → Prop) (t : Node) :
    Prop :=
  ∀ m start object, m ≤ n → rest.length ≤ m + 1 → object.Alike t →
    Reads σ ((upTo m).accessTail start object) rest rest' holds

namespace Continues

variable {rest' us : List Word} {holds : Node → Prop} {object key callee : Node} {name : String}
variable {args : List Node} {span : Span} {w : Word}

/-- Before a property the chain stands at its object. -/
theorem property (h : Continues σ n rest rest' holds (.property span object name))
    (hw : w.member? = some name) (hne : headKind rest ≠ .symbol .lparen) :
    Continues σ n (sign .dot :: w :: rest) rest' holds object := by
  intro m start object' hm hlen hobject
  simp only [List.length_cons] at hlen
  unfold accessTail
  refine reads_bind reads_currentKind fun kind hkind => ?_
  obtain rfl : kind = .symbol .dot := hkind
  refine reads_bind reads_advance fun _ _ => ?_
  refine reads_bind (reads_memberName hw) fun found hfound => ?_
  obtain ⟨found, place⟩ := found
  obtain rfl : found = name := hfound
  refine reads_bind (reads_check _) fun yes hyes => ?_
  have hfalse : yes = false := by rw [hyes]; exact decide_eq_false hne
  subst hfalse
  refine reads_bind (reads_spanFrom start) fun span' _ => ?_
  obtain ⟨m, rfl⟩ : ∃ j, m = j + 1 := ⟨m - 1, by omega⟩
  refine h m start _ (by omega) (by omega) ?_
  simp_all only [Node.Alike, Node.erase]

/-- Before a computed member the chain stands at its object. -/
theorem index (hc : ∀ m ≤ n, Complete σ L m)
    (h : Continues σ n rest rest' holds (.index span object key))
    (hkey : Spells L Binding.assignment us key) :
    Continues σ n (sign .lbracket :: (us ++ sign .rbracket :: rest)) rest' holds object := by
  intro m start object' hm hlen hobject
  simp only [List.length_cons, List.length_append] at hlen
  unfold accessTail
  refine reads_bind reads_currentKind fun kind hkind => ?_
  obtain rfl : kind = .symbol .lbracket := hkind
  refine reads_bind reads_advance fun _ _ => ?_
  refine reads_bind ((hc m hm).expr hkey ⟨rfl, by decide⟩
    (by simp only [List.length_cons]; omega)) fun key' hkey' => ?_
  refine reads_bind (reads_expect rfl) fun _ _ => ?_
  refine reads_bind (reads_spanFrom start) fun span' _ => ?_
  obtain ⟨m, rfl⟩ : ∃ j, m = j + 1 := ⟨m - 1, by omega⟩
  refine h m start _ (by omega) (by omega) ?_
  simp_all only [Node.Alike, Node.erase]

/-- Before a method call the chain stands at its object. -/
theorem methodCall (hL : Lambdas L) (hc : ∀ m ≤ n, Complete σ L m)
    (h : Continues σ n rest rest' holds (.methodCall span object name args))
    (hw : w.member? = some name) (hargs : SpellsAll L us args) :
    Continues σ n (sign .dot :: w :: sign .lparen :: (us ++ sign .rparen :: rest)) rest' holds
      object := by
  intro m start object' hm hlen hobject
  simp only [List.length_cons, List.length_append] at hlen
  unfold accessTail
  refine reads_bind reads_currentKind fun kind hkind => ?_
  obtain rfl : kind = .symbol .dot := hkind
  refine reads_bind reads_advance fun _ _ => ?_
  refine reads_bind (reads_memberName hw) fun found hfound => ?_
  obtain ⟨found, place⟩ := found
  obtain rfl : found = name := hfound
  refine reads_bind (reads_check _) fun yes hyes => ?_
  obtain rfl : yes = true := hyes
  refine reads_bind (reads_require rfl place) fun _ _ => ?_
  refine reads_bind (reads_callArguments hL (hc m hm) hargs (by omega)) fun args' hargs' => ?_
  refine reads_bind (reads_spanFrom start) fun span' _ => ?_
  obtain ⟨m, rfl⟩ : ∃ j, m = j + 1 := ⟨m - 1, by omega⟩
  refine h m start _ (by omega) (by omega) ?_
  simp_all only [Node.Alike, Node.AlikeAll, Node.erase]

/-- Before a call the chain stands at what is called. -/
theorem call (hL : Lambdas L) (hc : ∀ m ≤ n, Complete σ L m)
    (h : Continues σ n rest rest' holds (.call span callee args)) (hargs : SpellsAll L us args) :
    Continues σ n (sign .lparen :: (us ++ sign .rparen :: rest)) rest' holds callee := by
  intro m start object' hm hlen hobject
  simp only [List.length_cons, List.length_append] at hlen
  unfold accessTail
  refine reads_bind reads_currentKind fun kind hkind => ?_
  obtain rfl : kind = .symbol .lparen := hkind
  refine reads_bind (reads_callArguments hL (hc m hm) hargs (by omega)) fun args' hargs' => ?_
  refine reads_bind (reads_spanFrom start) fun span' _ => ?_
  obtain ⟨m, rfl⟩ : ∃ j, m = j + 1 := ⟨m - 1, by omega⟩
  refine h m start _ (by omega) (by omega) ?_
  simp_all only [Node.Alike, Node.AlikeAll, Node.erase]

end Continues

/-- **A chain of accesses is read.**  What comes after the accesses spelled is left
to the rest of the chain. -/
theorem reads_chain (hL : Lambdas L) (hc : ∀ m ≤ n, Complete σ L m) {rest' : List Word}
    {holds : Node → Prop} (h : Spells L Binding.postfixChain ws t) (hfits : Fits t rest)
    (hrest : Stops Binding.atom rest) (hlen : ws.length + rest.length ≤ n + 1)
    (htail : Continues σ n rest rest' holds t) :
    Reads σ (upTo n).chain (ws ++ rest) rest' holds := by
  induction hk : ws.length using Nat.strongRecOn generalizing ws rest t with
  | _ k ih =>
    cases h with
    | atom _ h =>
        unfold chain
        refine reads_bind reads_currentSpan fun start _ => ?_
        refine reads_bind (reads_primary hL (hc n (Nat.le_refl n)) h hfits hrest hlen)
          fun object hobject => ?_
        exact htail n start object (Nat.le_refl n) (by omega) hobject
    | access _ h =>
        cases h with
        | @property ws w span object name hobject hw =>
            have hne : headKind rest ≠ .symbol .lparen :=
              hfits.resolve_left (by simp [Node.isCallable])
            simp only [List.length_append, List.length_cons, List.length_nil] at hk hlen
            rw [List.append_assoc]
            exact ih ws.length (by omega) hobject (.inr nofun) ⟨rfl, by decide⟩
              (by simp; omega) (htail.property hw hne) rfl
        | @index ws us span object key hobject hkey =>
            simp only [List.length_append, List.length_cons, List.length_nil] at hk hlen
            rw [List.append_assoc, List.append_assoc]
            exact ih ws.length (by omega) hobject (.inr nofun) ⟨rfl, by decide⟩
              (by simp; omega) (htail.index hc hkey) rfl
        | @methodCall ws us w span object name args hobject hw hargs =>
            simp only [List.length_append, List.length_cons, List.length_nil] at hk hlen
            rw [List.append_assoc, List.append_assoc]
            exact ih ws.length (by omega) hobject (.inr nofun) ⟨rfl, by decide⟩
              (by simp; omega) (htail.methodCall hL hc hw hargs) rfl
        | @call ws us span callee args hcallee hcallable hargs =>
            simp only [List.length_append, List.length_cons, List.length_nil] at hk hlen
            rw [List.append_assoc, List.append_assoc]
            exact ih ws.length (by omega) hcallee (.inl hcallable) ⟨rfl, by decide⟩
              (by simp; omega) (htail.call hL hc hargs) rfl
    | step hlevel => exact absurd hlevel (by decide)
    | unary hlevel => exact absurd hlevel (by decide)
    | @binary _ _ _ _ _ _ _ op _ _ hlevel =>
        have hsmall : op.precedence < Binding.postfixChain := by cases op <;> decide
        exact absurd hlevel (Nat.not_le_of_lt hsmall)
    | ternary hlevel => exact absurd hlevel (by decide)
    | elvis hlevel => exact absurd hlevel (by decide)
    | coalesce hlevel => exact absurd hlevel (by decide)
    | assign hlevel => exact absurd hlevel (by decide)
    | lambda hlevel => exact absurd hlevel (by decide)

end Productions

end ScriptEngine.Grammar

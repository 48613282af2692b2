import ScriptEngine.Proofs.Names
import ScriptEngine.Proofs.Spelling
import ScriptEngine.Tree.Printer

/-!
# How trees are written

The canonical text of a tree is read as a spelling of that tree.  There is one
lemma for each construct: what its parts are written as makes up what the whole
is written as.

* `Prints` — a text is read as a spelling of a tree, whatever closes it;
* `Prints.grouped` — parentheses where binding power asks for them;
* `Prints.binary`, `Prints.ternary`, … — the constructs.
-/

namespace ScriptEngine

open Word

/-- A text is read as words that spell a tree where some binding power is needed,
whatever closes the text. -/
def Prints (L : List Word → Node → Prop) (level : Nat) (text : String) (t : Node) : Prop :=
  ∃ ws, Spells L level ws t ∧ Writes text ws

/-- The same even if a point and digits come after the text. -/
def PrintsFirm (L : List Word → Node → Prop) (level : Nat) (text : String) (t : Node) : Prop :=
  ∃ ws, Spells L level ws t ∧ WritesFirm text ws

theorem PrintsFirm.prints {L : List Word → Node → Prop} {level : Nat} {text : String} {t : Node}
    (h : PrintsFirm L level text t) : Prints L level text t := by
  obtain ⟨ws, hspells, hwrites⟩ := h
  exact ⟨ws, hspells, hwrites.writes⟩

/-! ## Blanks and signs -/

/-- A character that goes on with no name closes a text, unless it is a point. -/
theorem closes_cons {c : Char} (hc : Lexeme.continuesName c = false) (hpoint : c ≠ '.')
    (cs : List Char) : Closes (c :: cs) :=
  ⟨hc, fun heq => absurd heq hpoint⟩

/-- A symbol that no character joins is written wherever it stands. -/
theorem scans_alone {s : Symbol} {rest : List Char} {us : List Word}
    (hs : s.standsAlone = true) (hscan : Scans rest us) :
    Scans (s.spelling.toList ++ rest) (sign s :: us) :=
  scans_sign (fun d _ => joins_standsAlone hs d) hscan

/-- A symbol between blanks. -/
theorem scans_spaced {s : Symbol} {text : String} {rest : List Char} {us : List Word}
    (htext : text.toList = ' ' :: (s.spelling.toList ++ [' '])) (hscan : Scans rest us) :
    Scans (text.toList ++ rest) (sign s :: us) := by
  rw [htext, List.cons_append, List.append_assoc]
  refine .blank rfl (scans_sign ?_ (.blank rfl hscan))
  intro d hd
  obtain rfl := Option.some.inj hd
  exact joins_blank s

/-- A symbol between blanks that joins two texts. -/
theorem writes_infix {a b text : String} {ws us : List Word} (s : Symbol)
    (htext : text.toList = ' ' :: (s.spelling.toList ++ [' '])) (ha : Writes a ws)
    (hb : Writes b us) : Writes (a ++ text ++ b) (ws ++ sign s :: us) := by
  intro rest vs hcloses hscan
  have hspaced := scans_spaced htext (hb rest vs hcloses hscan)
  have hblank : Closes (text.toList ++ (b.toList ++ rest)) := by
    rw [htext]
    exact closes_cons rfl (by decide) _
  have hwhole := ha _ _ hblank hspaced
  simp only [String.toList_append, List.append_assoc, List.cons_append]
  exact hwhole

/-- A text in brackets. -/
theorem firm_enclosed {a : String} {ws : List Word} (opening closing : Symbol)
    (hopening : opening.standsAlone = true) (hclosing : closing.standsAlone = true)
    (hcloses : ∀ rest, Closes (closing.spelling.toList ++ rest)) (ha : Writes a ws) :
    WritesFirm (opening.spelling ++ a ++ closing.spelling)
      (sign opening :: ws ++ [sign closing]) := by
  intro rest vs _ hscan
  have hlast := scans_alone hclosing hscan
  have hwhole := scans_alone hopening (ha _ _ (hcloses rest) hlast)
  simp only [String.toList_append, List.append_assoc, List.cons_append, List.nil_append]
  exact hwhole

/-- One text after another, where the second one closes the first. -/
theorem firm_append {a b : String} {ws us : List Word}
    (hcloses : ∀ rest, Closes (b.toList ++ rest)) (ha : Writes a ws) (hb : WritesFirm b us) :
    WritesFirm (a ++ b) (ws ++ us) := by
  intro rest vs hrest hscan
  have hwhole := ha _ _ (hcloses rest) (hb rest vs hrest hscan)
  simp only [String.toList_append, List.append_assoc]
  exact hwhole

theorem writes_append {a b : String} {ws us : List Word}
    (hcloses : ∀ rest, Closes (b.toList ++ rest)) (ha : Writes a ws) (hb : Writes b us) :
    Writes (a ++ b) (ws ++ us) := by
  intro rest vs hrest hscan
  have hwhole := ha _ _ (hcloses rest) (hb rest vs hrest hscan)
  simp only [String.toList_append, List.append_assoc]
  exact hwhole

/-- A point joins nothing but another point. -/
theorem joins_dot {d : Char} (hd : d ≠ '.') : Symbol.dot.joins d = false := by
  simp [Symbol.joins, startsComment, Symbol.longestFirst, Symbol.spelling, List.isPrefixOf, hd]

/-- A member name after a point. -/
theorem firm_member {name : String} (h : NameChars name.toList) :
    WritesFirm ("." ++ name) [sign .dot, ⟨nameKind name, name⟩] := by
  intro rest us hends hscan
  have hname := firm_name h rest us hends hscan
  have hfollow : ∀ d, (name.toList ++ rest).head? = some d → Symbol.dot.joins d = false := by
    intro d hd
    obtain ⟨c, cs, htext, hstart, -⟩ := h
    rw [htext] at hd
    obtain rfl := Option.some.inj hd
    refine joins_dot ?_
    rintro rfl
    exact absurd hstart (by decide)
  have hwhole := scans_sign hfollow hname
  simp only [String.toList_append, List.append_assoc]
  exact hwhole

/-- A member name after a point closes what stands before it. -/
theorem closes_member {name : String} (h : NameChars name.toList) (rest : List Char) :
    Closes (("." ++ name).toList ++ rest) := by
  obtain ⟨c, cs, htext, hstart, -⟩ := h
  have hdigit : c.isDigit = false := (startsName_plain hstart).2.1
  rw [String.toList_append, htext]
  refine ⟨rfl, fun _ d hd => ?_⟩
  obtain rfl := Option.some.inj hd
  exact hdigit

/-- Characters of a name make a member name. -/
theorem member_of_nameChars {name : String} (h : NameChars name.toList) :
    Word.member? ⟨nameKind name, name⟩ = some name := by
  unfold nameKind
  cases hkeyword : Keyword.ofSpelling? name with
  | none => rfl
  | some k =>
      have hplain : Grammar.isPlainWord name = true := by
        rcases Keyword.eq_of_ofSpelling? hkeyword with rfl | ⟨rfl, -⟩
        · cases k <;> decide
        · decide
      show (if Grammar.isPlainWord name = true then some name else none) = some name
      rw [if_pos hplain]

section Constructs

variable {L : List Word → Node → Prop} {text left right : String} {span : Span}

/-! ## Parentheses -/

/-- What is written tightly may stand where less is needed. -/
theorem Prints.mono {low high : Nat} {t : Node} (h : Prints L high text t) (hle : low ≤ high) :
    Prints L low text t := by
  obtain ⟨ws, hspells, hwrites⟩ := h
  exact ⟨ws, hspells.mono hle, hwrites⟩

/-- A text in parentheses may stand anywhere. -/
theorem Prints.paren {t : Node} (h : Prints L Binding.assignment text t) :
    PrintsFirm L Binding.atom ("(" ++ text ++ ")") t := by
  obtain ⟨ws, hspells, hwrites⟩ := h
  refine ⟨_, .atom (Nat.le_refl _) (.group hspells), ?_⟩
  exact firm_enclosed .lparen .rparen rfl rfl
    (fun rest => closes_cons rfl (by decide) rest) hwrites

/-- How tightly the text of a node binds at most when it is read: no access may
follow a step. -/
def Node.readingPower : Node → Nat
  | .assign _ _ _ true => Binding.unary
  | t => min t.bindingPower Binding.postfixChain

theorem Node.assignment_le_bindingPower (t : Node) : Binding.assignment ≤ t.bindingPower := by
  cases t with
  | binary span op left right =>
      show Binding.assignment ≤ op.precedence
      cases op <;> decide
  | assign span target value isPostfix =>
      cases isPostfix with
      | false => exact Nat.le_refl _
      | true => exact (by decide : Binding.assignment ≤ Binding.postfixChain)
  | _ => exact Nat.succ_le_succ (Nat.zero_le _)

theorem Node.assignment_le_readingPower (t : Node) : Binding.assignment ≤ t.readingPower := by
  have hpower := t.assignment_le_bindingPower
  unfold readingPower
  split
  · decide
  · exact Nat.le_min.mpr ⟨hpower, by decide⟩

/-- **Parentheses stand where they are needed.** -/
theorem Prints.grouped {t : Node} {least : Nat} (h : Prints L t.readingPower text t)
    (hleast : least ≤ Binding.atom)
    (hfit : least ≤ t.bindingPower → least ≤ t.readingPower) :
    Prints L least (t.grouped least text) t := by
  unfold Node.grouped
  split
  · exact ((h.mono t.assignment_le_readingPower).paren).prints.mono hleast
  · exact h.mono (hfit (Nat.le_of_not_lt ‹_›))

/-! ## Operands -/

/-- Literals that a source can hold: a number among them is not negative and has
finitely many places. -/
def Literal.IsWritable : Literal → Prop
  | .number q => 0 ≤ q ∧ ∃ k, q.den ∣ 10 ^ k
  | _ => True

/-- Whether a literal is a number that is written with digits only, so that a point and more
digits after it would make another number of it. -/
def Literal.isWhole : Literal → Bool
  | .number q => q.render.toList.all Char.isDigit
  | _ => false

/-- A literal that is no whole number may have a point and digits after it. -/
theorem firm_literal {value : Literal} (h : value.IsWritable) (hwhole : value.isWhole = false) :
    PrintsFirm L Binding.atom value.render (.literal span value) := by
  have hword : ∃ w : Word, w.Spelled ∧ w.literal? = some value ∧ WritesFirm value.render [w] := by
    cases value with
    | nil => exact ⟨reserved .kwNull, rfl, rfl, firm_reserved .kwNull⟩
    | bool value =>
        cases value with
        | true => exact ⟨reserved .kwTrue, rfl, rfl, firm_reserved .kwTrue⟩
        | false => exact ⟨reserved .kwFalse, rfl, rfl, firm_reserved .kwFalse⟩
    | number q =>
        obtain ⟨hq, k, hk⟩ := h
        refine ⟨⟨.number q, q.render⟩, trivial, rfl, ?_⟩
        rcases Number.render_eq hq hk with ⟨hdigits, -⟩ | ⟨whole, fraction, htext, hleft, hright, -⟩
        · have hall : q.render.toList.all Char.isDigit = true := List.all_eq_true.mpr hdigits.2
          exact absurd hall (Bool.eq_false_iff.mp hwhole)
        · exact firm_point htext hleft hright (Number.ofDecimal_render hq hk)
    | text value => exact ⟨⟨.text value, Quoted.source value⟩, trivial, rfl, firm_text value⟩
  obtain ⟨w, hspelled, hliteral, hwrites⟩ := hword
  exact ⟨[w], .atom (Nat.le_refl _) (.literal hspelled hliteral), hwrites⟩

theorem prints_literal {value : Literal} (h : value.IsWritable) :
    Prints L Binding.atom value.render (.literal span value) := by
  cases hwhole : value.isWhole with
  | false => exact (firm_literal h hwhole).prints
  | true =>
      cases value with
      | number q =>
          obtain ⟨hq, k, hk⟩ := h
          have hliteral : SpellsAtom L [⟨.number q, q.render⟩] (.literal span (.number q)) :=
            .literal trivial rfl
          exact ⟨_, .atom (Nat.le_refl _) hliteral, writes_number hq hk⟩
      | nil => cases hwhole
      | bool value => cases hwhole
      | text value => cases hwhole

theorem prints_ident {name : String} (h : IsName name) :
    PrintsFirm L Binding.atom name (.ident span name) :=
  ⟨_, .atom (Nat.le_refl _) .ident, h.firm⟩

/-! ## Operators -/

/-- The symbol that a binary operation is written with. -/
def BinaryOp.sign : BinaryOp → Symbol
  | add => .plus | sub => .minus | mul => .star | div => .slash | mod => .percent
  | eq => .eqEq | notEq => .notEq | lt => .lt | ltEq => .ltEq | gt => .gt | gtEq => .gtEq
  | and => .ampAmp | or => .pipePipe
  | bitAnd => .amp | bitOr => .pipe | bitXor => .caret | shl => .shl | shr => .shr | ushr => .ushr
  | within => .within | notWithin => .notWithin
  | startsWith => .startsWith | notStartsWith => .notStartsWith
  | endsWith => .endsWith | notEndsWith => .notEndsWith
  | range => .dotDot

theorem prints_infix {op : BinaryOp} {a b : Node} (ha : Prints L op.precedence left a)
    (hb : Prints L (op.precedence + 1) right b) :
    Prints L op.precedence (left ++ " " ++ op.symbol ++ " " ++ right)
      (Grammar.binaryNode span op a b) := by
  obtain ⟨ws, hws, hleft⟩ := ha
  obtain ⟨us, hus, hright⟩ := hb
  have hspelled : (Word.sign op.sign).Spelled := by cases op <;> rfl
  have hafter : (Word.sign op.sign).after? = some (.ofBinary op.symbol op) := by
    cases op <;> rfl
  have htext : (" " ++ op.symbol ++ " ").toList =
      ' ' :: (op.sign.spelling.toList ++ [' ']) := by
    cases op <;> rfl
  have hwrites := writes_infix op.sign htext hleft hright
  simp only [String.append_assoc] at hwrites ⊢
  exact ⟨_, .binary (Nat.le_refl _) hspelled hafter hws hus, hwrites⟩

theorem prints_binary {op : BinaryOp} {a b : Node} (hop : op ≠ .range)
    (ha : Prints L op.precedence left a) (hb : Prints L (op.precedence + 1) right b) :
    Prints L op.precedence (left ++ " " ++ op.symbol ++ " " ++ right) (.binary span op a b) := by
  have h : Prints L op.precedence _ (Grammar.binaryNode span op a b) := prints_infix ha hb
  rwa [Grammar.binaryNode, if_neg hop] at h

theorem prints_range {a b : Node} (ha : Prints L Binding.predicate left a)
    (hb : Prints L (Binding.predicate + 1) right b) :
    Prints L Binding.predicate (left ++ " .. " ++ right) (.range span a b) := by
  have h : Prints L BinaryOp.range.precedence (left ++ " " ++ BinaryOp.range.symbol ++ " " ++ right)
      (Grammar.binaryNode span .range a b) := prints_infix ha hb
  simp only [String.append_assoc] at h ⊢
  exact h

theorem prints_ternary {middle : String} {a b c : Node} (ha : Prints L Binding.disjunction left a)
    (hb : Prints L Binding.assignment middle b) (hc : Prints L Binding.conditional right c) :
    Prints L Binding.conditional (left ++ " ? " ++ middle ++ " : " ++ right)
      (.ternary span a b c) := by
  obtain ⟨ws, hws, hleft⟩ := ha
  obtain ⟨us, hus, hmiddle⟩ := hb
  obtain ⟨vs, hvs, hright⟩ := hc
  have hbranches : Writes (middle ++ " : " ++ right) _ := writes_infix .colon rfl hmiddle hright
  have hwrites : Writes (left ++ " ? " ++ _) _ := writes_infix .question rfl hleft hbranches
  simp only [String.append_assoc] at hwrites ⊢
  exact ⟨_, .ternary (Nat.le_refl _) hws hus hvs, hwrites⟩

theorem prints_coalesce {a b : Node} (ha : Prints L Binding.disjunction left a)
    (hb : Prints L Binding.conditional right b) :
    Prints L Binding.conditional (left ++ " ?? " ++ right) (.elvis span a b true) := by
  obtain ⟨ws, hws, hleft⟩ := ha
  obtain ⟨us, hus, hright⟩ := hb
  exact ⟨_, .coalesce (Nat.le_refl _) hws hus,
    writes_infix .questionQuestion rfl hleft hright⟩

theorem prints_elvis {a b : Node} (ha : Prints L Binding.disjunction left a)
    (hb : Prints L Binding.conditional right b) :
    Prints L Binding.conditional (left ++ " ?: " ++ right) (.elvis span a b false) := by
  obtain ⟨ws, hws, hleft⟩ := ha
  obtain ⟨us, hus, hright⟩ := hb
  refine ⟨_, .elvis (Nat.le_refl _) hws hus, ?_⟩
  have hcolon : Symbol.question.joins ':' = false := by decide
  have hsigns : Writes (" ?: " ++ right) (sign .question :: sign .colon :: us) := by
    intro rest vs hcloses hscan
    have hblank : Scans (' ' :: (right.toList ++ rest)) (us ++ vs) :=
      .blank rfl (hright rest vs hcloses hscan)
    have hsecond := scans_alone (s := .colon) rfl hblank
    have hfirst : Scans ("?".toList ++ (":".toList ++ ' ' :: (right.toList ++ rest)))
        (sign .question :: sign .colon :: (us ++ vs)) := by
      refine scans_sign (s := .question) (fun d hd => ?_) hsecond
      obtain rfl := Option.some.inj hd
      exact hcolon
    rw [String.toList_append]
    exact .blank rfl hfirst
  have hcloses : ∀ rest, Closes ((" ?: " ++ right).toList ++ rest) := by
    intro rest
    rw [String.toList_append]
    exact closes_cons (c := ' ') rfl (by decide) _
  rw [String.append_assoc]
  exact writes_append hcloses hleft hsigns

theorem prints_assign {a b : Node} (ha : Prints L Binding.conditional left a)
    (htarget : a.isAssignable = true) (hb : Prints L Binding.assignment right b) :
    Prints L Binding.assignment (left ++ " = " ++ right) (.assign span a b false) := by
  obtain ⟨ws, hws, hleft⟩ := ha
  obtain ⟨us, hus, hright⟩ := hb
  exact ⟨_, .assign (Nat.le_refl _) hws htarget hus,
    writes_infix .assign rfl hleft hright⟩

/-- A step after its operand. -/
theorem prints_step {s : Symbol} {op : BinaryOp} {inner place : Span} {target old : Node}
    (hs : s.step? = some op) (htarget : Prints L Binding.postfixChain left target)
    (hassignable : target.isAssignable = true) (hold : old.Alike target) :
    Prints L Binding.unary (left ++ s.spelling)
      (.assign span target (.binary inner op old (.literal place (.number 1))) true) := by
  obtain ⟨ws, hws, hleft⟩ := htarget
  refine ⟨_, .step (Nat.le_refl _) hs hws hassignable hold, ?_⟩
  have hsign : (∀ rest, Closes (s.spelling.toList ++ rest)) ∧ s.standsAlone = true := by
    rcases Symbol.eq_of_step? hs with rfl | rfl
    · exact ⟨fun rest => closes_cons rfl (by decide) _, rfl⟩
    · exact ⟨fun rest => closes_cons rfl (by decide) _, rfl⟩
  exact writes_append hsign.1 hleft fun rest us _ hscan => scans_alone hsign.2 hscan

/-- A text that starts with a character that goes on with no symbol. -/
def Leads (text : String) : Prop :=
  ∃ c cs, text.toList = c :: cs ∧ ∀ long ∈ Symbol.longestFirst, c ∉ long.spelling.toList.tail

/-- An operator before an operand whose text no symbol takes up; of the operators before an
operand only `!` takes up a dollar sign. -/
theorem prints_unary {op : UnaryOp} {operand : Node} (h : Prints L Binding.unary text operand)
    (hleads : Leads text ∨ (op ≠ .not ∧ text.toList.head? = some '$')) :
    Prints L Binding.unary (op.symbol ++ (if op.isWord then " " else "") ++ text)
      (.unary span op operand) := by
  obtain ⟨ws, hws, hwrites⟩ := h
  have hword : ∀ {k : Keyword} {row : Operator.Row}, (reserved k).Spelled →
      (reserved k).before? = some row → row.operator = .unary op →
      Prints L Binding.unary (k.spelling ++ " " ++ text) (.unary span op operand) := by
    intro k row hspelled hrow hop
    obtain ⟨symbol, arity, power, operator⟩ := row
    obtain rfl : operator = .unary op := hop
    refine ⟨_, .unary (Nat.le_refl _) hspelled hrow hws, ?_⟩
    have hblank : Writes (" " ++ text) ws := by
      intro rest us hcloses hscan
      rw [String.toList_append, List.append_assoc]
      exact .blank (c := ' ') rfl (hwrites rest us hcloses hscan)
    have hcloses : ∀ rest, Closes ((" " ++ text).toList ++ rest) := by
      intro rest
      rw [String.toList_append]
      exact closes_cons (c := ' ') rfl (by decide) _
    rw [String.append_assoc]
    exact writes_append hcloses (writes_reserved k) hblank
  have hsign : ∀ {s : Symbol} {row : Operator.Row}, (sign s).Spelled →
      (sign s).before? = some row → row.operator = .unary op →
      (∀ c, startsComment (s.spelling.toList ++ [c]) = false) →
      (op ≠ .not → s.joins '$' = false) →
      Prints L Binding.unary (s.spelling ++ "" ++ text) (.unary span op operand) := by
    intro s row hspelled hrow hop hcomment hdollar
    obtain ⟨symbol, arity, power, operator⟩ := row
    obtain rfl : operator = .unary op := hop
    refine ⟨_, .unary (Nat.le_refl _) hspelled hrow hws, fun rest us hcloses hscan => ?_⟩
    have hfollow : ∀ d, (text.toList ++ rest).head? = some d → s.joins d = false := by
      intro d hd
      rcases hleads with ⟨c, cs, htext, hc⟩ | ⟨hnot, hhead⟩
      · rw [htext] at hd
        obtain rfl := Option.some.inj hd
        exact joins_eq_false (hcomment c) hc
      · rw [List.head?_append, hhead] at hd
        obtain rfl := Option.some.inj hd
        exact hdollar hnot
    have hwhole := scans_sign hfollow (hwrites rest us hcloses hscan)
    rw [String.append_empty, String.toList_append, List.append_assoc]
    exact hwhole
  cases op with
  | empty => exact hword (k := .kwEmpty) rfl rfl rfl
  | size => exact hword (k := .kwSize) rfl rfl rfl
  | neg =>
      exact hsign (s := .minus) rfl rfl rfl (fun c => startsComment_of_ne (by decide) [c])
        fun _ => by decide
  | plus =>
      exact hsign (s := .plus) rfl rfl rfl (fun c => startsComment_of_ne (by decide) [c])
        fun _ => by decide
  | not =>
      exact hsign (s := .bang) rfl rfl rfl (fun c => startsComment_of_ne (by decide) [c])
        fun hnot => absurd rfl hnot
  | bitNot =>
      exact hsign (s := .tilde) rfl rfl rfl (fun c => startsComment_of_ne (by decide) [c])
        fun _ => by decide

/-! ## Sequences -/

/-- A text is read as words that spell several operands. -/
def PrintsAll (L : List Word → Node → Prop) (text : String) (ts : List Node) : Prop :=
  ∃ ws, SpellsAll L ws ts ∧ Writes text ws

/-- A comma after a text. -/
theorem writes_comma {a b : String} {ws us : List Word} (ha : Writes a ws) (hb : Writes b us) :
    Writes (a ++ ", " ++ b) (ws ++ sign .comma :: us) := by
  intro rest vs hcloses hscan
  have hblank : Scans (' ' :: (b.toList ++ rest)) (us ++ vs) :=
    .blank rfl (hb rest vs hcloses hscan)
  have hcomma := scans_alone (s := .comma) rfl hblank
  have hwhole := ha _ _ (closes_cons (c := ',') rfl (by decide) _) hcomma
  simp only [String.toList_append, List.append_assoc, List.cons_append]
  exact hwhole

/-- **Operands are written with commas between them.** -/
theorem prints_listed {ts : List Node}
    (h : ∀ t ∈ ts, Prints L Binding.assignment (t.grouped Binding.assignment t.bare) t) :
    PrintsAll L (Node.listed ts (Node.bareAll ts)) ts := by
  induction ts with
  | nil => exact ⟨[], .nil, fun rest us _ hscan => hscan⟩
  | cons t ts ih =>
      obtain ⟨ws, hws, hwrites⟩ := h t List.mem_cons_self
      cases ts with
      | nil => exact ⟨ws ++ [], .cons hws .nil, by rw [List.append_nil]; exact hwrites⟩
      | cons u ts =>
          obtain ⟨us, hus, hrest⟩ := ih fun t ht => h t (List.mem_cons_of_mem _ ht)
          cases hus with
          | @cons us vs _ _ hu hothers =>
              refine ⟨_, .cons hws (.cons hu hothers), ?_⟩
              have hcomma := writes_comma hwrites hrest
              have htext : Node.listed (t :: u :: ts) (Node.bareAll (t :: u :: ts)) =
                  t.grouped Binding.assignment t.bare ++ ", " ++
                    Node.listed (u :: ts) (Node.bareAll (u :: ts)) :=
                String.intercalate_cons_cons
              rw [htext]
              exact hcomma

/-! ## Accesses and calls -/

/-- Operands in parentheses. -/
theorem firm_arguments {ws : List Word} (h : Writes text ws) :
    WritesFirm ("(" ++ text ++ ")") (sign .lparen :: ws ++ [sign .rparen]) :=
  firm_enclosed .lparen .rparen rfl rfl
    (fun rest => closes_cons rfl (by decide) rest) h

theorem closes_arguments (text : String) (rest : List Char) :
    Closes (("(" ++ text ++ ")").toList ++ rest) := by
  rw [String.append_assoc, String.toList_append]
  exact closes_cons (c := '(') rfl (by decide) _

/-- A text that is read as an access to a member, as firmly as `W` says. -/
def PrintsMember (L : List Word → Node → Prop) (W : String → List Word → Prop) (text : String)
    (object : Node) (name : String) : Prop :=
  ∃ ws w, Spells L Binding.postfixChain ws object ∧ w.member? = some name ∧
    W text (ws ++ [sign .dot, w])

/-- A member whose name is made of name characters. -/
theorem firm_memberName {object : Node} {name : String}
    (h : Prints L Binding.postfixChain left object) (hname : NameChars name.toList) :
    PrintsMember L WritesFirm (left ++ "." ++ name) object name := by
  obtain ⟨ws, hws, hwrites⟩ := h
  rw [String.append_assoc]
  exact ⟨ws, _, hws, member_of_nameChars hname,
    firm_append (closes_member hname) hwrites (firm_member hname)⟩

theorem PrintsMember.writes {object : Node} {name : String}
    (h : PrintsMember L WritesFirm text object name) : PrintsMember L Writes text object name := by
  obtain ⟨ws, w, hws, hname, hwrites⟩ := h
  exact ⟨ws, w, hws, hname, hwrites.writes⟩

theorem firm_property {object : Node} {name : String}
    (h : PrintsMember L WritesFirm text object name) :
    PrintsFirm L Binding.postfixChain text (.property span object name) := by
  obtain ⟨ws, w, hws, hname, hwrites⟩ := h
  exact ⟨_, .access (Nat.le_refl _) (.property hws hname), hwrites⟩

theorem prints_property {object : Node} {name : String}
    (h : PrintsMember L Writes text object name) :
    Prints L Binding.postfixChain text (.property span object name) := by
  obtain ⟨ws, w, hws, hname, hwrites⟩ := h
  exact ⟨_, .access (Nat.le_refl _) (.property hws hname), hwrites⟩

theorem prints_index {object key : Node} (h : Prints L Binding.postfixChain left object)
    (hkey : Prints L Binding.assignment right key) :
    PrintsFirm L Binding.postfixChain (left ++ "[" ++ right ++ "]") (.index span object key) := by
  obtain ⟨ws, hws, hwrites⟩ := h
  obtain ⟨us, hus, hright⟩ := hkey
  refine ⟨_, .access (Nat.le_refl _) (.index hws hus), ?_⟩
  have hbrackets := firm_enclosed .lbracket .rbracket rfl rfl
    (fun rest => closes_cons rfl (by decide) rest) hright
  have hcloses : ∀ rest, Closes (("[" ++ right ++ "]").toList ++ rest) := by
    intro rest
    rw [String.append_assoc, String.toList_append]
    exact closes_cons (c := '[') rfl (by decide) _
  have hwhole := firm_append hcloses hwrites hbrackets
  simp only [String.append_assoc] at hwhole ⊢
  exact hwhole

theorem prints_methodCall {object : Node} {name : String} {args : List Node}
    (h : PrintsMember L Writes text object name) (hargs : PrintsAll L right args) :
    PrintsFirm L Binding.postfixChain (text ++ "(" ++ right ++ ")")
      (.methodCall span object name args) := by
  obtain ⟨ws, w, hws, hname, hwrites⟩ := h
  obtain ⟨us, hus, hright⟩ := hargs
  refine ⟨_, .access (Nat.le_refl _) (.methodCall hws hname hus), ?_⟩
  have hwhole := firm_append (closes_arguments right) hwrites (firm_arguments hright)
  simp only [String.append_assoc, List.append_assoc] at hwhole ⊢
  exact hwhole

theorem prints_call {callee : Node} {args : List Node}
    (h : Prints L Binding.postfixChain left callee) (hcallee : callee.isCallable = true)
    (hargs : PrintsAll L right args) :
    PrintsFirm L Binding.postfixChain (left ++ "(" ++ right ++ ")") (.call span callee args) := by
  obtain ⟨ws, hws, hwrites⟩ := h
  obtain ⟨us, hus, hright⟩ := hargs
  refine ⟨_, .access (Nat.le_refl _) (.call hws hcallee hus), ?_⟩
  have hwhole := firm_append (closes_arguments right) hwrites (firm_arguments hright)
  simp only [String.append_assoc] at hwhole ⊢
  exact hwhole

theorem prints_construct {className : Node} {args : List Node}
    (hargs : PrintsAll L right (className :: args)) :
    PrintsFirm L Binding.atom ("new(" ++ right ++ ")") (.construct span className args) := by
  obtain ⟨us, hus, hright⟩ := hargs
  refine ⟨⟨.ident "new", "new"⟩ :: _, .atom (Nat.le_refl _) (.construct hus), ?_⟩
  have hchars : NameChars "new".toList := ⟨'n', ['e', 'w'], rfl, rfl, List.all_eq_true.mp rfl⟩
  have hwhole := firm_append (closes_arguments right) (writes_name hchars)
    (firm_arguments hright)
  simp only [String.append_assoc] at hwhole ⊢
  exact hwhole

/-! ## Collections -/

theorem prints_array {items : List Node} (h : PrintsAll L text items) :
    PrintsFirm L Binding.atom ("[" ++ text ++ "]") (.array span items) := by
  obtain ⟨ws, hws, hwrites⟩ := h
  exact ⟨_, .atom (Nat.le_refl _) (.array hws),
    firm_enclosed .lbracket .rbracket rfl rfl
      (fun rest => closes_cons rfl (by decide) rest) hwrites⟩

theorem prints_set {item : Node} {items : List Node} (h : PrintsAll L text (item :: items)) :
    PrintsFirm L Binding.atom ("\x7b" ++ text ++ "\x7d") (.set span (item :: items)) := by
  obtain ⟨ws, hws, hwrites⟩ := h
  cases hws with
  | cons hitem hitems =>
      refine ⟨_, .atom (Nat.le_refl _) (.set hitem hitems), ?_⟩
      exact firm_enclosed .lbrace .rbrace rfl rfl
        (fun rest => closes_cons rfl (by decide) rest) hwrites

/-- A colon after a text. -/
theorem writes_colon {a b : String} {ws us : List Word} (ha : Writes a ws) (hb : Writes b us) :
    Writes (a ++ ": " ++ b) (ws ++ sign .colon :: us) := by
  intro rest vs hcloses hscan
  have hblank : Scans (' ' :: (b.toList ++ rest)) (us ++ vs) :=
    .blank rfl (hb rest vs hcloses hscan)
  have hcolon := scans_alone (s := .colon) rfl hblank
  have hwhole := ha _ _ (closes_cons (c := ':') rfl (by decide) _) hcolon
  simp only [String.toList_append, List.append_assoc, List.cons_append]
  exact hwhole

theorem prints_emptyMap : PrintsFirm L Binding.atom "\x7b:\x7d" (.map span []) := by
  refine ⟨_, .atom (Nat.le_refl _) .emptyMap, fun rest us _ hscan => ?_⟩
  have hlast := scans_alone (s := .rbrace) rfl hscan
  exact scans_alone (s := .lbrace) rfl (scans_alone (s := .colon) rfl hlast)

/-- The text of the entries of a map. -/
def entriesText (entries : List (Node × Node)) : String :=
  ", ".intercalate (List.zipWith Node.entryText entries (Node.bareEntries entries))

/-- **Entries are written with commas between them.** -/
theorem prints_entries {key value : Node} {entries : List (Node × Node)}
    (h : ∀ entry ∈ (key, value) :: entries,
      Prints L Binding.disjunction (entry.1.grouped Binding.disjunction entry.1.bare) entry.1 ∧
      Prints L Binding.assignment (entry.2.grouped Binding.assignment entry.2.bare) entry.2) :
    ∃ ws us vs, Spells L Binding.assignment ws key ∧ Spells L Binding.assignment us value ∧
      SpellsEntries L vs entries ∧
      Writes (entriesText ((key, value) :: entries)) (ws ++ sign .colon :: (us ++ vs)) := by
  induction entries generalizing key value with
  | nil =>
      obtain ⟨⟨ws, hws, hkey⟩, ⟨us, hus, hvalue⟩⟩ := h _ List.mem_cons_self
      refine ⟨ws, us, [], hws.mono (by decide), hus, .nil, ?_⟩
      rw [List.append_nil]
      exact writes_colon hkey hvalue
  | cons next entries ih =>
      obtain ⟨⟨ws, hws, hkey⟩, ⟨us, hus, hvalue⟩⟩ := h _ List.mem_cons_self
      obtain ⟨ws', us', vs, hws', hus', hvs, hrest⟩ :=
        @ih next.1 next.2 fun entry hentry => h entry (.tail _ hentry)
      refine ⟨ws, us, _, hws.mono (by decide), hus, .cons hws' hus' hvs, ?_⟩
      have hwhole := writes_comma (writes_colon hkey hvalue) hrest
      have htext : entriesText ((key, value) :: next :: entries) =
          Node.entryText (key, value) (key.bare, value.bare) ++ ", " ++
            entriesText (next :: entries) := String.intercalate_cons_cons
      rw [htext]
      simp only [List.append_assoc, List.cons_append] at hwhole ⊢
      exact hwhole

theorem prints_map {key value : Node} {entries : List (Node × Node)}
    (h : ∀ entry ∈ (key, value) :: entries,
      Prints L Binding.disjunction (entry.1.grouped Binding.disjunction entry.1.bare) entry.1 ∧
      Prints L Binding.assignment (entry.2.grouped Binding.assignment entry.2.bare) entry.2) :
    PrintsFirm L Binding.atom ("\x7b" ++ entriesText ((key, value) :: entries) ++ "\x7d")
      (.map span ((key, value) :: entries)) := by
  obtain ⟨ws, us, vs, hws, hus, hvs, hwrites⟩ := prints_entries h
  refine ⟨_, .atom (Nat.le_refl _) (.map hws hus hvs), ?_⟩
  have hwhole := firm_enclosed .lbrace .rbrace rfl rfl
    (fun rest => closes_cons rfl (by decide) rest) hwrites
  simp only [List.append_assoc, List.cons_append] at hwhole ⊢
  exact hwhole

end Constructs

end ScriptEngine

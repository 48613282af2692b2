import ScriptEngine.Proofs.Rendering

/-!
# The texts of operands

For each form of expression: if its parts are read back from their texts, it is read back from
its own.  The printer writes some expressions in a way that another expression is read from, so
that the forms that it gets wrong have a condition.  A step after its operand is not put in
parentheses where something is accessed of it, a member is written after a point whatever its
name is, and a call of a property is written like a call of a method.

* `Node.admits` — accesses to members that are read back;
* `PrintsOperand` — what is asked of the text of an operand;
* `PrintsOperand.binary`, `PrintsOperand.property`, … — one lemma for each form.
-/

namespace ScriptEngine

open Word

/-- Whether a node is a step after its operand. -/
def Node.isPostfixStep : Node → Bool
  | .assign _ _ _ true => true
  | _ => false

/-! ## Names of members -/

/-- Whether a name is read back where it is written after a point: characters of a name,
reserved or not, or an integer. -/
def isMemberText (name : String) : Bool :=
  match name.toList with
  | [] => false
  | c :: cs =>
    if c.isDigit then
      match Lexeme.number (c :: cs) with
      | ⟨.number value, _, []⟩ => value.isInteger
      | _ => false
    else Lexeme.startsName c && cs.all Lexeme.continuesName

/-- A name that is read back is made of name characters or is the numeral of an integer. -/
theorem isMemberText_cases {name : String} (h : isMemberText name = true) :
    NameChars name.toList ∨ ∃ q : Number, q.isInteger = true ∧ IsNumeral name.toList ∧
      Number.ofDecimal? name = some q := by
  unfold isMemberText at h
  split at h
  case h_1 => cases h
  case h_2 c cs hname =>
    split at h
    case isFalse =>
      obtain ⟨hstart, hcs⟩ := Bool.and_eq_true_iff.mp h
      exact .inl ⟨c, cs, hname, hstart, List.all_eq_true.mp hcs⟩
    case isTrue hdigit =>
      split at h
      case h_2 => cases h
      case h_1 value taken hnumber =>
        obtain ⟨happend, hnumeral, hvalue⟩ := isNumeral_of_number hdigit hnumber
        rw [List.append_nil] at happend
        subst happend
        refine .inr ⟨value, h, hname ▸ hnumeral, ?_⟩
        rwa [← hname, String.ofList_toList] at hvalue

/-- A name is a member name. -/
theorem IsName.isMemberText {name : String} (h : IsName name) : isMemberText name = true := by
  obtain ⟨⟨c, cs, hname, hstart, hcs⟩, -⟩ := h.nameChars
  have hdigit : c.isDigit = false := (startsName_plain hstart).2.1
  unfold ScriptEngine.isMemberText
  rw [hname]
  simp only [hdigit, hstart, List.all_eq_true.mpr hcs, Bool.and_self, if_false, reduceCtorEq]

/-- A numeral starts with a digit. -/
theorem IsNumeral.head {cs : List Char} (h : IsNumeral cs) :
    ∃ c, cs.head? = some c ∧ c.isDigit = true := by
  rcases h with hdigits | ⟨whole, fraction, rfl, hwhole, -⟩
  · obtain ⟨c, ds, rfl⟩ := List.exists_cons_of_ne_nil hdigits.1
    exact ⟨c, rfl, hdigits.2 c List.mem_cons_self⟩
  · obtain ⟨c, ds, rfl⟩ := List.exists_cons_of_ne_nil hwhole.1
    exact ⟨c, rfl, hwhole.2 c List.mem_cons_self⟩

/-- A numeral after a point, where no digits come before the point. -/
theorem scans_numeralMember {left name : String} {rest : List Char} {ws us : List Word} {w : Word}
    (hleft : WritesFirm left ws) (hnumeral : IsNumeral name.toList)
    (hscan : Scans (name.toList ++ rest) (w :: us)) :
    Scans ((left ++ "." ++ name).toList ++ rest) (ws ++ [sign .dot, w] ++ us) := by
  obtain ⟨c, hhead, hdigit⟩ := hnumeral.head
  have hfollow : ∀ d, (name.toList ++ rest).head? = some d → Symbol.dot.joins d = false := by
    intro d hd
    rw [List.head?_append, hhead] at hd
    obtain rfl := Option.some.inj hd
    refine joins_dot ?_
    rintro rfl
    cases hdigit
  have hends : EndsName ('.' :: (name.toList ++ rest)) := by
    intro d hd
    obtain rfl := Option.some.inj hd
    rfl
  have hall := hleft _ _ hends (scans_sign hfollow hscan)
  simp only [String.toList_append, List.append_assoc]
  exact hall

/-! ## First characters -/

/-- A text that starts with a character that goes on with no symbol, or with a dollar sign if
one is allowed. -/
def LeadsOr (dollar : Bool) (text : String) : Prop :=
  Leads text ∨ (dollar = true ∧ text.toList.head? = some '$')

/-- What follows a text does not change how it starts. -/
theorem Leads.append {text : String} (h : Leads text) (more : String) : Leads (text ++ more) := by
  obtain ⟨c, cs, htext, hc⟩ := h
  exact ⟨c, cs ++ more.toList, by rw [String.toList_append, htext, List.cons_append], hc⟩

theorem LeadsOr.append {dollar : Bool} {text : String} (h : LeadsOr dollar text) (more : String) :
    LeadsOr dollar (text ++ more) := by
  rcases h with hleads | ⟨hdollar, hhead⟩
  · exact .inl (hleads.append more)
  · refine .inr ⟨hdollar, ?_⟩
    rw [String.toList_append, List.head?_append, hhead]
    rfl

/-- A bracket, a quote or a letter goes on with no symbol. -/
theorem leads_of_mem {c : Char} {cs : List Char} {text : String} (htext : text.toList = c :: cs)
    (hc : c ∈ ['(', '[', '\x7b', '"', 'n', 't', 'f']) : Leads text := by
  have hall : (['(', '[', '\x7b', '"', 'n', 't', 'f'].all fun c => Symbol.longestFirst.all
      fun long => !long.spelling.toList.tail.contains c) = true := rfl
  refine ⟨c, cs, htext, fun long hlong hmem => ?_⟩
  have hplain := List.all_eq_true.mp (List.all_eq_true.mp hall c hc) long hlong
  simp [hmem] at hplain

/-- A digit goes on with no symbol. -/
theorem leads_of_isDigit {c : Char} {cs : List Char} {text : String}
    (htext : text.toList = c :: cs) (hc : c.isDigit = true) : Leads text := by
  have hall : (Symbol.longestFirst.all fun long =>
      long.spelling.toList.tail.all fun d => !d.isDigit) = true := rfl
  refine ⟨c, cs, htext, fun long hlong hmem => ?_⟩
  have hplain := List.all_eq_true.mp (List.all_eq_true.mp hall long hlong) c hmem
  simp [hc] at hplain

/-- A name goes on with no symbol, or starts with a dollar sign. -/
theorem leads_name {name : String} (h : IsName name) :
    Leads name ∨ name.toList.head? = some '$' := by
  obtain ⟨⟨c, cs, htext, hstart, -⟩, -⟩ := h.nameChars
  by_cases hdollar : c = '$'
  · exact .inr (by rw [htext, hdollar]; rfl)
  · have hall : (Symbol.longestFirst.all fun long =>
        long.spelling.toList.tail.all fun d => !Lexeme.startsName d || d = '$') = true := rfl
    refine .inl ⟨c, cs, htext, fun long hlong hmem => hdollar ?_⟩
    have hplain := List.all_eq_true.mp (List.all_eq_true.mp hall long hlong) c hmem
    simpa [hstart] using hplain

/-- The text of a literal goes on with no symbol. -/
theorem leads_literal {value : Literal} (h : value.IsWritable) : Leads value.render := by
  cases value with
  | nil => exact leads_of_mem (c := 'n') rfl (by decide)
  | bool value =>
      cases value with
      | true => exact leads_of_mem (c := 't') rfl (by decide)
      | false => exact leads_of_mem (c := 'f') rfl (by decide)
  | number q =>
      obtain ⟨hq, k, hk⟩ := h
      rcases Number.render_eq hq hk with ⟨hdigits, -⟩ | ⟨whole, fraction, htext, hwhole, -, -⟩
      · obtain ⟨c, cs, htext⟩ := List.exists_cons_of_ne_nil hdigits.1
        exact leads_of_isDigit htext (hdigits.2 c (htext ▸ List.mem_cons_self))
      · obtain ⟨c, cs, hcs⟩ := List.exists_cons_of_ne_nil hwhole.1
        have hall : (Literal.number q).render.toList = c :: (cs ++ '.' :: fraction) := by
          show (Number.render q).toList = _
          rw [htext, hcs, List.cons_append]
        exact leads_of_isDigit hall (hwhole.2 c (hcs ▸ List.mem_cons_self))
  | text value =>
      have hall : (Literal.text value).render.toList =
          '"' :: (value.toList.flatMap Quoted.sourceChar ++ ['"']) := by
        show (Quoted.source value).toList = _
        unfold Quoted.source
        rw [String.toList_ofList, List.cons_append]
      exact leads_of_mem hall (by decide)

/-! ## Grouping -/

/-- Outside of accesses a node binds as tightly as it is written. -/
theorem Node.le_readingPower {t : Node} {least : Nat} (hleast : least ≤ Binding.unary)
    (h : least ≤ t.bindingPower) : least ≤ t.readingPower := by
  unfold readingPower
  split
  · exact hleast
  · exact Nat.le_min.mpr ⟨h, Nat.le_trans hleast (by decide)⟩

/-- What is no step and needs no parentheses may be accessed. -/
theorem Node.postfixChain_le_readingPower {t : Node} (hstep : t.isPostfixStep = false)
    (h : Binding.postfixChain ≤ t.bindingPower) : Binding.postfixChain ≤ t.readingPower := by
  unfold readingPower
  split
  · cases hstep
  · exact Nat.le_min.mpr ⟨h, Nat.le_refl _⟩

/-- An access may stand wherever a node of any kind may. -/
theorem Node.readingPower_le_postfixChain (t : Node) : t.readingPower ≤ Binding.postfixChain := by
  unfold readingPower
  split
  · decide
  · exact Nat.min_le_right _ _

/-- What may be assigned to is no step. -/
theorem Node.isPostfixStep_of_isAssignable {t : Node} (h : t.isAssignable = true) :
    t.isPostfixStep = false := by
  cases t <;> first | rfl | cases h

/-! ## Operands -/

/-- Whether the text of a node ends with digits, which a point and more digits would join. -/
def Node.endsInDigits : Node → Bool
  | .literal _ value => value.isWhole
  | .property _ _ name => name.toList.all Char.isDigit
  | _ => false

/-- Whether an access to a member is read back where the member is written after a node. -/
def Node.admits (object : Node) (name : String) : Bool :=
  !object.isPostfixStep && isMemberText name &&
    !(object.endsInDigits && name.toList.head?.any Char.isDigit)

/-- **What is asked of the text of an operand**: it is read as a spelling of the operand; if it
may be accessed as it is and does not end with digits, so may it be with digits after the point;
and it goes on with no symbol, unless an operator takes it apart. -/
structure PrintsOperand (L : List Word → Node → Prop) (dollar : Bool) (t : Node) : Prop where
  prints : Prints L t.readingPower t.bare t
  firm : Binding.postfixChain ≤ t.bindingPower → t.isPostfixStep = false →
    t.endsInDigits = false → PrintsFirm L Binding.postfixChain t.bare t
  leads : Binding.postfixChain ≤ t.bindingPower → LeadsOr dollar t.bare

section Operands

variable {L : List Word → Node → Prop} {dollar : Bool} {t : Node} {span : Span}

/-- An operand of an operator, in parentheses if it needs them. -/
theorem Prints.operand {least : Nat} (h : Prints L t.readingPower t.bare t)
    (hleast : least ≤ Binding.unary) : Prints L least (t.grouped least t.bare) t :=
  h.grouped (Nat.le_trans hleast (by decide)) (Node.le_readingPower hleast)

/-- What is accessed or called, in parentheses if it needs them. -/
theorem Prints.base (h : Prints L t.readingPower t.bare t) (hstep : t.isPostfixStep = false) :
    Prints L Binding.postfixChain (t.grouped Binding.postfixChain t.bare) t :=
  h.grouped (by decide) (Node.postfixChain_le_readingPower hstep)

/-- The operand of an operator before it: a step needs no parentheses there. -/
theorem Prints.unaryOperand (h : Prints L t.readingPower t.bare t) :
    Prints L Binding.unary (t.grouped (Binding.unary + 1) t.bare) t := by
  unfold Node.grouped
  split
  · exact ((h.mono t.assignment_le_readingPower).paren).prints.mono (by decide)
  · exact h.mono (Node.le_readingPower (Nat.le_refl _)
      (Nat.le_of_succ_le (Nat.le_of_not_lt ‹_›)))

namespace PrintsOperand

/-- In parentheses or not, the text of an operand goes on with no symbol. -/
theorem leadsGrouped (h : PrintsOperand L dollar t) :
    LeadsOr dollar (t.grouped Binding.postfixChain t.bare) := by
  unfold Node.grouped
  split
  · rw [String.append_assoc]
    exact .inl (leads_of_mem (c := '(') (by rw [String.toList_append]; rfl) (by decide))
  · exact h.leads (Nat.le_of_not_lt ‹_›)

/-- What does not end with digits may have a point and digits after it. -/
theorem firmBase (h : PrintsOperand L dollar t) (hstep : t.isPostfixStep = false)
    (hdigits : t.endsInDigits = false) :
    PrintsFirm L Binding.postfixChain (t.grouped Binding.postfixChain t.bare) t := by
  unfold Node.grouped
  split
  · obtain ⟨ws, hws, hwrites⟩ := (h.prints.mono t.assignment_le_readingPower).paren
    exact ⟨ws, hws.mono (by decide), hwrites⟩
  · exact h.firm (Nat.le_of_not_lt ‹_›) hstep hdigits

/-- What an operator takes apart has nothing else to show. -/
theorem of_loose (hloose : t.bindingPower < Binding.postfixChain)
    (h : Prints L t.readingPower t.bare t) : PrintsOperand L dollar t where
  prints := h
  firm hle := absurd hle (Nat.not_le_of_lt hloose)
  leads hle := absurd hle (Nat.not_le_of_lt hloose)

/-- What is read whatever comes after it, digits or not. -/
theorem of_firm {power : Nat} (hpower : Binding.postfixChain ≤ power)
    (h : PrintsFirm L power t.bare t) (hleads : LeadsOr dollar t.bare) :
    PrintsOperand L dollar t where
  prints := h.prints.mono (Nat.le_trans t.readingPower_le_postfixChain hpower)
  firm _ _ _ := by
    obtain ⟨ws, hws, hwrites⟩ := h
    exact ⟨ws, hws.mono hpower, hwrites⟩
  leads _ := hleads

/-- Operands with commas between them. -/
theorem listed {ts : List Node} (h : ∀ t ∈ ts, PrintsOperand L dollar t) :
    PrintsAll L (Node.listed ts (Node.bareAll ts)) ts :=
  prints_listed fun t ht => (h t ht).prints.operand (by decide)

/-! ### Literals and names -/

theorem literal {value : Literal} (h : value.IsWritable) :
    PrintsOperand L dollar (.literal span value) where
  prints := (prints_literal h).mono (Nat.min_le_left _ _)
  firm _ _ hdigits := by
    have hfirm : PrintsFirm L Binding.atom value.render (.literal span value) :=
      firm_literal h hdigits
    obtain ⟨ws, hws, hwrites⟩ := hfirm
    exact ⟨ws, hws.mono (by decide), hwrites⟩
  leads _ := .inl (leads_literal h)

theorem ident {name : String} (h : IsName name)
    (hdollar : dollar = false → name.toList.head? ≠ some '$') :
    PrintsOperand L dollar (.ident span name) := by
  refine of_firm (by decide) (prints_ident h) ?_
  rcases leads_name h with hleads | hhead
  · exact .inl hleads
  · cases dollar with
    | true => exact .inr ⟨rfl, hhead⟩
    | false => exact absurd hhead (hdollar rfl)

/-! ### Operators -/

theorem binary {op : BinaryOp} {left right : Node} (hop : op ≠ .range)
    (hleft : PrintsOperand L dollar left) (hright : PrintsOperand L dollar right) :
    PrintsOperand L dollar (.binary span op left right) := by
  have hsmall : op.precedence + 1 ≤ Binding.unary := by cases op <;> decide
  have hprints : Prints L op.precedence _ (.binary span op left right) := prints_binary hop
    (hleft.prints.operand (Nat.le_of_succ_le hsmall)) (hright.prints.operand hsmall)
  exact of_loose (Nat.lt_of_lt_of_le hsmall (by decide)) (hprints.mono (Nat.min_le_left _ _))

theorem range {first last : Node} (hfirst : PrintsOperand L dollar first)
    (hlast : PrintsOperand L dollar last) : PrintsOperand L dollar (.range span first last) :=
  of_loose (by decide : Binding.predicate < Binding.postfixChain)
    (prints_range (hfirst.prints.operand (by decide)) (hlast.prints.operand (by decide)))

theorem unary {op : UnaryOp} {operand : Node} (h : PrintsOperand L dollar operand)
    (hdollar : dollar = true → op = .not →
      (operand.grouped (Binding.unary + 1) operand.bare).toList.head? ≠ some '$') :
    PrintsOperand L dollar (.unary span op operand) := by
  refine of_loose (by decide : Binding.unary < Binding.postfixChain) ?_
  refine prints_unary h.prints.unaryOperand ?_
  rcases h.leadsGrouped with hleads | ⟨hallowed, hhead⟩
  · exact .inl hleads
  · exact .inr ⟨fun hop => hdollar hallowed hop hhead, hhead⟩

theorem ternary {cond thenBranch elseBranch : Node} (hcond : PrintsOperand L dollar cond)
    (hthen : PrintsOperand L dollar thenBranch) (helse : PrintsOperand L dollar elseBranch) :
    PrintsOperand L dollar (.ternary span cond thenBranch elseBranch) :=
  of_loose (by decide : Binding.conditional < Binding.postfixChain)
    (prints_ternary (hcond.prints.operand (by decide))
      ((hthen.prints.operand (by decide)).mono (by decide)) (helse.prints.operand (by decide)))

theorem elvis {left right : Node} (coalesce : Bool) (hleft : PrintsOperand L dollar left)
    (hright : PrintsOperand L dollar right) :
    PrintsOperand L dollar (.elvis span left right coalesce) := by
  have hleft' := hleft.prints.operand (by decide : Binding.disjunction ≤ Binding.unary)
  have hright' := hright.prints.operand (by decide : Binding.conditional ≤ Binding.unary)
  refine of_loose (by decide : Binding.conditional < Binding.postfixChain) ?_
  cases coalesce with
  | true => exact prints_coalesce hleft' hright'
  | false => exact prints_elvis hleft' hright'

theorem assign {target value : Node} (htarget : target.isAssignable = true)
    (h : PrintsOperand L dollar target) (hvalue : PrintsOperand L dollar value) :
    PrintsOperand L dollar (.assign span target value false) := by
  have hbase := h.prints.base (Node.isPostfixStep_of_isAssignable htarget)
  exact of_loose (by decide : Binding.assignment < Binding.postfixChain)
    (prints_assign (hbase.mono (by decide)) htarget (hvalue.prints.operand (by decide)))

theorem step {op : BinaryOp} {inner place : Span} {target old : Node} (hop : op = .add ∨ op = .sub)
    (htarget : target.isAssignable = true) (h : PrintsOperand L dollar target)
    (hold : old.Alike target) :
    PrintsOperand L dollar
      (.assign span target (.binary inner op old (.literal place (.number 1))) true) := by
  have hbase := h.prints.base (Node.isPostfixStep_of_isAssignable htarget)
  rcases hop with rfl | rfl
  · exact ⟨prints_step (s := .plusPlus) rfl hbase htarget hold, nofun,
      fun _ => h.leadsGrouped.append "++"⟩
  · exact ⟨prints_step (s := .minusMinus) rfl hbase htarget hold, nofun,
      fun _ => h.leadsGrouped.append "--"⟩

/-! ### Accesses and calls -/

/-- A member after a point, in front of another point as well if its name does not end with
digits. -/
theorem member {object : Node} {name : String} (h : PrintsOperand L dollar object)
    (hadmits : object.admits name = true) :
    PrintsMember L Writes
        (object.grouped Binding.postfixChain object.bare ++ "." ++ name) object name ∧
      (name.toList.all Char.isDigit = false → PrintsMember L WritesFirm
        (object.grouped Binding.postfixChain object.bare ++ "." ++ name) object name) := by
  simp only [Node.admits, Bool.and_eq_true, Bool.not_eq_true', Bool.and_eq_false_iff] at hadmits
  obtain ⟨⟨hstep, hname⟩, hends⟩ := hadmits
  rcases isMemberText_cases hname with hchars | ⟨q, hint, hnumeral, hvalue⟩
  · have hfirm := firm_memberName (h.prints.base hstep) hchars
    exact ⟨hfirm.writes, fun _ => hfirm⟩
  · obtain ⟨c, hhead, hdigit⟩ := hnumeral.head
    have hdigits : object.endsInDigits = false := hends.resolve_right (by simp [hhead, hdigit])
    obtain ⟨ws, hws, hleft⟩ := h.firmBase hstep hdigits
    have hmember : Word.member? ⟨.number q, name⟩ = some name := if_pos hint
    have hboth {rest : List Char} {us : List Word}
        (hscan : Scans (name.toList ++ rest) (⟨.number q, name⟩ :: us)) :=
      scans_numeralMember hleft hnumeral hscan
    rcases hnumeral with hall | ⟨whole, fraction, htext, hwhole, hfraction⟩
    · refine ⟨⟨ws, _, hws, hmember, fun rest us hrest hscan => hboth ?_⟩, fun hnone => ?_⟩
      · obtain ⟨d, ds, hds⟩ := List.exists_cons_of_ne_nil hall.1
        have hvalue' : Number.ofDecimal? (String.ofList name.toList) = some q := by
          rwa [String.ofList_toList]
        exact scans_number hds (hall.2 d (hds ▸ List.mem_cons_self))
          (number_of_digits hall hrest hvalue') hscan
      · exact absurd (List.all_eq_true.mpr hall.2) (Bool.eq_false_iff.mp hnone)
    · have hfirm : PrintsMember L WritesFirm
          (object.grouped Binding.postfixChain object.bare ++ "." ++ name) object name :=
        ⟨ws, _, hws, hmember, fun rest us hrest hscan =>
          hboth (firm_point htext hwhole hfraction hvalue rest us hrest hscan)⟩
      exact ⟨hfirm.writes, fun _ => hfirm⟩

theorem property {object : Node} {name : String} (h : PrintsOperand L dollar object)
    (hadmits : object.admits name = true) :
    PrintsOperand L dollar (.property span object name) where
  prints := prints_property (h.member hadmits).1
  firm _ _ hdigits := firm_property ((h.member hadmits).2 hdigits)
  leads _ := (h.leadsGrouped.append _).append _

theorem index {object key : Node} (hstep : object.isPostfixStep = false)
    (h : PrintsOperand L dollar object) (hkey : PrintsOperand L dollar key) :
    PrintsOperand L dollar (.index span object key) :=
  of_firm (Nat.le_refl _)
    (prints_index (h.prints.base hstep) (hkey.prints.operand (by decide)))
    (((h.leadsGrouped.append _).append _).append _)

theorem methodCall {object : Node} {name : String} {args : List Node}
    (hadmits : object.admits name = true) (h : PrintsOperand L dollar object)
    (hargs : ∀ arg ∈ args, PrintsOperand L dollar arg) :
    PrintsOperand L dollar (.methodCall span object name args) :=
  of_firm (Nat.le_refl _) (prints_methodCall (h.member hadmits).1 (listed hargs))
    (((((h.leadsGrouped.append _).append _).append _).append _).append _)

theorem call {callee : Node} {args : List Node} (hstep : callee.isPostfixStep = false)
    (hcallable : callee.isCallable = true) (h : PrintsOperand L dollar callee)
    (hargs : ∀ arg ∈ args, PrintsOperand L dollar arg) :
    PrintsOperand L dollar (.call span callee args) :=
  of_firm (Nat.le_refl _) (prints_call (h.prints.base hstep) hcallable (listed hargs))
    (((h.leadsGrouped.append _).append _).append _)

theorem construct {className : Node} {args : List Node} (h : PrintsOperand L dollar className)
    (hargs : ∀ arg ∈ args, PrintsOperand L dollar arg) :
    PrintsOperand L dollar (.construct span className args) := by
  have hall : ∀ arg ∈ className :: args, PrintsOperand L dollar arg :=
    List.forall_mem_cons.mpr ⟨h, hargs⟩
  refine of_firm (by decide) (prints_construct (listed hall)) ?_
  exact .inl (((leads_of_mem rfl (by decide) : Leads "new(").append _).append _)

/-! ### Collections -/

theorem array {items : List Node} (h : ∀ item ∈ items, PrintsOperand L dollar item) :
    PrintsOperand L dollar (.array span items) :=
  of_firm (by decide) (prints_array (listed h))
    (.inl (((leads_of_mem rfl (by decide) : Leads "[").append _).append _))

theorem map {entries : List (Node × Node)}
    (hkeys : ∀ entry ∈ entries, PrintsOperand L dollar entry.1)
    (hvalues : ∀ entry ∈ entries, PrintsOperand L dollar entry.2) :
    PrintsOperand L dollar (.map span entries) := by
  cases entries with
  | nil =>
      exact of_firm (by decide) prints_emptyMap
        (.inl (leads_of_mem rfl (by decide) : Leads "\x7b:\x7d"))
  | cons entry entries =>
      refine of_firm (by decide) (prints_map fun entry hentry => ⟨?_, ?_⟩) ?_
      · exact (hkeys entry hentry).prints.operand (by decide)
      · exact (hvalues entry hentry).prints.operand (by decide)
      · exact .inl (((leads_of_mem rfl (by decide) : Leads "\x7b").append _).append _)

theorem set {items : List Node} (hne : items ≠ [])
    (h : ∀ item ∈ items, PrintsOperand L dollar item) :
    PrintsOperand L dollar (.set span items) := by
  cases items with
  | nil => exact absurd rfl hne
  | cons item items =>
      refine of_firm (by decide) (prints_set (listed h)) ?_
      exact .inl (((leads_of_mem rfl (by decide) : Leads "\x7b").append _).append _)

end PrintsOperand

end Operands

end ScriptEngine

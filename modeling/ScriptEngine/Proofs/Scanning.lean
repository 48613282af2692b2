import ScriptEngine.Proofs.Decimal
import ScriptEngine.Proofs.Word
import ScriptEngine.Token.Lexer

/-!
# Scanning

How a text falls into words, with what follows in sight, so that no word can
grow into the next one.

* `Scans` — characters are read as words, up to the end of the input;
* `Scans.ofChars` — the lexer finds these words;
* `Closes` — characters that no word before them can take up;
* `Writes` — a text that is read as certain words whatever closes it, with one
  lemma for each kind of word;
* `Token.spelled_of_mem_ofSource` — the tokens of a text are spelled as what they are.
-/

namespace ScriptEngine

open Word

/-- Characters that start a comment. -/
def startsComment (cs : List Char) : Bool := cs.take 2 ∈ [['/', '/'], ['/', '*']]

/-- A comment starts with a slash. -/
theorem startsComment_of_ne {c : Char} (hc : c ≠ '/') (cs : List Char) :
    startsComment (c :: cs) = false := by
  simp [startsComment, hc]

/-- Characters are read as words, the last of which is the end of the input. -/
inductive Scans : List Char → List Word → Prop
  | done : Scans [] [final]
  | blank {c : Char} {cs : List Char} {ws : List Word} : Trivia.isSpace c = true →
      Scans cs ws → Scans (c :: cs) ws
  | word {c : Char} {cs taken rest : List Char} {kind : TokenKind} {ws : List Word} :
      Trivia.isSpace c = false → startsComment (c :: cs) = false →
      Lexeme.next c cs = ⟨kind, taken, rest⟩ → rest.length ≤ cs.length → Scans rest ws →
      Scans (c :: cs) (⟨kind, String.ofList taken⟩ :: ws)

/-! ## The lexer -/

/-- Blanks are passed over one by one. -/
theorem skip_blank {c : Char} {cs : List Char} (n : Nat) (hc : Trivia.isSpace c = true) :
    Trivia.skip (n + 1) (c :: cs) =
      (c :: (Trivia.skip n cs).1, (Trivia.skip n cs).2.1, (Trivia.skip n cs).2.2) := by
  have hslash : c ≠ '/' := by
    rintro rfl
    exact absurd hc (by decide)
  rw [Trivia.skip]
  · rw [if_pos hc]
  · exact fun rest heq => absurd heq hslash
  · exact fun rest heq => absurd heq hslash

/-- Nothing is passed over in front of a word. -/
theorem skip_word {c : Char} {cs : List Char} (n : Nat) (hc : Trivia.isSpace c = false)
    (hcomment : startsComment (c :: cs) = false) :
    Trivia.skip (n + 1) (c :: cs) = ([], none, c :: cs) := by
  rw [Trivia.skip]
  · rw [if_neg (by simp [hc])]
  · rintro rest rfl rfl
    exact absurd hcomment (by simp [startsComment])
  · rintro rest rfl rfl
    exact absurd hcomment (by simp [startsComment])

/-- A blank in front of a text only moves the places of its tokens. -/
theorem ofChars_blank {c : Char} (cs : List Char) (fuel pos : Nat)
    (hc : Trivia.isSpace c = true) :
    Token.ofChars (fuel + 1) pos (c :: cs) = Token.ofChars (fuel + 1) (pos + c.utf8Size) cs := by
  have hskip : Trivia.skip (cs.length + 2) (c :: cs) = _ := skip_blank (cs.length + 1) hc
  rw [Token.ofChars, Token.ofChars, List.length_cons, hskip]
  simp only [byteLength, Nat.add_assoc]

/-- The word in front of a text is its first token. -/
theorem ofChars_word {c : Char} {cs taken rest : List Char} {kind : TokenKind} (fuel pos : Nat)
    (hc : Trivia.isSpace c = false) (hcomment : startsComment (c :: cs) = false)
    (hnext : Lexeme.next c cs = ⟨kind, taken, rest⟩) :
    Token.ofChars (fuel + 1) pos (c :: cs) =
      Token.placed kind pos taken :: Token.ofChars fuel (pos + byteLength taken) rest := by
  rw [Token.ofChars, skip_word _ hc hcomment]
  simp only [hnext]
  rfl

/-- **The lexer finds the words of a scan.** -/
theorem Scans.ofChars {cs : List Char} {ws : List Word} (h : Scans cs ws) {fuel : Nat}
    (pos : Nat) (hfuel : cs.length < fuel) :
    (Token.ofChars fuel pos cs).map Token.word = ws := by
  induction h generalizing fuel pos with
  | done =>
      obtain ⟨fuel, rfl⟩ : ∃ k, fuel = k + 1 := ⟨fuel - 1, by omega⟩
      rfl
  | @blank c cs ws hc _ ih =>
      obtain ⟨fuel, rfl⟩ : ∃ k, fuel = k + 1 := ⟨fuel - 1, by omega⟩
      rw [ofChars_blank cs fuel pos hc]
      exact ih _ (Nat.lt_of_succ_lt hfuel)
  | @word c cs taken rest kind ws hc hcomment hnext hrest _ ih =>
      obtain ⟨fuel, rfl⟩ : ∃ k, fuel = k + 1 := ⟨fuel - 1, by omega⟩
      have hlen : rest.length < fuel := Nat.lt_of_le_of_lt hrest (Nat.lt_of_succ_lt_succ hfuel)
      rw [ofChars_word fuel pos hc hcomment hnext, List.map_cons, ih _ hlen]
      rfl

/-- The tokens of a source are the words of its scan. -/
theorem Scans.ofSource {source : String} {ws : List Word} (h : Scans source.toList ws) :
    (Token.ofSource source).map Token.word = ws :=
  h.ofChars 0 (Nat.lt_succ_of_le (Nat.le_of_eq String.length_toList))

/-! ## Texts and what closes them -/

/-- Characters that no word before them takes up: none that goes on with a name or
a number, and no point before a digit. -/
def Closes : List Char → Prop
  | [] => True
  | c :: cs =>
    Lexeme.continuesName c = false ∧ (c = '.' → ∀ d, cs.head? = some d → d.isDigit = false)

/-- A text that is read as certain words, whatever closes it. -/
def Writes (text : String) (ws : List Word) : Prop :=
  ∀ rest us, Closes rest → Scans rest us → Scans (text.toList ++ rest) (ws ++ us)

/-- Characters that go on with no name; a point and digits may be among them. -/
def EndsName (rest : List Char) : Prop :=
  ∀ d, rest.head? = some d → Lexeme.continuesName d = false

/-- A text that is read as certain words even if a point and digits come after it, which only
a number could take up. -/
def WritesFirm (text : String) (ws : List Word) : Prop :=
  ∀ rest us, EndsName rest → Scans rest us → Scans (text.toList ++ rest) (ws ++ us)

/-! ## Characters of names and numbers -/

/-- Digits may go on with a name but not start one. -/
theorem isDigit_name {c : Char} (h : c.isDigit = true) :
    Lexeme.continuesName c = true ∧ Lexeme.startsName c = false := by
  have hrange : 48 ≤ c.toNat ∧ c.toNat ≤ 57 := by
    simpa [Char.isDigit, UInt32.le_iff_toNat_le] using h
  have hascii : c.toNat < 0x80 := by omega
  constructor
  · simp [Lexeme.continuesName, isLetterOrNumber, hascii, Char.isAlphanum, h]
  · have hsmall : ¬65 ≤ c.toNat ∧ ¬97 ≤ c.toNat := by omega
    have hupper : c.isUpper = false :=
      decide_eq_false fun h => hsmall.1 (UInt32.le_iff_toNat_le.mp h.1)
    have hlower : c.isLower = false := by
      have hfirst : ¬c.val ≥ 'a'.val := fun h => hsmall.2 (UInt32.le_iff_toNat_le.mp h)
      show (decide (c.val ≥ 'a'.val) && decide (c.val ≤ 'z'.val)) = false
      rw [decide_eq_false hfirst, Bool.false_and]
    have halpha : c.isAlpha = false := by
      show (c.isUpper || c.isLower) = false
      rw [hupper, hlower, Bool.or_false]
    have hother : c ≠ '_' ∧ c ≠ '$' := by
      constructor
      · rintro rfl
        exact absurd hrange (by decide)
      · rintro rfl
        exact absurd hrange (by decide)
    simp [Lexeme.startsName, isLetter, hascii, halpha, hother]

/-- What may start a name may go on with one, and is neither a digit, a blank, a
quote nor a slash. -/
theorem startsName_plain {c : Char} (h : Lexeme.startsName c = true) :
    Lexeme.continuesName c = true ∧ c.isDigit = false ∧ Trivia.isSpace c = false ∧
      c ≠ '"' ∧ c ≠ '\'' ∧ c ≠ '/' := by
  refine ⟨?_, ?_, ?_, ?_, ?_, ?_⟩
  · simp only [Lexeme.startsName, isLetter, Bool.or_eq_true, decide_eq_true_eq] at h
    simp only [Lexeme.continuesName, isLetterOrNumber, Bool.or_eq_true, decide_eq_true_eq]
    by_cases hascii : c.toNat < 0x80
    · rw [if_pos hascii] at h ⊢
      simp only [Char.isAlphanum, Bool.or_eq_true]
      exact h.imp_left fun h => h.imp_left fun h => .inl h
    · rw [if_neg hascii] at h ⊢
      simp only [Bool.or_eq_true]
      exact h.imp_left fun h => h.imp_left fun h => .inl h
  · cases hd : c.isDigit with
    | false => rfl
    | true => exact absurd h (by rw [(isDigit_name hd).2]; decide)
  · cases hd : Trivia.isSpace c with
    | false => rfl
    | true =>
        simp only [Trivia.isSpace, Bool.or_eq_true, decide_eq_true_eq] at hd
        rcases hd with (((rfl | rfl) | rfl) | rfl) | rfl <;> exact absurd h (by decide)
  all_goals
    rintro rfl
    exact absurd h (by decide)

/-- What closes a text goes on with no name. -/
theorem Closes.head_name {rest : List Char} (h : Closes rest) : EndsName rest := by
  intro d hd
  cases rest with
  | nil => cases hd
  | cons c cs =>
      obtain rfl := Option.some.inj hd
      exact h.1

theorem WritesFirm.writes {text : String} {ws : List Word} (h : WritesFirm text ws) :
    Writes text ws :=
  fun rest us hrest hscan => h rest us hrest.head_name hscan

/-- What goes on with no name goes on with no digits. -/
theorem EndsName.head_digit {rest : List Char} (h : EndsName rest) :
    ∀ d, rest.head? = some d → d.isDigit = false := by
  intro d hd
  cases hdigit : d.isDigit with
  | false => rfl
  | true => exact absurd (h d hd) (by rw [(isDigit_name hdigit).1]; decide)

/-- What closes a text goes on with no number. -/
theorem Closes.head_digit {rest : List Char} (h : Closes rest) :
    ∀ d, rest.head? = some d → d.isDigit = false := h.head_name.head_digit

/-- Characters of a kind, with one of another kind after them, are what is taken
from the front of a text. -/
theorem takeWhile_closed {p : Char → Bool} {cs rest : List Char} (hcs : ∀ c ∈ cs, p c = true)
    (hrest : ∀ d, rest.head? = some d → p d = false) :
    (cs ++ rest).takeWhile p = cs ∧ (cs ++ rest).dropWhile p = rest := by
  rw [List.takeWhile_append_of_pos hcs, List.dropWhile_append_of_pos hcs]
  cases rest with
  | nil => exact ⟨List.append_nil cs, rfl⟩
  | cons d rest =>
      have hd : p d = false := hrest d rfl
      rw [List.takeWhile_cons_of_neg (by simp [hd]), List.dropWhile_cons_of_neg (by simp [hd])]
      exact ⟨List.append_nil cs, rfl⟩

/-! ## Names and reserved words -/

/-- Characters that may be those of a name or a reserved word. -/
def NameChars (cs : List Char) : Prop :=
  ∃ c rest, cs = c :: rest ∧ Lexeme.startsName c = true ∧
    ∀ d ∈ rest, Lexeme.continuesName d = true

/-- What a word of name characters means. -/
def nameKind (name : String) : TokenKind :=
  match Keyword.ofSpelling? name with
  | some keyword => .keyword keyword
  | none => .ident name

/-- **A name or reserved word is read**, whatever goes on with no name. -/
theorem firm_name {name : String} (h : NameChars name.toList) :
    WritesFirm name [⟨nameKind name, name⟩] := by
  intro rest us hends hscan
  obtain ⟨c, cs, hname, hstart, hcs⟩ := h
  obtain ⟨hcontinues, hdigit, hspace, hdouble, hsingle, hslash⟩ := startsName_plain hstart
  have hall : ∀ d ∈ c :: cs, Lexeme.continuesName d = true := by
    intro d hd
    rcases List.mem_cons.mp hd with rfl | hd
    · exact hcontinues
    · exact hcs d hd
  obtain ⟨htake, hdrop⟩ := takeWhile_closed hall hends
  have hnext : Lexeme.next c (cs ++ rest) = ⟨nameKind name, c :: cs, rest⟩ := by
    have hofList : String.ofList (c :: cs) = name := by rw [← hname, String.ofList_toList]
    rw [Lexeme.next, if_neg (by simp [hdigit]), if_neg (by simp [hdouble, hsingle]),
      if_pos hstart, Lexeme.word, ← List.cons_append, htake, hdrop, hofList]
    rfl
  have hcomment := startsComment_of_ne hslash (cs ++ rest)
  rw [hname]
  have hword := Scans.word hspace hcomment hnext (by simp) hscan
  rwa [← hname, String.ofList_toList] at hword

theorem writes_name {name : String} (h : NameChars name.toList) :
    Writes name [⟨nameKind name, name⟩] := (firm_name h).writes

/-- Reserved words are read as such. -/
theorem firm_reserved (k : Keyword) : WritesFirm k.spelling [reserved k] := by
  have hchars : NameChars k.spelling.toList := by
    cases k <;> exact ⟨_, _, rfl, rfl, List.all_eq_true.mp rfl⟩
  have hkind : nameKind k.spelling = .keyword k := by cases k <;> rfl
  have hwrites := firm_name hchars
  rwa [hkind] at hwrites

theorem writes_reserved (k : Keyword) : Writes k.spelling [reserved k] :=
  (firm_reserved k).writes

/-! ## Numbers -/

/-- Digits are neither a blank nor a slash. -/
theorem isDigit_plain {c : Char} (h : c.isDigit = true) :
    Trivia.isSpace c = false ∧ c ≠ '/' := by
  constructor
  · cases hspace : Trivia.isSpace c with
    | false => rfl
    | true =>
        simp only [Trivia.isSpace, Bool.or_eq_true, decide_eq_true_eq] at hspace
        rcases hspace with (((rfl | rfl) | rfl) | rfl) | rfl <;> exact absurd h (by decide)
  · rintro rfl
    exact absurd h (by decide)

/-- Digits with nothing after them that goes on with a number are a number. -/
theorem number_of_digits {ds rest : List Char} {value : Number} (hds : Number.AreDigits ds)
    (hcloses : Closes rest) (hvalue : Number.ofDecimal? (String.ofList ds) = some value) :
    Lexeme.number (ds ++ rest) = ⟨.number value, ds, rest⟩ := by
  obtain ⟨htake, hdrop⟩ := takeWhile_closed hds.2 hcloses.head_digit
  unfold Lexeme.number Lexeme.digits
  rw [htake, hdrop]
  rcases rest with _ | ⟨c, _ | ⟨d, more⟩⟩
  · simp [hvalue]
  · simp [hvalue]
  · by_cases hpoint : c = '.'
    · subst hpoint
      have hd : d.isDigit = false := hcloses.2 rfl d rfl
      simp [hd, hvalue]
    · simp [hpoint, hvalue]

/-- Digits on both sides of a point are a number. -/
theorem number_of_point {whole fraction rest : List Char} {value : Number}
    (hwhole : Number.AreDigits whole) (hfraction : Number.AreDigits fraction)
    (hends : EndsName rest)
    (hvalue : Number.ofDecimal? (String.ofList (whole ++ '.' :: fraction)) = some value) :
    Lexeme.number (whole ++ '.' :: fraction ++ rest) =
      ⟨.number value, whole ++ '.' :: fraction, rest⟩ := by
  have hpoint : ∀ d, ('.' :: fraction ++ rest).head? = some d → d.isDigit = false := by
    intro d hd
    obtain rfl := Option.some.inj hd
    rfl
  obtain ⟨htake, hdrop⟩ := takeWhile_closed hwhole.2 hpoint
  obtain ⟨htake', hdrop'⟩ := takeWhile_closed hfraction.2 hends.head_digit
  obtain ⟨hne, hall⟩ := hfraction
  cases fraction with
  | nil => exact absurd rfl hne
  | cons d fraction =>
      have hd : d.isDigit = true := hall d List.mem_cons_self
      rw [List.append_assoc]
      unfold Lexeme.number Lexeme.digits
      rw [htake, hdrop]
      simp only [List.cons_append, hd, if_true]
      rw [← List.cons_append, htake', hdrop', hvalue]

/-- A number that is not negative and has finitely many places starts with a digit
and is taken whole. -/
theorem number_render {q : Number} {k : Nat} (hq : 0 ≤ q) (h : q.den ∣ 10 ^ k)
    {rest : List Char} (hcloses : Closes rest) :
    ∃ c cs, q.render.toList = c :: cs ∧ c.isDigit = true ∧
      Lexeme.number (q.render.toList ++ rest) = ⟨.number q, q.render.toList, rest⟩ := by
  have hvalue : Number.ofDecimal? (String.ofList q.render.toList) = some q := by
    rw [String.ofList_toList]
    exact Number.ofDecimal_render hq h
  rcases Number.render_eq hq h with ⟨hdigits, -⟩ | ⟨whole, fraction, htext, hwhole, hfraction,
    -⟩
  · obtain ⟨c, cs, htext⟩ := List.exists_cons_of_ne_nil hdigits.1
    have hc : c.isDigit = true := hdigits.2 c (htext ▸ List.mem_cons_self)
    exact ⟨c, cs, htext, hc, number_of_digits hdigits hcloses hvalue⟩
  · obtain ⟨c, cs, hcs⟩ := List.exists_cons_of_ne_nil hwhole.1
    have hc : c.isDigit = true := hwhole.2 c (hcs ▸ List.mem_cons_self)
    refine ⟨c, cs ++ '.' :: fraction, by rw [htext, hcs]; rfl, hc, ?_⟩
    rw [htext] at hvalue ⊢
    exact number_of_point hwhole hfraction hcloses.head_name hvalue

/-- A number that is taken whole is read. -/
theorem scans_number {text : String} {q : Number} {c : Char} {cs rest : List Char}
    {us : List Word} (htext : text.toList = c :: cs) (hdigit : c.isDigit = true)
    (hnumber : Lexeme.number (text.toList ++ rest) = ⟨.number q, text.toList, rest⟩)
    (hscan : Scans rest us) : Scans (text.toList ++ rest) (⟨.number q, text⟩ :: us) := by
  obtain ⟨hspace, hslash⟩ := isDigit_plain hdigit
  have hnext : Lexeme.next c (cs ++ rest) = ⟨.number q, c :: cs, rest⟩ := by
    rw [Lexeme.next, if_pos hdigit, ← List.cons_append, ← htext]
    exact hnumber
  rw [htext]
  have hword := Scans.word hspace (startsComment_of_ne hslash _) hnext (by simp) hscan
  rwa [← htext, String.ofList_toList] at hword

/-- **A number is read**, if it is not negative and has finitely many places. -/
theorem writes_number {q : Number} {k : Nat} (hq : 0 ≤ q) (h : q.den ∣ 10 ^ k) :
    Writes q.render [⟨.number q, q.render⟩] := by
  intro rest us hcloses hscan
  obtain ⟨c, cs, htext, hdigit, hnumber⟩ := number_render hq h hcloses
  exact scans_number htext hdigit hnumber hscan

/-- Digits on both sides of a point are read even if another point comes after them. -/
theorem firm_point {text : String} {whole fraction : List Char} {q : Number}
    (htext : text.toList = whole ++ '.' :: fraction) (hwhole : Number.AreDigits whole)
    (hfraction : Number.AreDigits fraction) (hvalue : Number.ofDecimal? text = some q) :
    WritesFirm text [⟨.number q, text⟩] := by
  intro rest us hends hscan
  obtain ⟨c, cs, hcs⟩ := List.exists_cons_of_ne_nil hwhole.1
  have hdigit : c.isDigit = true := hwhole.2 c (hcs ▸ List.mem_cons_self)
  have hall : text.toList = c :: (cs ++ '.' :: fraction) := by rw [htext, hcs, List.cons_append]
  refine scans_number hall hdigit ?_ hscan
  rw [← String.ofList_toList (s := text), htext] at hvalue
  rw [htext]
  exact number_of_point hwhole hfraction hends hvalue

/-- Digits, or digits on both sides of a point. -/
def IsNumeral (cs : List Char) : Prop :=
  Number.AreDigits cs ∨ ∃ whole fraction, cs = whole ++ '.' :: fraction ∧
    Number.AreDigits whole ∧ Number.AreDigits fraction

/-- **What is read as a number is a numeral** of that value. -/
theorem isNumeral_of_number {c : Char} {cs taken rest : List Char} {q : Number}
    (hdigit : c.isDigit = true) (h : Lexeme.number (c :: cs) = ⟨.number q, taken, rest⟩) :
    taken ++ rest = c :: cs ∧ IsNumeral taken ∧
      Number.ofDecimal? (String.ofList taken) = some q := by
  have hdigits (d : Char) (ds : List Char) (hd : d.isDigit = true) :
      Number.AreDigits ((d :: ds).takeWhile Char.isDigit) := by
    refine ⟨?_, fun e he => List.mem_takeWhile_imp he⟩
    rw [List.takeWhile_cons_of_pos hd]
    exact List.cons_ne_nil _ _
  have hsplit := List.takeWhile_append_dropWhile (p := Char.isDigit) (l := c :: cs)
  have hwhole := hdigits c cs hdigit
  unfold Lexeme.number Lexeme.digits at h
  dsimp only at h
  generalize (c :: cs).takeWhile Char.isDigit = whole at h hsplit hwhole
  generalize (c :: cs).dropWhile Char.isDigit = after at h hsplit
  split at h
  case h_2 => cases h
  case h_1 value hvalue =>
    cases h
    rw [← and_assoc]
    refine ⟨?_, hvalue⟩
    split
    case h_2 => exact ⟨hsplit, .inl hwhole⟩
    case h_1 d more =>
      split
      case isFalse => exact ⟨hsplit, .inl hwhole⟩
      case isTrue hd =>
        refine ⟨?_, .inr ⟨whole, _, rfl, hwhole, hdigits d more hd⟩⟩
        rw [List.append_assoc, List.cons_append, List.takeWhile_append_dropWhile]
        exact hsplit

/-! ## Quoted texts -/

/-- One character of a string literal is read back. -/
theorem stringBody_sourceChar (c : Char) (cs acc : List Char) (fuel : Nat) :
    Lexeme.stringBody '"' (fuel + 1) ⟨acc, none⟩ (Quoted.sourceChar c ++ cs) =
      { Lexeme.stringBody '"' fuel ⟨c :: acc, none⟩ cs with
        taken := Quoted.sourceChar c ++
          (Lexeme.stringBody '"' fuel ⟨c :: acc, none⟩ cs).taken } := by
  by_cases hescape : c ∈ ['"', '\\', '\n', '\t', '\r', '\x00']
  · simp only [List.mem_cons, List.not_mem_nil, or_false] at hescape
    rcases hescape with rfl | rfl | rfl | rfl | rfl | rfl <;> rfl
  · simp only [List.mem_cons, List.not_mem_nil, or_false, not_or] at hescape
    obtain ⟨hquote, hslash, hn, ht, hr, hzero⟩ := hescape
    have hplain : Quoted.sourceChar c = [c] := by
      simp [Quoted.sourceChar, hquote, hslash, hn, ht, hr, hzero]
    rw [hplain, List.singleton_append, Lexeme.stringBody, if_neg hquote, if_neg hslash]
    rfl

/-- The inside of a string literal is read back up to its closing quote. -/
theorem stringBody_source (cs rest acc : List Char) {fuel : Nat} (hfuel : cs.length < fuel) :
    Lexeme.stringBody '"' fuel ⟨acc, none⟩ (cs.flatMap Quoted.sourceChar ++ '"' :: rest) =
      ⟨.text (String.ofList (acc.reverse ++ cs)), cs.flatMap Quoted.sourceChar ++ ['"'],
        rest⟩ := by
  obtain ⟨fuel, rfl⟩ : ∃ k, fuel = k + 1 := ⟨fuel - 1, by omega⟩
  induction cs generalizing acc fuel with
  | nil => simp [Lexeme.stringBody]
  | cons c cs ih =>
      obtain ⟨fuel, rfl⟩ : ∃ k, fuel = k + 1 :=
        ⟨fuel - 1, by simp only [List.length_cons] at hfuel; omega⟩
      rw [List.flatMap_cons, List.append_assoc, stringBody_sourceChar,
        ih (c :: acc) fuel (Nat.lt_of_succ_lt_succ hfuel)]
      simp

/-- A text is at most as long as its string literal. -/
theorem length_le_source (cs : List Char) :
    cs.length ≤ (cs.flatMap Quoted.sourceChar).length := by
  induction cs with
  | nil => exact Nat.le_refl 0
  | cons c cs ih =>
      have hpos : 0 < (Quoted.sourceChar c).length := by
        unfold Quoted.sourceChar
        repeat' split
        all_goals exact Nat.succ_pos _
      rw [List.flatMap_cons, List.length_append, List.length_cons]
      omega

/-- **A quoted text is read back.** -/
theorem firm_text (value : String) :
    WritesFirm (Quoted.source value) [⟨.text value, Quoted.source value⟩] := by
  intro rest us _ hscan
  let body := value.toList.flatMap Quoted.sourceChar
  have htext : (Quoted.source value).toList = '"' :: (body ++ ['"']) := by
    unfold Quoted.source
    rw [String.toList_ofList, List.cons_append]
  have hfuel : value.toList.length < (body ++ '"' :: rest).length + 1 := by
    have hle := length_le_source value.toList
    rw [List.length_append]
    exact Nat.lt_succ_of_le (Nat.le_trans hle (Nat.le_add_right _ _))
  have hnext : Lexeme.next '"' (body ++ '"' :: rest) =
      ⟨.text value, '"' :: (body ++ ['"']), rest⟩ := by
    show Lexeme.string '"' (body ++ '"' :: rest) = _
    unfold Lexeme.string
    rw [stringBody_source value.toList rest [] hfuel]
    simp only [List.reverse_nil, List.nil_append, String.ofList_toList]
    rfl
  have hlen : rest.length ≤ (body ++ '"' :: rest).length := by
    rw [List.length_append, List.length_cons]
    omega
  have hword := Scans.word rfl rfl hnext hlen hscan
  rw [← htext, String.ofList_toList] at hword
  rw [htext, List.cons_append, List.append_assoc]
  exact hword

theorem writes_text (value : String) :
    Writes (Quoted.source value) [⟨.text value, Quoted.source value⟩] := (firm_text value).writes

/-! ## Symbols -/

/-- Whether a symbol and the character after it start a longer symbol or a
comment. -/
def Symbol.joins (s : Symbol) (d : Char) : Bool :=
  startsComment (s.spelling.toList ++ [d]) ||
    longestFirst.any fun long => (s.spelling.toList ++ [d]).isPrefixOf long.spelling.toList

/-- Longer symbols come first, and no two are spelled alike. -/
theorem longestFirst_pairwise : Symbol.longestFirst.Pairwise fun a b =>
    b.spelling.toList.length ≤ a.spelling.toList.length ∧
      a.spelling.toList ≠ b.spelling.toList := by
  decide

theorem mem_longestFirst (s : Symbol) : s ∈ Symbol.longestFirst := by
  cases s <;> decide

/-- The longest symbol in front of a text is found. -/
theorem find_symbol {s : Symbol} {rest : List Char}
    (hfollow : ∀ d, rest.head? = some d → s.joins d = false) :
    (Symbol.longestFirst.find? fun s' =>
      s'.spelling.toList.isPrefixOf (s.spelling.toList ++ rest)) = some s := by
  have hself : s.spelling.toList.isPrefixOf (s.spelling.toList ++ rest) = true :=
    List.isPrefixOf_iff_prefix.mpr (List.prefix_append _ _)
  have hsome : (Symbol.longestFirst.find? fun s' =>
      s'.spelling.toList.isPrefixOf (s.spelling.toList ++ rest)).isSome = true :=
    List.find?_isSome.mpr ⟨s, mem_longestFirst s, hself⟩
  obtain ⟨found, hfound⟩ := Option.isSome_iff_exists.mp hsome
  obtain ⟨hfront, before, after, hlist, hbefore⟩ := List.find?_eq_some_iff_append.mp hfound
  have hfront' := List.isPrefixOf_iff_prefix.mp hfront
  -- a symbol found later is no longer, so only one that goes on behind `s` could be found
  have hlonger : ¬s.spelling.toList.length < found.spelling.toList.length := by
    intro hlt
    cases rest with
    | nil =>
        have := hfront'.length_le
        simp only [List.append_nil] at this
        omega
    | cons d ds =>
        have hjoined : s.spelling.toList ++ [d] <+: found.spelling.toList := by
          refine List.prefix_of_prefix_length_le ?_ hfront' (by simp; omega)
          exact ⟨ds, by simp⟩
        have hjoins : s.joins d = true := by
          unfold Symbol.joins
          rw [Bool.or_eq_true]
          exact .inr (List.any_eq_true.mpr
            ⟨found, mem_longestFirst found, List.isPrefixOf_iff_prefix.mpr hjoined⟩)
        rw [hfollow d rfl] at hjoins
        cases hjoins
  have hmem : s ∈ before ++ found :: after := hlist ▸ mem_longestFirst s
  rcases List.mem_append.mp hmem with hs | hs
  · have := hbefore s hs
    rw [hself] at this
    cases this
  · rcases List.mem_cons.mp hs with rfl | hs
    · exact hfound
    · have hpairwise := longestFirst_pairwise
      rw [hlist] at hpairwise
      obtain ⟨hle, hne⟩ :=
        (List.pairwise_cons.mp (List.pairwise_append.mp hpairwise).2.1).1 s hs
      have heq : found.spelling.toList = s.spelling.toList := by
        obtain ⟨us, hus⟩ := List.prefix_of_prefix_length_le (List.prefix_append _ rest)
          hfront' hle
        have hnil : us = [] := by
          have := congrArg List.length hus
          simp only [List.length_append] at this
          exact List.eq_nil_of_length_eq_zero (by omega)
        rw [← hus, hnil, List.append_nil]
      exact absurd heq hne

/-- A symbol joins no character that stands in no symbol after its first. -/
theorem joins_eq_false {s : Symbol} {d : Char}
    (hcomment : startsComment (s.spelling.toList ++ [d]) = false)
    (h : ∀ long ∈ Symbol.longestFirst, d ∉ long.spelling.toList.tail) : s.joins d = false := by
  unfold Symbol.joins
  rw [hcomment, Bool.false_or, List.any_eq_false]
  intro long hlong hfront
  obtain ⟨us, hus⟩ := List.isPrefixOf_iff_prefix.mp hfront
  have hne : s.spelling.toList ≠ [] := by cases s <;> nofun
  obtain ⟨c, cs, hcs⟩ := List.exists_cons_of_ne_nil hne
  refine h long hlong ?_
  rw [← hus, hcs]
  simp

/-- No symbol joins a blank. -/
theorem joins_blank (s : Symbol) : s.joins ' ' = false := by
  have hcomment : ∀ s ∈ Symbol.longestFirst,
      startsComment (s.spelling.toList ++ [' ']) = false := by decide
  exact joins_eq_false (hcomment s (mem_longestFirst s)) (by decide)

/-- Symbols that no character joins. -/
def Symbol.standsAlone (s : Symbol) : Bool :=
  s ∈ [lparen, rparen, lbracket, rbracket, lbrace, rbrace, comma, semicolon, colon, atSign, hash,
    plusPlus, minusMinus]

theorem joins_standsAlone {s : Symbol} (hs : s.standsAlone = true) (d : Char) :
    s.joins d = false := by
  have hall : ∀ s ∈ [Symbol.lparen, .rparen, .lbracket, .rbracket, .lbrace, .rbrace, .comma,
      .semicolon, .colon, .atSign, .hash, .plusPlus, .minusMinus], s.joins d = false := by
    simp only [List.forall_mem_cons]
    exact ⟨rfl, rfl, rfl, rfl, rfl, rfl, rfl, rfl, rfl, rfl, rfl, rfl, rfl, nofun⟩
  exact hall s (of_decide_eq_true hs)

/-- The first character of a symbol starts no other kind of word. -/
theorem symbol_first (s : Symbol) : ∃ c cs, s.spelling.toList = c :: cs ∧ c.isDigit = false ∧
    c ≠ '"' ∧ c ≠ '\'' ∧ Lexeme.startsName c = false ∧ Trivia.isSpace c = false := by
  cases s <;>
    exact ⟨_, _, rfl, by decide, by decide, by decide, by decide, by decide⟩

/-- **A symbol is read** in front of what it does not join. -/
theorem scans_sign {s : Symbol} {rest : List Char} {us : List Word}
    (hfollow : ∀ d, rest.head? = some d → s.joins d = false) (hscan : Scans rest us) :
    Scans (s.spelling.toList ++ rest) (sign s :: us) := by
  obtain ⟨c, cs, hcs, hdigit, hdouble, hsingle, hname, hspace⟩ := symbol_first s
  have hfind := find_symbol hfollow
  have hlength : s.spelling.length = s.spelling.toList.length := String.length_toList.symm
  have hnext : Lexeme.next c (cs ++ rest) = ⟨.symbol s, s.spelling.toList, rest⟩ := by
    rw [Lexeme.next, if_neg (by simp [hdigit]), if_neg (by simp [hdouble, hsingle]),
      if_neg (by simp [hname]), Lexeme.symbol, ← List.cons_append, ← hcs, hfind]
    dsimp only
    rw [hlength, List.take_left, List.drop_left]
  have hcomment : startsComment (c :: (cs ++ rest)) = false := by
    cases rest with
    | nil =>
        have hall : ∀ s ∈ Symbol.longestFirst, startsComment s.spelling.toList = false := by
          decide
        rw [List.append_nil, ← hcs]
        exact hall s (mem_longestFirst s)
    | cons d ds =>
        have hjoins := hfollow d rfl
        rw [Symbol.joins, Bool.or_eq_false_iff, hcs] at hjoins
        rw [← hjoins.1]
        cases cs <;> rfl
  have hword := Scans.word hspace hcomment hnext (by simp) hscan
  rw [String.ofList_toList] at hword
  rw [hcs]
  exact hword

/-! ## How the tokens of a text are spelled -/

namespace Lexeme

/-- A lexeme that is a symbol or reserved word is written as such. -/
def Spelled (l : Lexeme) : Prop := Word.Spelled ⟨l.kind, String.ofList l.taken⟩

theorem spelled_number (cs : List Char) : (number cs).Spelled := by
  unfold number
  dsimp only
  split <;> trivial

/-- A string literal is neither a symbol nor a reserved word. -/
theorem stringBody_kind (quote : Char) (fuel : Nat) (cooked : Cooked) (cs : List Char) :
    (∃ value, (stringBody quote fuel cooked cs).kind = .text value) ∨
      ∃ reason, (stringBody quote fuel cooked cs).kind = .error reason := by
  fun_induction stringBody quote fuel cooked cs with
  | case1 => exact .inr ⟨_, rfl⟩
  | case2 => exact .inr ⟨_, rfl⟩
  | case3 fuel cooked cs kind =>
      cases hfault : cooked.fault with
      | none => exact .inl ⟨String.ofList cooked.chars.reverse, by simp [kind, hfault]⟩
      | some fault => exact .inr ⟨fault, by simp [kind, hfault]⟩
  | case4 => assumption
  | case5 => assumption

theorem spelled_string (quote : Char) (cs : List Char) : (string quote cs).Spelled := by
  rcases stringBody_kind quote (cs.length + 1) ⟨[], none⟩ cs with ⟨_, hkind⟩ | ⟨_, hkind⟩
  · simp [Spelled, Word.Spelled, string, hkind]
  · simp [Spelled, Word.Spelled, string, hkind]

theorem spelled_word (cs : List Char) : (word cs).Spelled := by
  unfold Spelled word
  dsimp only
  cases hkeyword : Keyword.ofSpelling? (String.ofList (cs.takeWhile continuesName)) with
  | none => trivial
  | some keyword => exact hkeyword

theorem spelled_symbol (c : Char) (cs : List Char) : (symbol c cs).Spelled := by
  unfold symbol
  split
  · rename_i s hfound
    have hfits : s.spelling.toList.isPrefixOf (c :: cs) = true := by
      simpa using List.find?_some hfound
    have htake := List.prefix_iff_eq_take.mp (List.isPrefixOf_iff_prefix.mp hfits)
    show String.ofList ((c :: cs).take s.spelling.length) = s.spelling
    rw [← String.length_toList, ← htake, String.ofList_toList]
  · trivial

theorem spelled_next (c : Char) (cs : List Char) : (next c cs).Spelled := by
  unfold next
  split
  · exact spelled_number _
  · split
    · exact spelled_string c cs
    · split
      · exact spelled_word _
      · exact spelled_symbol c cs

end Lexeme

theorem Token.spelled_ofChars (fuel pos : Nat) (cs : List Char) :
    ∀ token ∈ ofChars fuel pos cs, token.word.Spelled := by
  induction fuel generalizing pos cs with
  | zero => 
    intro token hmem
    rw [List.mem_singleton.mp hmem]
    trivial
  | succ fuel ih =>
      intro token hmem
      unfold ofChars at hmem
      dsimp only at hmem
      split at hmem
      · rcases List.mem_cons.mp hmem with rfl | hmem
        · trivial
        · exact ih _ _ token hmem
      · rw [List.mem_singleton.mp hmem]
        trivial
      · rename_i c rest _ _
        rcases List.mem_cons.mp hmem with rfl | hmem
        · exact Lexeme.spelled_next c rest
        · exact ih _ _ token hmem

/-- **A text has no misspelled tokens.** -/
theorem Token.spelled_of_mem_ofSource {source : String} {token : Token}
    (h : token ∈ ofSource source) : token.word.Spelled :=
  spelled_ofChars _ _ _ token h

end ScriptEngine

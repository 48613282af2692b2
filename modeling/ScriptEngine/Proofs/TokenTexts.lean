import ScriptEngine.Proofs.Tiling
import ScriptEngine.Tree.Printer

/-!
# Tokens apart from their source

A token is read from its own text alone: the same token is found wherever that text is set
off from what comes next by a blank.  So the tokens of a source can be written in a row with
blanks between them, without the comments and whatever else stood there, and a string literal
may stand between any others.

* `SetOff` — what follows a text that is set off from it;
* `Word.Stands` — a word that is read wherever its text is set off;
* `Lexeme.next_stands`, `Token.stands_of_mem_ofSource` — the tokens of a source are such words;
* `scans_row` — words in a row with blanks between them;
* `Token.ofSource_respaced`, `Token.ofSource_quoted` — what is read of such a row.
-/

namespace ScriptEngine

open Word

/-- Nothing, or a blank and whatever follows it. -/
def SetOff (rest : List Char) : Prop := ∀ d, rest.head? = some d → d = ' '

/-- No word grows into a blank. -/
theorem SetOff.closes {rest : List Char} (h : SetOff rest) : Closes rest := by
  cases rest with
  | nil => trivial
  | cons c cs =>
      obtain rfl := h c rfl
      exact ⟨by decide, nofun⟩

/-- **A word that stands by itself**: it is read wherever its text is set off from what comes
next. -/
def Word.Stands (w : Word) : Prop :=
  ∀ rest us, SetOff rest → Scans rest us → Scans (w.literal.toList ++ rest) (w :: us)

/-- A text that is read whatever closes it is read where it is set off. -/
theorem Writes.stands {text : String} {kind : TokenKind} (h : Writes text [⟨kind, text⟩]) :
    Word.Stands ⟨kind, text⟩ :=
  fun rest us hrest hscan => h rest us hrest.closes hscan

/-! ## Escapes and string literals -/

namespace Lexeme

/-- A code point is read from its digits alone. -/
theorem hexCode_local {count code n : Nat} {cs taken rest : List Char}
    (h : hexCode count code cs = (some n, taken, rest)) (more : List Char) :
    hexCode count code (taken ++ more) = (some n, taken, more) := by
  fun_induction hexCode count code cs generalizing taken with
  | case1 =>
      cases h
      rfl
  | case2 count code c cs d hd value taken' rest' hrest ih =>
      cases h
      rw [List.cons_append, hexCode, hd]
      dsimp only
      rw [ih hrest]
  | case3 => cases h
  | case4 => cases h

/-- An escape is read from its own text alone. -/
theorem escape_local {cs taken rest : List Char} {d : Char}
    (h : escape cs = (.ok d, taken, rest)) (more : List Char) :
    escape (taken ++ more) = (.ok d, taken, more) := by
  fun_cases escape cs with
  | case9 cs code digits rest' hcode value =>
      rw [escape, hcode] at h
      obtain ⟨hvalue, htaken⟩ := Prod.mk.inj h
      obtain ⟨rfl, rfl⟩ := Prod.mk.inj htaken
      cases code with
      | none => cases hvalue
      | some n =>
          rw [List.cons_append, escape, hexCode_local hcode more]
          exact congrArg (·, _) hvalue
  | case1 => cases h
  | case10 => simp_all [escape]
  | _ =>
      cases h
      rfl

/-- What was wrong with a string literal before is what is wrong with it. -/
theorem stringBody_fault {quote : Char} {fuel : Nat} {cooked : Cooked} {cs : List Char}
    (h : cooked.fault ≠ none) (value : String) :
    (stringBody quote fuel cooked cs).kind ≠ .text value := by
  fun_induction stringBody quote fuel cooked cs with
  | case1 =>
      intro hkind
      cases hkind
  | case2 =>
      intro hkind
      cases hkind
  | case3 fuel cooked cs kind =>
      obtain ⟨fault, hfault⟩ := Option.ne_none_iff_exists'.mp h
      simp [kind, hfault]
  | case4 fuel cooked cs value' taken rest hescape cooked' tail hquote ih =>
      refine ih ?_
      unfold cooked'
      cases value' with
      | ok d => exact h
      | error fault =>
          obtain ⟨fault', hfault⟩ := Option.ne_none_iff_exists'.mp h
          simp [hfault]
  | case5 fuel cooked c cs hquote hslash tail ih => exact ih h

/-- The rest of a string literal is read from its own text alone, if there are more steps than
characters. -/
theorem stringBody_local {quote : Char} {fuel fuel' : Nat} {cooked : Cooked}
    {cs taken rest : List Char} {value : String}
    (h : stringBody quote fuel cooked cs = ⟨.text value, taken, rest⟩) (more : List Char)
    (hfuel : taken.length < fuel') :
    stringBody quote fuel' cooked (taken ++ more) = ⟨.text value, taken, more⟩ := by
  obtain ⟨fuel', rfl⟩ : ∃ k, fuel' = k + 1 := ⟨fuel' - 1, by omega⟩
  fun_induction stringBody quote fuel cooked cs generalizing taken fuel' with
  | case1 => cases h
  | case2 => cases h
  | case3 fuel cooked cs =>
      rename_i kind
      obtain ⟨hkind, rfl, -⟩ := Lexeme.mk.inj h
      rw [List.singleton_append, stringBody, if_pos rfl, ← hkind]
  | case4 fuel cooked cs found text rest' hescape cooked' tail hquote =>
      rename_i ih
      obtain ⟨hkind, rfl, hrest⟩ := Lexeme.mk.inj h
      have htail : tail = ⟨.text value, tail.taken, rest⟩ := by rw [← hkind, ← hrest]
      simp only [List.length_append, List.length_cons] at hfuel
      obtain ⟨fuel', rfl⟩ : ∃ k, fuel' = k + 1 := ⟨fuel' - 1, by omega⟩
      cases found with
      | error fault =>
          -- the literal would be this error, or one that was there before
          have hfault : cooked'.fault ≠ none := by
            cases hbefore : cooked.fault <;> simp [cooked', hbefore]
          exact absurd hkind (stringBody_fault hfault value)
      | ok d =>
          rw [List.cons_append, List.cons_append, List.append_assoc, stringBody, if_neg hquote,
            if_pos rfl, escape_local hescape]
          dsimp only
          rw [ih htail _ (by omega)]
          rfl
  | case5 fuel cooked c cs hquote hslash tail =>
      rename_i ih
      obtain ⟨hkind, rfl, hrest⟩ := Lexeme.mk.inj h
      have htail : tail = ⟨.text value, tail.taken, rest⟩ := by rw [← hkind, ← hrest]
      simp only [List.length_cons] at hfuel
      obtain ⟨fuel', rfl⟩ : ∃ k, fuel' = k + 1 := ⟨fuel' - 1, by omega⟩
      rw [List.cons_append, stringBody, if_neg hquote, if_neg hslash]
      dsimp only
      rw [ih htail _ (by omega)]

/-! ## Tokens -/

/-- A token that is no error stands by itself. -/
def Stands (l : Lexeme) : Prop :=
  (∀ reason, l.kind ≠ .error reason) → Word.Stands ⟨l.kind, String.ofList l.taken⟩

/-- A token stands by itself if it is taken off the front of its own text, whatever that is
set off from. -/
theorem Stands.of_next {c : Char} {cs taken rest : List Char} {kind : TokenKind}
    (htaken : taken = c :: cs) (hspace : Trivia.isSpace c = false) (hslash : c ≠ '/')
    (hnext : ∀ rest, SetOff rest → next c (cs ++ rest) = ⟨kind, taken, rest⟩) :
    Stands ⟨kind, taken, rest⟩ := by
  intro _ rest us hrest hscan
  have hword := Scans.word hspace (startsComment_of_ne hslash _) (hnext rest hrest) (by simp) hscan
  rwa [String.toList_ofList, htaken, List.cons_append, ← htaken]

/-- Digits, with or without a point and more digits, stand by themselves as a number. -/
theorem stands_of_digits {taken rest : List Char} {reason : LexError}
    (htaken : Number.AreDigits taken ∨ ∃ whole fraction, taken = whole ++ '.' :: fraction ∧
      Number.AreDigits whole ∧ Number.AreDigits fraction) :
    Stands (match Number.ofDecimal? (String.ofList taken) with
      | some value => ⟨.number value, taken, rest⟩
      | none => ⟨.error reason, taken, rest⟩) := by
  cases hvalue : Number.ofDecimal? (String.ofList taken) with
  | none => exact fun hvalid => absurd rfl (hvalid reason)
  | some value =>
      obtain ⟨c, cs, hcs, hdigit⟩ : ∃ c cs, taken = c :: cs ∧ c.isDigit = true := by
        rcases htaken with ⟨hne, hall⟩ | ⟨whole, fraction, rfl, ⟨hne, hall⟩, -⟩
        · obtain ⟨c, cs, rfl⟩ := List.exists_cons_of_ne_nil hne
          exact ⟨c, cs, rfl, hall c List.mem_cons_self⟩
        · obtain ⟨c, cs, rfl⟩ := List.exists_cons_of_ne_nil hne
          exact ⟨c, cs ++ '.' :: fraction, rfl, hall c List.mem_cons_self⟩
      obtain ⟨hspace, hslash⟩ := isDigit_plain hdigit
      refine .of_next hcs hspace hslash fun rest' hrest => ?_
      rw [next, if_pos hdigit, ← List.cons_append, ← hcs]
      rcases htaken with hdigits | ⟨whole, fraction, rfl, hwhole, hfraction⟩
      · exact number_of_digits hdigits hrest.closes hvalue
      · exact number_of_point hwhole hfraction hrest.closes.head_name hvalue

theorem areDigits_digits {c : Char} (hc : c.isDigit = true) (cs : List Char) :
    Number.AreDigits (digits (c :: cs)).1 :=
  ⟨digits_ne hc cs, fun _ hd => List.mem_takeWhile_imp hd⟩

theorem number_stands {c : Char} (hc : c.isDigit = true) (cs : List Char) :
    (number (c :: cs)).Stands := by
  have hwhole := areDigits_digits hc cs
  have hmade : ∀ front : List Char × List Char,
      (Number.AreDigits front.1 ∨ ∃ whole fraction, front.1 = whole ++ '.' :: fraction ∧
        Number.AreDigits whole ∧ Number.AreDigits fraction) →
      Stands (match Number.ofDecimal? (String.ofList front.1) with
        | some value => ⟨.number value, front.1, front.2⟩
        | none => ⟨.error (.unexpectedChar (front.1.headD '0')), front.1, front.2⟩) :=
    fun front hfront => stands_of_digits hfront
  unfold number
  refine hmade _ ?_
  dsimp only
  split
  · rename_i d more _
    split
    · rename_i hd
      exact .inr ⟨_, _, rfl, hwhole, areDigits_digits hd more⟩
    · exact .inl hwhole
  · exact .inl hwhole

theorem word_stands {c : Char} (hc : startsName c = true) (cs : List Char) :
    (word (c :: cs)).Stands := by
  intro _
  have hchars : NameChars ((c :: cs).takeWhile continuesName) := by
    have hcontinues := (startsName_plain hc).1
    refine ⟨c, cs.takeWhile continuesName, by simp [hcontinues], hc, fun d hd => ?_⟩
    exact List.mem_takeWhile_imp hd
  exact (writes_name (by rwa [String.toList_ofList])).stands

theorem string_stands {quote : Char} (hquote : quote = '"' ∨ quote = '\'') (cs : List Char) :
    (string quote cs).Stands := by
  rcases hbody : stringBody quote (cs.length + 1) ⟨[], none⟩ cs with ⟨kind, taken, rest⟩
  have hstring : string quote cs = ⟨kind, quote :: taken, rest⟩ := by rw [string, hbody]
  rw [hstring]
  intro hvalid
  have hkind := stringBody_kind quote (cs.length + 1) ⟨[], none⟩ cs
  rw [hbody] at hkind
  rcases hkind with ⟨value, rfl⟩ | ⟨reason, rfl⟩
  · have hplain : Trivia.isSpace quote = false ∧ quote ≠ '/' ∧ quote.isDigit = false := by
      rcases hquote with rfl | rfl <;> decide
    refine Stands.of_next rfl hplain.1 hplain.2.1 (fun more _ => ?_) hvalid
    rw [next, if_neg (by simp [hplain.2.2]), if_pos hquote, string]
    rw [stringBody_local hbody more (by simp only [List.length_append]; omega)]
  · exact absurd rfl (hvalid reason)

theorem symbol_stands (c : Char) (cs : List Char) : (symbol c cs).Stands := by
  intro hvalid rest us hrest hscan
  have hspelled := spelled_symbol c cs
  unfold symbol at hvalid hspelled ⊢
  split at hspelled
  · rename_i s hfound
    have htext : String.ofList ((c :: cs).take s.spelling.length) = s.spelling := hspelled
    have hfollow : ∀ d, rest.head? = some d → s.joins d = false := by
      intro d hd
      rw [hrest d hd]
      exact joins_blank s
    dsimp only
    rw [htext]
    exact scans_sign hfollow hscan
  · rename_i hnone
    rw [hnone] at hvalid
    exact absurd rfl (hvalid _)

/-- **A token is read from its own text alone**, unless it is an error. -/
theorem next_stands (c : Char) (cs : List Char) : (next c cs).Stands := by
  unfold next
  split
  · exact number_stands ‹_› cs
  · split
    · exact string_stands ‹_› cs
    · split
      · exact word_stands ‹_› cs
      · exact symbol_stands c cs

end Lexeme

/-! ## Tokens in a row -/

namespace Token

theorem stands_ofChars (fuel pos : Nat) (cs : List Char) :
    ∀ t ∈ ofChars fuel pos cs, t.word.Valid → t.kind ≠ .eof → t.word.Stands := by
  induction fuel generalizing pos cs with
  | zero =>
      intro t hmem _ hend
      rw [List.mem_singleton.mp hmem] at hend
      exact absurd rfl hend
  | succ fuel ih =>
      intro t hmem hvalid hend
      unfold ofChars at hmem
      dsimp only at hmem
      split at hmem
      · rcases List.mem_cons.mp hmem with rfl | hmem
        · exact absurd rfl (hvalid _)
        · exact ih _ _ t hmem hvalid hend
      · rw [List.mem_singleton.mp hmem] at hend
        exact absurd rfl hend
      · rename_i c rest _ _
        rcases List.mem_cons.mp hmem with rfl | hmem
        · exact Lexeme.next_stands c rest hvalid
        · exact ih _ _ t hmem hvalid hend

/-- **The tokens of a source stand by themselves**, errors and the end apart. -/
theorem stands_of_mem_ofSource {source : String} {t : Token} (hmem : t ∈ ofSource source)
    (hvalid : t.word.Valid) (hend : t.kind ≠ .eof) : t.word.Stands :=
  stands_ofChars _ _ _ t hmem hvalid hend

end Token

/-- **Words in a row** with blanks between them are read as these words. -/
theorem scans_row {ws : List Word} (h : ∀ w ∈ ws, w.Stands) :
    Scans (" ".intercalate (ws.map Word.literal)).toList (ws ++ [final]) := by
  induction ws with
  | nil => exact .done
  | cons w ws ih =>
      obtain ⟨hw, hws⟩ := List.forall_mem_cons.mp h
      cases ws with
      | nil =>
          have hscan := hw [] [final] nofun .done
          rw [List.append_nil] at hscan
          rw [List.map_singleton, String.intercalate_singleton]
          exact hscan
      | cons w' ws =>
          rw [List.map_cons, List.map_cons, String.intercalate_cons_cons, ← List.map_cons,
            String.toList_append, String.toList_append, List.append_assoc]
          refine hw _ _ ?_ (.blank rfl (ih hws))
          rintro d ⟨⟩
          rfl

/-! ## What is read of a row -/

namespace Token

/-- Tokens of which the first error is none are no errors. -/
theorem valid_of_firstError {tokens : List Token} (h : firstError? tokens = none) :
    ∀ t ∈ tokens, t.word.Valid := by
  intro t hmem reason hkind
  have hnone := List.findSome?_eq_none_iff.mp h t hmem
  have hkind' : t.kind = .error reason := hkind
  simp [lexError?, hkind'] at hnone

/-- The words of a source are those before the end, and the end. -/
theorem words_ofSource (source : String) : (ofSource source).map word =
    ((ofSource source).filter (·.kind ≠ .eof)).map word ++ [final] := by
  obtain ⟨front, hfront, hends⟩ := (ofSource_partitions source).1.ends
  have hkept : front.filter (·.kind ≠ .eof) = front :=
    List.filter_eq_self.mpr fun t ht => decide_eq_true (hends t ht)
  rw [hfront, List.filter_append, hkept, List.filter_singleton]
  simp [word, final]

/-- A text that is read as one word with that text is all of its token. -/
theorem ofSource_of_word {w : Word} (h : (ofSource w.literal).map word = [w, final]) :
    ofSource w.literal =
      [⟨w.kind, ⟨0, w.literal.utf8ByteSize⟩, w.literal⟩,
        ⟨.eof, ⟨w.literal.utf8ByteSize, w.literal.utf8ByteSize⟩, ""⟩] := by
  have htiles : Tiles 0 w.literal.toList (ofSource w.literal) :=
    tiles_ofChars 0 (by rw [String.length_toList]; exact Nat.lt_succ_self _)
  rw [← byteLength_toList]
  generalize ofSource w.literal = tokens at h htiles
  generalize htext : w.literal.toList = text at htiles
  cases htiles with
  | done _ => cases (List.cons_eq_cons.mp h).2
  | token hgap htaken hkind htiles =>
      rename_i gap taken rest kind tokens
      obtain ⟨hword, hrest⟩ := List.cons_eq_cons.mp h
      obtain ⟨rfl, hliteral⟩ := Word.mk.inj hword
      have htaken : w.literal.toList = taken := by
        rw [← hliteral]
        exact String.toList_ofList
      -- the token has all the characters, so nothing stands around it
      have hlength := congrArg List.length (htaken.symm.trans htext)
      simp only [List.length_append] at hlength
      obtain rfl : gap = [] := List.eq_nil_of_length_eq_zero (by omega)
      have hnil : rest = [] := List.eq_nil_of_length_eq_zero (by omega)
      cases htiles with
      | done _ =>
          rw [hnil, List.append_nil, List.nil_append, ← hliteral]
          simp [placed, byteLength]
      | token _ _ hkind' _ => exact absurd (Word.mk.inj (List.cons_eq_cons.mp hrest).1).1 hkind'

/-- A word that stands by itself is read from its text as one token. -/
theorem ofSource_of_stands {w : Word} (h : w.Stands) : ofSource w.literal =
    [⟨w.kind, ⟨0, w.literal.utf8ByteSize⟩, w.literal⟩,
      ⟨.eof, ⟨w.literal.utf8ByteSize, w.literal.utf8ByteSize⟩, ""⟩] := by
  have hscan := h [] [final] nofun .done
  rw [List.append_nil] at hscan
  exact ofSource_of_word hscan.ofSource

/-- **Tokens are independent of their surroundings.**  When a source has no error in it, its
tokens can be written in a row with a blank between each two, and are read again as the same
tokens; and the text of each is read as that token and the end of the input. -/
theorem ofSource_respaced (source : String) (h : firstError? (ofSource source) = none) :
    (ofSource (" ".intercalate
        (((ofSource source).filter (·.kind ≠ .eof)).map literal))).map word =
      (ofSource source).map word ∧
    ∀ t ∈ ofSource source, t.kind ≠ .eof →
      ofSource t.literal =
        [⟨t.kind, ⟨0, t.literal.utf8ByteSize⟩, t.literal⟩,
          ⟨.eof, ⟨t.literal.utf8ByteSize, t.literal.utf8ByteSize⟩, ""⟩] := by
  have hstands : ∀ t ∈ ofSource source, t.kind ≠ .eof → t.word.Stands :=
    fun t ht => stands_of_mem_ofSource ht (valid_of_firstError h t ht)
  refine ⟨?_, fun t ht hend => ofSource_of_stands (hstands t ht hend)⟩
  have hrow : ∀ w ∈ ((ofSource source).filter (·.kind ≠ .eof)).map word, w.Stands := by
    intro w hw
    obtain ⟨t, ht, rfl⟩ := List.mem_map.mp hw
    obtain ⟨hmem, hend⟩ := List.mem_filter.mp ht
    exact hstands t hmem (of_decide_eq_true hend)
  have hscan := scans_row hrow
  rw [List.map_map] at hscan
  rw [words_ofSource source]
  exact hscan.ofSource

/-- A source with comments, symbols that others could grow into, and a string literal with a
comment in it. -/
theorem ofSource_respaced_comment :
    firstError? (ofSource "a/* - */>>=1..2-'\\'//'//") = none ∧
    (ofSource "a >>= 1 .. 2 - '\\'//'").map word =
      (ofSource "a/* - */>>=1..2-'\\'//'//").map word ∧
    ofSource ">>=" = [⟨.symbol .shrEq, ⟨0, 3⟩, ">>="⟩, ⟨.eof, ⟨3, 3⟩, ""⟩] := by
  have h : firstError? (ofSource "a/* - */>>=1..2-'\\'//'//") = none := by decide +kernel
  have htexts : " ".intercalate (((ofSource "a/* - */>>=1..2-'\\'//'//").filter
      (·.kind ≠ .eof)).map literal) = "a >>= 1 .. 2 - '\\'//'" := by decide +kernel
  obtain ⟨hrow, heach⟩ := ofSource_respaced _ h
  rw [htexts] at hrow
  refine ⟨h, hrow, ?_⟩
  exact heach ⟨.symbol .shrEq, ⟨8, 11⟩, ">>="⟩ (by decide +kernel) nofun

end Token

/-- **A token of a source** that is neither an error nor the end, without its place. -/
structure Word.IsToken (w : Word) : Prop where
  valid : w.Valid
  kind_ne : w.kind ≠ .eof
  exists_source : ∃ source, w ∈ (Token.ofSource source).map Token.word

theorem Word.IsToken.stands {w : Word} (h : w.IsToken) : w.Stands := by
  obtain ⟨source, hmem⟩ := h.exists_source
  obtain ⟨t, ht, rfl⟩ := List.mem_map.mp hmem
  exact Token.stands_of_mem_ofSource ht h.valid h.kind_ne

/-- **A quoted text is read back exactly.**  Whatever is in it, the literal is one token, which
covers all of it and means the text.  In a row of tokens, with a blank between each two, it is
read as that token, and so are those before and after it. -/
theorem Token.ofSource_quoted (s : String) :
    ofSource (Literal.text s).render =
      [⟨.text s, ⟨0, (Literal.text s).render.utf8ByteSize⟩, (Literal.text s).render⟩,
        ⟨.eof, ⟨(Literal.text s).render.utf8ByteSize, (Literal.text s).render.utf8ByteSize⟩,
          ""⟩] ∧
    ∀ before after : List Word, (∀ w ∈ before ++ after, w.IsToken) →
      (ofSource (" ".intercalate (before.map Word.literal ++
          (Literal.text s).render :: after.map Word.literal))).map word =
        before ++ ⟨.text s, (Literal.text s).render⟩ :: after ++ [final] := by
  have hstands : Word.Stands ⟨.text s, (Literal.text s).render⟩ := (writes_text s).stands
  have halone := ofSource_of_stands hstands
  refine ⟨halone, fun before after h => ?_⟩
  have hrow : ∀ w ∈ before ++ ⟨.text s, (Literal.text s).render⟩ :: after, w.Stands := by
    intro w hw
    rcases List.mem_append.mp hw with hw | hw
    · exact (h w (List.mem_append_left _ hw)).stands
    · rcases List.mem_cons.mp hw with rfl | hw
      · exact hstands
      · exact (h w (List.mem_append_right _ hw)).stands
  have hscan := scans_row hrow
  rw [List.map_append, List.map_cons] at hscan
  dsimp only at hscan
  exact hscan.ofSource

/-- A text with both quotes, a comment, a backslash and the end of a line in it, between a
name and a division. -/
theorem Token.ofSource_quoted_comment :
    (∀ w ∈ [(⟨.ident "a", "a"⟩ : Word)] ++ [sign .slash], w.IsToken) ∧
    (ofSource "a \"'\\\"/*\\\\\\n\" /").map word =
      [⟨.ident "a", "a"⟩, ⟨.text "'\"/*\\\n", "\"'\\\"/*\\\\\\n\""⟩, sign .slash,
        final] := by
  have h : ∀ w ∈ [(⟨.ident "a", "a"⟩ : Word)] ++ [sign .slash], w.IsToken := by
    have hname : Word.IsToken ⟨.ident "a", "a"⟩ := ⟨nofun, nofun, "a", by decide +kernel⟩
    have hslash : Word.IsToken (sign .slash) := ⟨nofun, nofun, "/", by decide +kernel⟩
    simp [hname, hslash]
  exact ⟨h, (ofSource_quoted "'\"/*\\\n").2 [⟨.ident "a", "a"⟩] [sign .slash] h⟩

end ScriptEngine

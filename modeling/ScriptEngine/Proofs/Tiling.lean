import Mathlib.Data.List.Infix
import ScriptEngine.Proofs.Names

/-!
# Tokens tile their source

The tokens of a source and the text between them cover it from its start to its
end, byte by byte and without overlap.  What lies between two tokens is blank
or a complete comment.

* `Trivia.Complete` — a text of blanks and complete comments, with what follows
  it in sight;
* `Lexeme.next_takes` — the lexer takes its token off the front of a text, and
  takes at least one character;
* `Token.Tiles` — tokens and the text between them, put together, are a text;
* `Token.ofSource_partitions` — the tokens of a source partition it.
-/

namespace ScriptEngine

/-! ## Bytes -/

theorem byteLength_append (cs ds : List Char) :
    byteLength (cs ++ ds) = byteLength cs + byteLength ds := by
  induction cs with
  | nil => simp [byteLength]
  | cons c cs ih => simp [byteLength, ih, Nat.add_assoc]

/-- A text with a character in it occupies a byte. -/
theorem byteLength_pos {cs : List Char} (h : cs ≠ []) : 0 < byteLength cs := by
  cases cs with
  | nil => exact absurd rfl h
  | cons c cs => exact Nat.add_pos_left c.utf8Size_pos _

/-- The size of a source is that of its characters. -/
theorem byteLength_toList (source : String) :
    byteLength source.toList = source.utf8ByteSize := by
  have hlist : ∀ cs : List Char, byteLength cs = (String.ofList cs).utf8ByteSize := by
    intro cs
    induction cs with
    | nil => rfl
    | cons c cs ih =>
        rw [byteLength, ih, String.ofList_cons, String.utf8ByteSize_append,
          String.utf8ByteSize_singleton]
  rw [hlist, String.ofList_toList]

/-- A text is cut after the bytes of its front. -/
theorem splitBytes_append (front rest : List Char) :
    splitBytes (byteLength front) (front ++ rest) = some (front, rest) := by
  induction front with
  | nil => cases rest <;> rfl
  | cons c front ih =>
      obtain ⟨k, hk⟩ : ∃ k, byteLength (c :: front) = k + 1 :=
        Nat.exists_eq_succ_of_ne_zero (byteLength_pos (List.cons_ne_nil c front)).ne'
      have hsum : c.utf8Size + byteLength front = k + 1 := hk
      have hle : c.utf8Size ≤ k + 1 := hsum ▸ Nat.le_add_right _ _
      have hdiff : k + 1 - c.utf8Size = byteLength front := by omega
      rw [hk, List.cons_append, splitBytes, if_pos hle, hdiff, ih]
      rfl

/-- The text at a place between two others. -/
theorem slice_append {source : String} {before covered after : List Char}
    (h : source.toList = before ++ (covered ++ after)) :
    (Span.mk (byteLength before) (byteLength before + byteLength covered)).slice? source =
      some (String.ofList covered) := by
  have hlength : (Span.mk (byteLength before) (byteLength before + byteLength covered)).length =
      byteLength covered := Nat.add_sub_cancel_left ..
  have hle : byteLength before ≤ byteLength before + byteLength covered := Nat.le_add_right _ _
  simp [Span.slice?, hlength, h, splitBytes_append, guard]

/-- Whether a byte is one of those covered. -/
def Span.covers (s : Span) (byte : Nat) : Bool := s.start ≤ byte && byte < s.stop

/-! ## Between tokens -/

namespace Trivia

/-- Blanks and complete comments in front of the text `after`.  A comment to the
end of the line is followed by a line break or by nothing; any other ends where
it is closed for the first time. -/
inductive Complete (after : List Char) : List Char → Prop
  | nil : Complete after []
  | blank {c : Char} {cs : List Char} : isSpace c = true → Complete after cs →
      Complete after (c :: cs)
  | line {line cs : List Char} : '\n' ∉ line →
      (∀ d, (cs ++ after).head? = some d → d = '\n') → Complete after cs →
      Complete after ('/' :: '/' :: line ++ cs)
  | block {inner cs : List Char} : ¬['*', '/'] <:+: inner ++ ['*'] → Complete after cs →
      Complete after ('/' :: '*' :: (inner ++ ['*', '/']) ++ cs)

/-- What is taken as a closed comment ends where it is closed for the first time. -/
theorem blockComment_closed {cs taken rest : List Char}
    (h : blockComment cs = (true, taken, rest)) :
    ∃ inner, taken = inner ++ ['*', '/'] ∧ ¬['*', '/'] <:+: inner ++ ['*'] := by
  fun_induction blockComment cs generalizing taken with
  | case1 cs =>
      obtain ⟨-, rfl, rfl⟩ : true = true ∧ ['*', '/'] = taken ∧ cs = rest := by simpa using h
      exact ⟨[], rfl, by decide⟩
  | case2 c cs hopen closed taken' rest' heq ih =>
      obtain ⟨rfl, rfl, rfl⟩ : closed = true ∧ c :: taken' = taken ∧ rest' = rest := by
        simpa using h
      obtain ⟨inner, htaken, hfirst⟩ := ih heq
      have hcs : taken' ++ rest' = cs := by simpa [heq] using blockComment_append cs
      refine ⟨c :: inner, by rw [htaken]; rfl, fun hinfix => ?_⟩
      rcases List.infix_cons_iff.mp hinfix with hprefix | hinfix
      · -- the first two characters would have closed the comment
        obtain ⟨hc, hslash⟩ := List.cons_prefix_cons.mp hprefix
        cases inner with
        | nil => simp at hslash
        | cons d inner =>
            obtain ⟨hd, -⟩ := List.cons_prefix_cons.mp hslash
            refine hopen (inner ++ ['*', '/'] ++ rest') hc.symm ?_
            rw [← hcs, htaken, ← hd]
            rfl
      · exact hfirst hinfix
  | case3 => simp at h

/-- A comment that is not closed is all the text. -/
theorem blockComment_unclosed {cs taken rest : List Char}
    (h : blockComment cs = (false, taken, rest)) : taken = cs ∧ rest = [] := by
  fun_induction blockComment cs generalizing taken with
  | case1 cs => simp at h
  | case2 c cs hopen closed taken' rest' heq ih =>
      obtain ⟨rfl, rfl, rfl⟩ : closed = false ∧ c :: taken' = taken ∧ rest' = rest := by
        simpa using h
      obtain ⟨rfl, rfl⟩ := ih heq
      exact ⟨rfl, rfl⟩
  | case3 =>
      obtain ⟨rfl, rfl⟩ : [] = taken ∧ [] = rest := by simpa using h
      exact ⟨rfl, rfl⟩

/-- **What is passed over** are blanks and complete comments.  A comment that is
not closed is kept apart. -/
theorem skip_complete {fuel : Nat} {cs passed rest : List Char} {unclosed : Option (List Char)}
    (h : skip fuel cs = (passed, unclosed, rest)) :
    cs = passed ++ (unclosed.getD [] ++ rest) ∧ Complete (unclosed.getD [] ++ rest) passed ∧
      unclosed ≠ some [] := by
  fun_induction skip fuel cs generalizing passed with
  | case1 cs =>
      obtain ⟨rfl, rfl, rfl⟩ : [] = passed ∧ none = unclosed ∧ cs = rest := by simpa using h
      exact ⟨rfl, .nil, by simp⟩
  | case2 fuel cs line passed' unclosed' rest' hskip =>
      rename_i ih
      obtain ⟨rfl, rfl, rfl⟩ :
          '/' :: '/' :: line ++ passed' = passed ∧ unclosed' = unclosed ∧ rest' = rest := by
        simpa using h
      obtain ⟨hcs, hcomplete, hne⟩ := ih hskip
      have hwhole : line ++ cs.dropWhile (· ≠ '\n') = cs := List.takeWhile_append_dropWhile
      refine ⟨?_, .line ?_ ?_ hcomplete, hne⟩
      · rw [List.append_assoc, ← hcs, List.cons_append, List.cons_append, hwhole]
      · intro hmem
        simpa using List.mem_takeWhile_imp hmem
      · intro d hd
        have hstop := List.head?_dropWhile_not (· ≠ '\n') cs
        rw [hcs, hd] at hstop
        simpa using hstop
  | case3 fuel cs taken rest₁ passed' unclosed' rest' hskip hblock ih =>
      obtain ⟨rfl, rfl, rfl⟩ :
          '/' :: '*' :: taken ++ passed' = passed ∧ unclosed' = unclosed ∧ rest' = rest := by
        simpa using h
      obtain ⟨hcs, hcomplete, hne⟩ := ih hskip
      have hcomment : taken ++ rest₁ = cs := by simpa [hblock] using blockComment_append cs
      obtain ⟨inner, rfl, hfirst⟩ := blockComment_closed hblock
      refine ⟨?_, .block hfirst hcomplete, hne⟩
      rw [← hcomment, hcs]
      simp only [List.cons_append, List.append_assoc]
  | case4 fuel cs closed taken rest₁ hblock hopen =>
      obtain ⟨rfl, rfl, rfl⟩ :
          [] = passed ∧ some ('/' :: '*' :: taken) = unclosed ∧ rest₁ = rest := by simpa using h
      obtain rfl : closed = false := by simpa using hopen
      obtain ⟨rfl, rfl⟩ := blockComment_unclosed hblock
      exact ⟨by simp, .nil, by simp⟩
  | case5 fuel c cs _ _ hspace passed' unclosed' rest' hskip ih =>
      obtain ⟨rfl, rfl, rfl⟩ :
          c :: passed' = passed ∧ unclosed' = unclosed ∧ rest' = rest := by simpa using h
      obtain ⟨hcs, hcomplete, hne⟩ := ih hskip
      exact ⟨by rw [hcs]; rfl, .blank hspace hcomplete, hne⟩
  | case6 fuel c cs =>
      obtain ⟨rfl, rfl, rfl⟩ : [] = passed ∧ none = unclosed ∧ c :: cs = rest := by simpa using h
      exact ⟨rfl, .nil, by simp⟩
  | case7 =>
      obtain ⟨rfl, rfl, rfl⟩ : [] = passed ∧ none = unclosed ∧ [] = rest := by simpa using h
      exact ⟨rfl, .nil, by simp⟩

/-- Granting more steps than there are characters passes over nothing more. -/
theorem skip_add {fuel : Nat} {cs : List Char} (extra : Nat) (h : cs.length < fuel) :
    skip (fuel + extra) cs = skip fuel cs := by
  fun_induction skip fuel cs with
  | case1 => exact absurd h (Nat.not_lt_zero _)
  | case2 fuel cs line passed unclosed rest hskip =>
      rename_i ih
      have hlen := (List.dropWhile_suffix (l := cs) (· ≠ '\n')).length_le
      simp only [List.length_cons] at h
      rw [Nat.succ_add, skip, ih (by omega), hskip]
  | case3 fuel cs taken rest₁ passed unclosed rest hskip hblock ih =>
      have hcomment : taken ++ rest₁ = cs := by simpa [hblock] using blockComment_append cs
      have hlen := congrArg List.length hcomment
      simp only [List.length_append, List.length_cons] at h hlen
      rw [Nat.succ_add, skip, hblock]
      simp only [if_true]
      rw [ih (by omega), hskip]
  | case4 fuel cs closed taken rest hblock hopen =>
      rw [Nat.succ_add, skip, hblock]
      simp only [hopen]
      rfl
  | case5 fuel c cs hline hblock hspace passed unclosed rest hskip ih =>
      rw [Nat.succ_add, skip, if_pos hspace, ih (Nat.lt_of_succ_lt_succ h), hskip]
      · exact hline
      · exact hblock
  | case6 fuel c cs hline hblock hspace =>
      rw [Nat.succ_add, skip, if_neg hspace]
      · exact hline
      · exact hblock
  | case7 => rw [Nat.succ_add, skip]

end Trivia

/-! ## Tokens -/

namespace Lexeme

/-- A lexeme that was taken off the front of a text: nothing of it is lost, at
least one character is taken, and it does not pose as the end of the input. -/
structure Takes (x : Lexeme) (cs : List Char) : Prop where
  whole : x.taken ++ x.rest = cs
  taken_ne : x.taken ≠ []
  kind_ne : x.kind ≠ .eof

theorem digits_append (cs : List Char) : (digits cs).1 ++ (digits cs).2 = cs :=
  List.takeWhile_append_dropWhile

theorem digits_ne {c : Char} (hc : c.isDigit = true) (cs : List Char) :
    (digits (c :: cs)).1 ≠ [] := by
  simp [digits, hc]

/-- Digits in front, with or without a point and more digits, are a number. -/
theorem number_takes {c : Char} (hc : c.isDigit = true) (cs : List Char) :
    (number (c :: cs)).Takes (c :: cs) := by
  have hwhole := digits_append (c :: cs)
  have hne := digits_ne hc cs
  have hmade : ∀ (kind : TokenKind) (front : List Char × List Char), kind ≠ .eof →
      front.1 ++ front.2 = c :: cs ∧ front.1 ≠ [] → Takes ⟨kind, front.1, front.2⟩ (c :: cs) :=
    fun _ _ hkind hfront => ⟨hfront.1, hfront.2, hkind⟩
  unfold number
  dsimp only
  split
  all_goals
    refine hmade _ _ (by simp) ?_
    split
    · rename_i d more hrest
      split
      · refine ⟨?_, by simp⟩
        dsimp only
        rw [List.append_assoc, List.cons_append, digits_append, ← hrest]
        exact hwhole
      · exact ⟨hwhole, hne⟩
    · exact ⟨hwhole, hne⟩

/-- A character that starts a name takes all that goes on with it. -/
theorem word_takes {c : Char} (hc : startsName c = true) (cs : List Char) :
    (word (c :: cs)).Takes (c :: cs) where
  whole := List.takeWhile_append_dropWhile
  taken_ne := by
    have hcontinues := (startsName_plain hc).1
    simp [word, hcontinues]
  kind_ne := by
    unfold word
    dsimp only
    split <;> simp

/-- The digits of a code point and the rest are the text. -/
theorem hexCode_append (count code : Nat) (cs : List Char) :
    (hexCode count code cs).2.1 ++ (hexCode count code cs).2.2 = cs := by
  fun_induction hexCode count code cs with
  | case2 count code c cs d hd value taken rest hrest ih =>
      rw [hrest] at ih
      exact congrArg (c :: ·) ih
  | _ => rfl

/-- An escape and the rest are the text. -/
theorem escape_append (cs : List Char) : (escape cs).2.1 ++ (escape cs).2.2 = cs := by
  fun_cases escape cs with
  | case9 cs code taken rest hcode =>
      have happend := hexCode_append 4 0 cs
      rw [hcode] at happend
      exact congrArg ('u' :: ·) happend
  | _ => rfl

/-- The inside of a string literal and the rest are the text. -/
theorem stringBody_append (quote : Char) (fuel : Nat) (cooked : Cooked) (cs : List Char) :
    (stringBody quote fuel cooked cs).taken ++ (stringBody quote fuel cooked cs).rest = cs ∧
      (stringBody quote fuel cooked cs).kind ≠ .eof := by
  fun_induction stringBody quote fuel cooked cs with
  | case1 => exact ⟨rfl, by simp⟩
  | case2 => exact ⟨rfl, by simp⟩
  | case3 fuel cooked cs =>
      refine ⟨rfl, ?_⟩
      rename_i kind
      unfold kind
      split <;> simp
  | case4 fuel cooked cs value taken rest hescape =>
      rename_i ih
      have happend := escape_append cs
      rw [hescape] at happend
      refine ⟨?_, ih.2⟩
      dsimp only
      rw [List.append_assoc, ih.1]
      exact congrArg ('\\' :: ·) happend
  | case5 fuel cooked c cs =>
      rename_i ih
      exact ⟨congrArg (c :: ·) ih.1, ih.2⟩

/-- Granting more steps than there are characters reads the same literal. -/
theorem stringBody_add {quote : Char} {fuel : Nat} {cooked : Cooked} {cs : List Char}
    (extra : Nat) (h : cs.length < fuel) :
    stringBody quote (fuel + extra) cooked cs = stringBody quote fuel cooked cs := by
  fun_induction stringBody quote fuel cooked cs with
  | case1 => exact absurd h (Nat.not_lt_zero _)
  | case2 => rw [Nat.succ_add, stringBody]
  | case3 fuel cooked cs =>
      rw [Nat.succ_add, stringBody, if_pos rfl]
  | case4 fuel cooked cs value taken rest hescape =>
      rename_i hquote ih
      have hlen := congrArg List.length (escape_append cs)
      simp only [hescape, List.length_append, List.length_cons] at h hlen
      rw [Nat.succ_add, stringBody, if_neg hquote, if_pos rfl, hescape]
      exact congrArg (fun tail : Lexeme => { tail with taken := '\\' :: taken ++ tail.taken })
        (ih (by omega))
  | case5 fuel cooked c cs hquote hslash =>
      rename_i ih
      rw [Nat.succ_add, stringBody, if_neg hquote, if_neg hslash]
      exact congrArg (fun tail : Lexeme => { tail with taken := c :: tail.taken })
        (ih (Nat.lt_of_succ_lt_succ h))

theorem string_takes (quote : Char) (cs : List Char) :
    (string quote cs).Takes (quote :: cs) := by
  obtain ⟨happend, hkind⟩ := stringBody_append quote (cs.length + 1) ⟨[], none⟩ cs
  exact ⟨congrArg (quote :: ·) happend, List.cons_ne_nil _ _, hkind⟩

theorem symbol_takes (c : Char) (cs : List Char) : (symbol c cs).Takes (c :: cs) := by
  unfold symbol
  split
  · rename_i s _
    have hspelled : s.spelling.length ≠ 0 := by cases s <;> decide
    refine ⟨List.take_append_drop _ _, ?_, by simp⟩
    simpa using hspelled
  · exact ⟨rfl, List.cons_ne_nil _ _, by simp⟩

/-- **The lexer takes its token off the front of the text.** -/
theorem next_takes (c : Char) (cs : List Char) : (next c cs).Takes (c :: cs) := by
  unfold next
  split
  · exact number_takes ‹_› cs
  · split
    · exact string_takes c cs
    · split
      · exact word_takes ‹_› cs
      · exact symbol_takes c cs

end Lexeme

/-! ## Sources -/

namespace Token

/-- Tokens that tile a text from byte `pos` on: each lies behind blanks and
complete comments, none but the last is the end of the input, and that lies at
the end of the text. -/
inductive Tiles : (pos : Nat) → List Char → List Token → Prop
  | done {pos : Nat} {gap : List Char} : Trivia.Complete [] gap →
      Tiles pos gap [⟨.eof, ⟨pos + byteLength gap, pos + byteLength gap⟩, ""⟩]
  | token {pos : Nat} {gap taken rest : List Char} {kind : TokenKind} {tokens : List Token} :
      Trivia.Complete (taken ++ rest) gap → taken ≠ [] → kind ≠ .eof →
      Tiles (pos + byteLength gap + byteLength taken) rest tokens →
      Tiles pos (gap ++ (taken ++ rest)) (placed kind (pos + byteLength gap) taken :: tokens)

/-- What one step of the lexer does: it comes to the end of the text, or it finds
a token behind some blanks and comments. -/
theorem ofChars_succ (pos : Nat) (cs : List Char) :
    (Trivia.Complete [] cs ∧ ∀ fuel, ofChars (fuel + 1) pos cs =
      [⟨.eof, ⟨pos + byteLength cs, pos + byteLength cs⟩, ""⟩]) ∨
    ∃ gap taken rest kind, cs = gap ++ (taken ++ rest) ∧ Trivia.Complete (taken ++ rest) gap ∧
      taken ≠ [] ∧ kind ≠ .eof ∧ ∀ fuel, ofChars (fuel + 1) pos cs =
        placed kind (pos + byteLength gap) taken ::
          ofChars fuel (pos + byteLength gap + byteLength taken) rest := by
  obtain ⟨⟨passed, unclosed, rest⟩, hskip⟩ :
      ∃ skipped, Trivia.skip (cs.length + 1) cs = skipped := ⟨_, rfl⟩
  obtain ⟨hcs, hcomplete, hne⟩ := Trivia.skip_complete hskip
  cases unclosed with
  | some comment =>
      have hcomment : comment ≠ [] := fun h => hne (congrArg some h)
      refine .inr ⟨passed, comment, rest, .error .unterminatedComment, hcs, hcomplete, hcomment,
        by simp, fun fuel => ?_⟩
      rw [ofChars, hskip]
  | none =>
      rw [Option.getD_none, List.nil_append] at hcs hcomplete
      cases rest with
      | nil =>
          rw [List.append_nil] at hcs
          subst hcs
          refine .inl ⟨hcomplete, fun fuel => ?_⟩
          rw [ofChars, hskip]
      | cons c rest =>
          obtain ⟨hwhole, htaken, hkind⟩ := Lexeme.next_takes c rest
          rw [← hwhole] at hcomplete
          refine .inr ⟨passed, _, _, _, hwhole ▸ hcs, hcomplete, htaken, hkind, fun fuel => ?_⟩
          rw [ofChars, hskip]

/-- Behind a token there is less text. -/
theorem length_lt_of_taken {cs gap taken rest : List Char} (hcs : cs = gap ++ (taken ++ rest))
    (htaken : taken ≠ []) : rest.length < cs.length := by
  have hpos := List.length_pos_iff.mpr htaken
  rw [hcs, List.length_append, List.length_append]
  omega

/-- **The tokens of a text tile it**, if there are more steps than characters. -/
theorem tiles_ofChars {fuel : Nat} {cs : List Char} (pos : Nat) (hfuel : cs.length < fuel) :
    Tiles pos cs (ofChars fuel pos cs) := by
  induction fuel generalizing cs pos with
  | zero => exact absurd hfuel (Nat.not_lt_zero _)
  | succ fuel ih =>
      rcases ofChars_succ pos cs with
        ⟨hcomplete, hstep⟩ | ⟨gap, taken, rest, kind, hcs, hcomplete, htaken, hkind, hstep⟩
      · rw [hstep]
        exact .done hcomplete
      · have hlen := length_lt_of_taken hcs htaken
        rw [hstep, hcs]
        exact .token hcomplete htaken hkind (ih _ (by omega))

/-- Granting still more steps changes nothing. -/
theorem ofChars_add {fuel : Nat} {cs : List Char} (pos extra : Nat) (hfuel : cs.length < fuel) :
    ofChars (fuel + extra) pos cs = ofChars fuel pos cs := by
  induction fuel generalizing cs pos with
  | zero => exact absurd hfuel (Nat.not_lt_zero _)
  | succ fuel ih =>
      have hfuel' : fuel + 1 + extra = fuel + extra + 1 := Nat.add_right_comm ..
      rcases ofChars_succ pos cs with
        ⟨_, hstep⟩ | ⟨gap, taken, rest, kind, hcs, _, htaken, _, hstep⟩
      · rw [hfuel', hstep, hstep]
      · have hlen := length_lt_of_taken hcs htaken
        rw [hfuel', hstep, hstep, ih _ (by omega)]

/-- The places in front of some tokens, from byte `pos` on, that none of them
covers. -/
def gaps : (pos : Nat) → List Token → List Span
  | _, [] => []
  | pos, t :: rest => ⟨pos, t.span.start⟩ :: gaps t.span.stop rest

section Tiles

variable {pos : Nat} {cs : List Char} {tokens : List Token}

/-- The end of the input is the last of tokens that tile a text, and no other. -/
theorem Tiles.ends (h : Tiles pos cs tokens) :
    ∃ front, tokens = front ++ [⟨.eof, ⟨pos + byteLength cs, pos + byteLength cs⟩, ""⟩] ∧
      ∀ t ∈ front, t.kind ≠ .eof := by
  induction h with
  | done => exact ⟨[], rfl, by simp⟩
  | @token pos gap taken rest kind tokens _ _ hkind _ ih =>
      obtain ⟨front, hfront, hall⟩ := ih
      refine ⟨placed kind (pos + byteLength gap) taken :: front, ?_, ?_⟩
      · rw [hfront]
        simp only [byteLength_append, Nat.add_assoc, List.cons_append]
      · exact List.forall_mem_cons.mpr ⟨hkind, hall⟩

/-- Tokens that tile a text are not empty, except for its end. -/
theorem Tiles.start_lt_stop (h : Tiles pos cs tokens) :
    ∀ t ∈ tokens, t.kind ≠ .eof → t.span.start < t.span.stop := by
  induction h with
  | done => simp
  | @token pos gap taken rest kind tokens _ htaken _ _ ih =>
      refine List.forall_mem_cons.mpr ⟨fun _ => ?_, ih⟩
      exact Nat.lt_add_of_pos_right (byteLength_pos htaken)

/-- Tokens that tile a text lie in it. -/
theorem Tiles.le_start (h : Tiles pos cs tokens) : ∀ t ∈ tokens, pos ≤ t.span.start := by
  induction h with
  | done => simp
  | @token pos gap taken rest kind tokens _ _ _ _ ih =>
      refine List.forall_mem_cons.mpr ⟨Nat.le_add_right _ _, fun t ht => ?_⟩
      have hle := ih t ht
      omega

/-- Tokens that tile a text lie one after the other. -/
theorem Tiles.pairwise (h : Tiles pos cs tokens) :
    tokens.Pairwise fun a b => a.span.stop ≤ b.span.start := by
  induction h with
  | done => exact List.pairwise_singleton _ _
  | token _ _ _ hrest ih => exact List.pairwise_cons.mpr ⟨hrest.le_start, ih⟩

/-- Each byte of a text lies either in one of the tokens that tile it or between
two of them. -/
theorem Tiles.countP_covers (h : Tiles pos cs tokens) (b : Nat) :
    (gaps pos tokens).countP (·.covers b) + (tokens.map span).countP (·.covers b) =
      if pos ≤ b ∧ b < pos + byteLength cs then 1 else 0 := by
  induction h with
  | @done pos gap =>
      simp only [gaps, Span.covers, List.countP_cons, List.countP_nil, List.map_cons,
        List.map_nil, Bool.and_eq_true, decide_eq_true_eq]
      split_ifs <;> omega
  | @token pos gap taken rest kind tokens _ _ _ _ ih =>
      have hlength := byteLength_append gap (taken ++ rest)
      have hlength' := byteLength_append taken rest
      simp only [gaps, placed, Span.covers, List.countP_cons, List.map_cons, Bool.and_eq_true,
        decide_eq_true_eq] at ih ⊢
      split_ifs at ih ⊢ <;> omega

variable {source : String} (before : List Char)

/-- Tokens that tile a part of a source are what stands there. -/
theorem Tiles.slice (h : Tiles pos cs tokens) (hpos : pos = byteLength before)
    (hsource : source.toList = before ++ cs) :
    ∀ t ∈ tokens, t.span.slice? source = some t.literal := by
  induction h generalizing before with
  | @done pos gap =>
      have hend : source.toList = (before ++ gap) ++ ([] ++ []) := by simp [hsource]
      have hslice := slice_append hend
      rw [byteLength_append, ← hpos] at hslice
      exact List.forall_mem_singleton.mpr hslice
  | @token pos gap taken rest kind tokens _ _ _ _ ih =>
      have hplace : byteLength (before ++ gap) = pos + byteLength gap := by
        rw [byteLength_append, hpos]
      have hwhole : source.toList = (before ++ gap) ++ (taken ++ rest) := by
        rw [hsource, List.append_assoc]
      refine List.forall_mem_cons.mpr ⟨?_, ih (before ++ gap ++ taken) ?_ ?_⟩
      · have hslice := slice_append hwhole
        rw [hplace] at hslice
        exact hslice
      · rw [byteLength_append, hplace]
      · rw [hwhole, List.append_assoc (before ++ gap)]

/-- Between tokens that tile a part of a source stand blanks and complete
comments. -/
theorem Tiles.complete (h : Tiles pos cs tokens) (hpos : pos = byteLength before)
    (hsource : source.toList = before ++ cs) :
    ∀ gap ∈ gaps pos tokens, ∃ text after, gap.slice? source = some text ∧
      (Span.mk gap.stop source.utf8ByteSize).slice? source = some after ∧
      Trivia.Complete after.toList text.toList := by
  have hfirst : ∀ {pos : Nat} {before gap after : List Char}, pos = byteLength before →
      source.toList = before ++ (gap ++ after) → Trivia.Complete after gap →
      ∃ text rest, (Span.mk pos (pos + byteLength gap)).slice? source = some text ∧
        (Span.mk (pos + byteLength gap) source.utf8ByteSize).slice? source = some rest ∧
        Trivia.Complete rest.toList text.toList := by
    intro pos before gap after hpos hsource hcomplete
    have hafter : source.toList = (before ++ gap) ++ (after ++ []) := by simp [hsource]
    have hsize : source.utf8ByteSize = byteLength (before ++ gap) + byteLength after := by
      rw [← byteLength_toList, hafter, byteLength_append, List.append_nil]
    have hslice := slice_append hafter
    rw [← hsize, byteLength_append, ← hpos] at hslice
    refine ⟨String.ofList gap, String.ofList after, ?_, hslice, ?_⟩
    · rw [hpos]
      exact slice_append hsource
    · rwa [String.toList_ofList, String.toList_ofList]
  induction h generalizing before with
  | @done pos gap hcomplete =>
      have hend : source.toList = before ++ (gap ++ []) := by simp [hsource]
      exact List.forall_mem_singleton.mpr (hfirst hpos hend hcomplete)
  | @token pos gap taken rest kind tokens hcomplete _ _ _ ih =>
      refine List.forall_mem_cons.mpr ⟨hfirst hpos hsource hcomplete, ?_⟩
      refine ih (before ++ (gap ++ taken)) ?_ ?_
      · rw [byteLength_append, byteLength_append, hpos, Nat.add_assoc]
      · rw [hsource, List.append_assoc, List.append_assoc]

end Tiles

/-- Tokens that partition a source. -/
structure Partitions (source : String) (tokens : List Token) : Prop where
  /-- The end of the input comes last, at the end of the source, and only there. -/
  ends : ∃ front, tokens =
      front ++ [⟨.eof, ⟨source.utf8ByteSize, source.utf8ByteSize⟩, ""⟩] ∧
    ∀ t ∈ front, t.kind ≠ .eof
  /-- All others cover something. -/
  start_lt_stop : ∀ t ∈ tokens, t.kind ≠ .eof → t.span.start < t.span.stop
  /-- They come in the order of the source and do not overlap. -/
  ordered : tokens.Pairwise fun a b => a.span.stop ≤ b.span.start
  /-- The text of each is that of its place, which ends between characters. -/
  slice : ∀ t ∈ tokens, t.span.slice? source = some t.literal
  /-- What none of them covers are blanks and complete comments. -/
  complete : ∀ gap ∈ gaps 0 tokens, ∃ text after, gap.slice? source = some text ∧
    (Span.mk gap.stop source.utf8ByteSize).slice? source = some after ∧
    Trivia.Complete after.toList text.toList
  /-- Every byte is in one token or one place between tokens, and in no other. -/
  covered : ∀ b < source.utf8ByteSize,
    (gaps 0 tokens).countP (·.covers b) + (tokens.map span).countP (·.covers b) = 1

/-- Tokens that tile a whole source partition it. -/
theorem Tiles.partitions {source : String} {tokens : List Token}
    (h : Tiles 0 source.toList tokens) : Partitions source tokens where
  ends := by
    have hends := h.ends
    rwa [Nat.zero_add, byteLength_toList] at hends
  start_lt_stop := h.start_lt_stop
  ordered := h.pairwise
  slice := h.slice [] rfl rfl
  complete := h.complete [] rfl rfl
  covered b hb := by
    rw [h.countP_covers b, byteLength_toList, Nat.zero_add, if_pos ⟨Nat.zero_le b, hb⟩]

/-- **The lexer partitions its input.**  Its tokens cover every source up to blanks
and complete comments, in order and without overlap, and no place lies behind the
end of the source.  It comes to an end: the steps granted for a source, for the
blanks before a token and for a string literal are enough, for with more of them
the outcome is the same. -/
theorem ofSource_partitions (source : String) :
    Partitions source (ofSource source) ∧
      ∀ extra, ofChars (source.length + 1 + extra) 0 source.toList = ofSource source ∧
        (∀ cs, Trivia.skip (cs.length + 1 + extra) cs = Trivia.skip (cs.length + 1) cs) ∧
        ∀ quote cooked cs, Lexeme.stringBody quote (cs.length + 1 + extra) cooked cs =
          Lexeme.stringBody quote (cs.length + 1) cooked cs := by
  have hfuel : source.toList.length < source.length + 1 := by
    rw [String.length_toList]
    exact Nat.lt_succ_self _
  refine ⟨(tiles_ofChars 0 hfuel).partitions, fun extra => ⟨ofChars_add 0 extra hfuel, ?_, ?_⟩⟩
  · exact fun cs => Trivia.skip_add extra (Nat.lt_succ_self _)
  · exact fun quote cooked cs => Lexeme.stringBody_add extra (Nat.lt_succ_self _)

end Token

end ScriptEngine

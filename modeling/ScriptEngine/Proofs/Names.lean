import ScriptEngine.Proofs.Scanning

/-!
# Names

A name is a text that the lexer reads as one identifier.  Nothing stands around
the identifier then, so that the text is made of name characters and is no
reserved word.

* `IsName` — one identifier and nothing else;
* `skip_append`, `next_ident` — what the lexer passes over, and where an
  identifier comes from;
* `IsName.writes` — a name is read as an identifier wherever it stands.
-/

namespace ScriptEngine

open Word

/-- A text that is read as one identifier with that text as its name. -/
def IsName (name : String) : Prop :=
  (Token.ofSource name).map Token.kind = [.ident name, .eof]

/-! ## What the lexer passes over -/

/-- A block comment and what follows it are the text it was found in. -/
theorem blockComment_append (cs : List Char) :
    (Trivia.blockComment cs).2.1 ++ (Trivia.blockComment cs).2.2 = cs := by
  fun_induction Trivia.blockComment cs with
  | case1 cs => rfl
  | case2 c cs _ closed taken rest heq ih =>
      rw [heq] at ih
      rw [List.cons_append, ih]
  | case3 => rfl

/-- What is passed over and what is left are the text it was found in, unless a
comment stays open. -/
theorem skip_append {n : Nat} {cs passed rest : List Char}
    (h : Trivia.skip n cs = (passed, none, rest)) : passed ++ rest = cs := by
  fun_induction Trivia.skip n cs generalizing passed rest with
  | case1 cs =>
      cases h
      rfl
  | case2 n cs line passed' unclosed rest' hskip =>
      rename_i ih
      cases h
      rw [List.append_assoc, ih hskip, List.cons_append, List.cons_append,
        List.takeWhile_append_dropWhile]
  | case3 n cs taken rest' passed' unclosed rest'' hskip hblock ih =>
      cases h
      have hcomment := blockComment_append cs
      rw [hblock] at hcomment
      rw [List.append_assoc, ih hskip, List.cons_append, List.cons_append]
      exact congrArg (fun cs => '/' :: '*' :: cs) hcomment
  | case4 => cases h
  | case5 n c cs _ _ _ passed' unclosed rest' hskip ih =>
      cases h
      rw [List.cons_append, ih hskip]
  | case6 =>
      cases h
      rfl
  | case7 =>
      cases h
      rfl

/-! ## Where identifiers come from -/

/-- The rest of a string literal is no identifier. -/
theorem stringBody_kind_ne {quote : Char} {fuel : Nat} {cooked : Lexeme.Cooked} {cs : List Char}
    {name : String} : (Lexeme.stringBody quote fuel cooked cs).kind ≠ .ident name := by
  induction fuel generalizing cooked cs with
  | zero => nofun
  | succ fuel ih =>
      cases cs with
      | nil => nofun
      | cons c cs =>
          unfold Lexeme.stringBody
          split
          · dsimp only
            split <;> nofun
          · split
            · exact ih
            · exact ih

/-- An identifier comes from characters of a name. -/
theorem next_ident {c : Char} {cs : List Char} {name : String}
    (h : (Lexeme.next c cs).kind = .ident name) :
    Lexeme.startsName c = true ∧ Keyword.ofSpelling? name = none ∧
      name = String.ofList ((c :: cs).takeWhile Lexeme.continuesName) := by
  unfold Lexeme.next at h
  split at h
  · unfold Lexeme.number at h
    dsimp only at h
    split at h <;> cases h
  · split at h
    · exact absurd h stringBody_kind_ne
    · split at h
      case isTrue hstart =>
        unfold Lexeme.word at h
        dsimp only at h
        split at h
        case h_1 => cases h
        case h_2 hnone =>
          obtain rfl := TokenKind.ident.inj h
          exact ⟨hstart, hnone, rfl⟩
      case isFalse =>
        unfold Lexeme.symbol at h
        split at h <;> cases h

/-- **A name is made of name characters and is no reserved word.** -/
theorem IsName.nameChars {name : String} (h : IsName name) :
    NameChars name.toList ∧ Keyword.ofSpelling? name = none := by
  unfold IsName Token.ofSource Token.ofChars at h
  rcases hskip : Trivia.skip (name.toList.length + 1) name.toList with ⟨passed, unclosed, rest⟩
  rw [hskip] at h
  cases unclosed with
  | some comment => cases (List.cons_eq_cons.mp h).1
  | none =>
      cases rest with
      | nil => cases (List.cons_eq_cons.mp h).1
      | cons c cs =>
          obtain ⟨hstart, hnone, hname⟩ := next_ident (List.cons_eq_cons.mp h).1
          have htext := skip_append hskip
          -- the name is as long as the text it is read from, so nothing stands around it
          have htaken : name.toList = (c :: cs).takeWhile Lexeme.continuesName := by
            rw [hname, String.toList_ofList]
          have hlength : ((c :: cs).takeWhile Lexeme.continuesName).length ≤
              (c :: cs).length := (List.takeWhile_sublist _).length_le
          have hpassed : passed = [] := by
            have := congrArg List.length htext
            rw [List.length_append, htaken] at this
            exact List.eq_nil_of_length_eq_zero (by omega)
          subst hpassed
          have hall : name.toList = c :: cs := htext.symm
          rw [hall] at htaken
          refine ⟨⟨c, cs, hall, hstart, fun d hd => ?_⟩, hnone⟩
          exact List.takeWhile_eq_self_iff.mp htaken.symm d (List.mem_cons_of_mem c hd)

/-- **A name is read as an identifier** wherever it stands. -/
theorem IsName.firm {name : String} (h : IsName name) :
    WritesFirm name [⟨.ident name, name⟩] := by
  obtain ⟨hchars, hnone⟩ := h.nameChars
  have hwrites := firm_name hchars
  rwa [nameKind, hnone] at hwrites

theorem IsName.writes {name : String} (h : IsName name) : Writes name [⟨.ident name, name⟩] :=
  h.firm.writes

end ScriptEngine

import ScriptEngine.Proofs.PairedReading
import ScriptEngine.Token.Lexer

/-!
# Heads of function literals

Whether a `(` opens a function literal or a group is decided before anything of it is read, by
looking ahead for the whole head: names in parentheses with commas between them, and an arrow.
The head is then read a second time, name by name.  Both go by the same grammar, so that what
was found ahead is what is read; only a name that comes twice can still be wrong with it.

* `IsLambdaHead` — tokens that are a head, with the names in it;
* `Grammar.lambdaAhead_iff` — looking ahead finds a head and nothing else;
* `Grammar.lambdaAhead_append` — looking ahead in a source that goes on;
* `Grammar.lambdaHead`, `Grammar.lambdaTail` — a function literal, up to its arrow and after;
* `Grammar.parameters_reads`, `Grammar.parameters_ok` — a list of parameters is read;
* `Grammar.lambdaAhead_agrees` — looking ahead and reading.
-/

namespace ScriptEngine

/-- What the names of a head are written as, with the bracket behind them. -/
def parameterKinds (names : List String) : List TokenKind :=
  (names.map TokenKind.ident).intersperse (.symbol .comma) ++ [.symbol .rparen]

/-- A sign between the parameters of a function and its body. -/
def Symbol.IsArrow (sign : Symbol) : Prop := sign = .arrow ∨ sign = .fatArrow

/-- **The head of a function literal**: names with commas between them, in parentheses, and an
arrow.  There may be no name; after the last one there is no comma. -/
def IsLambdaHead (names : List String) (head : List Token) : Prop :=
  ∃ sign : Symbol, sign.IsArrow ∧
    head.map Token.kind = .symbol .lparen :: (parameterKinds names ++ [.symbol sign])

/-- Tokens whose kinds are known, the first of them and the rest. -/
theorem exists_cons_of_map_kind {tokens : List Token} {kind : TokenKind} {kinds : List TokenKind}
    (h : tokens.map Token.kind = kind :: kinds) :
    ∃ span text rest, tokens = ⟨kind, span, text⟩ :: rest ∧ rest.map Token.kind = kinds := by
  obtain ⟨⟨_, span, text⟩, rest, rfl, rfl, hrest⟩ := List.map_eq_cons_iff.mp h
  exact ⟨span, text, rest, rfl, hrest⟩

/-- After a name there is the bracket, or a comma and more names. -/
theorem exists_of_parameterKinds {params : List Token} {name : String} {names : List String}
    (h : params.map Token.kind = parameterKinds (name :: names)) :
    ∃ span text more, params = ⟨.ident name, span, text⟩ :: more ∧
      ((names = [] ∧ ∃ span' text', more = [⟨.symbol .rparen, span', text'⟩]) ∨
        (names ≠ [] ∧ ∃ span' text' params', more = ⟨.symbol .comma, span', text'⟩ :: params' ∧
          params'.map Token.kind = parameterKinds names)) := by
  cases names with
  | nil =>
      obtain ⟨span, text, more, rfl, hmore⟩ := exists_cons_of_map_kind h
      obtain ⟨span', text', rest, rfl, hrest⟩ := exists_cons_of_map_kind hmore
      obtain rfl := List.map_eq_nil_iff.mp hrest
      exact ⟨span, text, _, rfl, .inl ⟨rfl, span', text', rfl⟩⟩
  | cons next names =>
      obtain ⟨span, text, more, rfl, hmore⟩ := exists_cons_of_map_kind h
      obtain ⟨span', text', params', rfl, hparams⟩ := exists_cons_of_map_kind hmore
      exact ⟨span, text, _, rfl, .inr ⟨List.cons_ne_nil _ _, span', text', params', rfl, hparams⟩⟩

/-- A head begins with a bracket and ends with its arrow. -/
theorem IsLambdaHead.exists_params {names : List String} {head : List Token}
    (h : IsLambdaHead names head) :
    ∃ span text params sign span' text', head =
        ⟨.symbol .lparen, span, text⟩ :: (params ++ [⟨.symbol sign, span', text'⟩]) ∧
      params.map Token.kind = parameterKinds names ∧ sign.IsArrow := by
  obtain ⟨sign, hsign, hkinds⟩ := h
  obtain ⟨span, text, more, rfl, hmore⟩ := exists_cons_of_map_kind hkinds
  obtain ⟨params, arrow, rfl, hparams, harrow⟩ := List.map_eq_append_iff.mp hmore
  obtain ⟨span', text', rest, rfl, hrest⟩ := exists_cons_of_map_kind harrow
  obtain rfl := List.map_eq_nil_iff.mp hrest
  exact ⟨span, text, params, sign, span', text', rfl, hparams, hsign⟩

/-- A head has at least a token for each name. -/
theorem IsLambdaHead.length_le {names : List String} {head : List Token}
    (h : IsLambdaHead names head) : names.length ≤ head.length := by
  obtain ⟨sign, -, hkinds⟩ := h
  have hlength := congrArg List.length hkinds
  rw [List.length_map] at hlength
  simp only [parameterKinds, List.length_cons, List.length_append, List.length_intersperse,
    List.length_map] at hlength
  omega

/-- Names in parentheses and an arrow are a head. -/
theorem IsLambdaHead.of_params {names : List String} {params : List Token} {sign : Symbol}
    (hparams : params.map Token.kind = parameterKinds names) (hsign : sign.IsArrow)
    (span span' : Span) (text text' : String) :
    IsLambdaHead names
      (⟨.symbol .lparen, span, text⟩ :: (params ++ [⟨.symbol sign, span', text'⟩])) :=
  ⟨sign, hsign, by simp [hparams]⟩

namespace Grammar

open Parse

/-! ## Looking ahead -/

/-- An arrow is what the two lookups ask for. -/
theorem isArrow_iff {sign : Symbol} :
    (sign = .arrow || sign = .fatArrow : Bool) = true ↔ sign.IsArrow := by
  simp [Symbol.IsArrow]

/-- The names of a head are found ahead, and nothing else, when there is a name at all. -/
theorem parametersAhead_iff {tokens : List Token} :
    parametersAhead tokens = true ↔ ∃ names params span text rest sign, names ≠ [] ∧
      tokens = params ++ ⟨.symbol sign, span, text⟩ :: rest ∧
      params.map Token.kind = parameterKinds names ∧ sign.IsArrow := by
  constructor
  · intro h
    fun_induction parametersAhead tokens with
    | case1 name span text span' text' rest ih =>
        obtain ⟨names, params, span₁, text₁, rest, sign, hnames, rfl, hkinds, hsign⟩ := ih h
        obtain ⟨next, names, rfl⟩ := List.exists_cons_of_ne_nil hnames
        refine ⟨name :: next :: names,
          ⟨.ident name, span, text⟩ :: ⟨.symbol .comma, span', text'⟩ :: params, span₁, text₁,
          rest, sign, List.cons_ne_nil _ _, rfl, ?_, hsign⟩
        rw [List.map_cons, List.map_cons, hkinds]
        rfl
    | case2 name span text span' text' sign span₁ text₁ rest =>
        exact ⟨[name], [⟨.ident name, span, text⟩, ⟨.symbol .rparen, span', text'⟩], span₁, text₁,
          rest, sign, List.cons_ne_nil _ _, rfl, rfl, isArrow_iff.mp h⟩
    | case3 => cases h
  · rintro ⟨names, params, span, text, rest, sign, hnames, rfl, hkinds, hsign⟩
    induction names generalizing params with
    | nil => exact absurd rfl hnames
    | cons name names ih =>
        obtain ⟨_, _, _, rfl, ⟨rfl, _, _, rfl⟩ | ⟨hmore, _, _, params', rfl, hparams⟩⟩ :=
          exists_of_parameterKinds hkinds
        · exact isArrow_iff.mpr hsign
        · exact ih params' hmore hparams

/-- **Looking ahead finds a head and nothing else.** -/
theorem lambdaAhead_iff {tokens : List Token} {span : Span} {text : String} :
    lambdaAhead (⟨.symbol .lparen, span, text⟩ :: tokens) = true ↔
      ∃ names head, IsLambdaHead names head ∧
        head <+: ⟨.symbol .lparen, span, text⟩ :: tokens := by
  constructor
  · intro h
    unfold lambdaAhead at h
    split at h
    · rename_i span' text' sign span₁ text₁ rest htokens
      obtain ⟨-, rfl⟩ := List.cons.inj htokens
      have hhead : IsLambdaHead [] (⟨.symbol .lparen, span, text⟩ ::
          ([⟨.symbol .rparen, span', text'⟩] ++ [⟨.symbol sign, span₁, text₁⟩])) :=
        .of_params rfl (isArrow_iff.mp h) span span₁ text text₁
      exact ⟨[], _, hhead, rest, rfl⟩
    · cases h
    · rename_i htokens
      obtain ⟨-, rfl⟩ := List.cons.inj htokens
      obtain ⟨names, params, span', text', rest, sign, -, rfl, hparams, hsign⟩ :=
        parametersAhead_iff.mp h
      refine ⟨names, _, .of_params hparams hsign span span' text text', rest, ?_⟩
      simp
    · cases h
  · rintro ⟨names, head, hhead, rest, htokens⟩
    obtain ⟨_, _, params, sign, span', text', rfl, hparams, hsign⟩ := hhead.exists_params
    obtain ⟨-, rfl⟩ := List.cons.inj htokens
    rw [List.append_eq, List.append_assoc, List.singleton_append]
    cases names with
    | nil =>
        obtain ⟨_, _, _, rfl, hmore⟩ := exists_cons_of_map_kind hparams
        obtain rfl := List.map_eq_nil_iff.mp hmore
        exact isArrow_iff.mpr hsign
    | cons name names =>
        have hahead := parametersAhead_iff.mpr ⟨name :: names, params, span', text', rest, sign,
          List.cons_ne_nil _ _, rfl, hparams, hsign⟩
        obtain ⟨_, _, _, rfl, -⟩ := exists_of_parameterKinds hparams
        exact hahead

end Grammar

/-! ## Sources that go on -/

/-- Whether a token of this kind goes on with the head of a function literal. -/
def TokenKind.continuesHead : TokenKind → Bool
  | .ident _ | .symbol .comma | .symbol .rparen | .symbol .arrow | .symbol .fatArrow => true
  | _ => false

section

variable {rest : List Token} (h : ∀ token ∈ rest.head?, token.kind.continuesHead = false)

include h

/-- A token of a head is found in the source itself. -/
theorem cons_of_append_eq_cons {tokens more : List Token} {token : Token}
    (hsplit : tokens ++ rest = token :: more) (hkind : token.kind.continuesHead = true) :
    ∃ tokens', tokens = token :: tokens' ∧ tokens' ++ rest = more := by
  rcases List.append_eq_cons_iff.mp hsplit with ⟨-, hrest⟩ | ⟨tokens', htokens, hmore⟩
  · subst hrest
    exact absurd (hkind.symm.trans (h token rfl)) nofun
  · exact ⟨tokens', htokens, hmore.symm⟩

omit h in
/-- A sign that goes on with no head is no arrow. -/
theorem arrow_eq_false {sign : Symbol} (hsign : (TokenKind.symbol sign).continuesHead = false) :
    (sign = .arrow || sign = .fatArrow : Bool) = false := by
  have harrow : sign ≠ .arrow := by
    rintro rfl
    cases hsign
  have hfat : sign ≠ .fatArrow := by
    rintro rfl
    cases hsign
  simp [harrow, hfat]

/-- The rest of a parameter list is found in the source itself. -/
theorem Grammar.parametersAhead_append (tokens : List Token) :
    parametersAhead (tokens ++ rest) = parametersAhead tokens := by
  fun_induction parametersAhead tokens with
  | case1 name span text span' text' tokens ih => simpa [parametersAhead] using ih
  | case2 => simp [parametersAhead]
  | case3 tokens hcomma hparen =>
      -- neither a comma nor a bracket comes next, so none is found with what follows either
      unfold parametersAhead
      split
      · rename_i hsplit
        obtain ⟨after, rfl, hafter⟩ := cons_of_append_eq_cons h hsplit rfl
        obtain ⟨more, rfl, -⟩ := cons_of_append_eq_cons h hafter rfl
        exact (hcomma _ _ _ _ _ _ rfl).elim
      · rename_i sign _ _ _ hsplit
        obtain ⟨after, rfl, hafter⟩ := cons_of_append_eq_cons h hsplit rfl
        obtain ⟨more, rfl, hmore⟩ := cons_of_append_eq_cons h hafter rfl
        cases hsign : (TokenKind.symbol sign).continuesHead with
        | false => exact arrow_eq_false hsign
        | true =>
            obtain ⟨tokens, rfl, -⟩ := cons_of_append_eq_cons h hmore hsign
            exact (hparen _ _ _ _ _ _ _ _ _ rfl).elim
      · rfl

/-- The head of a function literal is found in the source itself. -/
theorem Grammar.lambdaAhead_append {tokens : List Token} (hhere : tokens ≠ []) :
    lambdaAhead (tokens ++ rest) = lambdaAhead tokens := by
  fun_cases lambdaAhead tokens with
  | case1 => simp [lambdaAhead]
  | case2 first span text tokens hsign =>
      show lambdaAhead (first :: ⟨.symbol .rparen, span, text⟩ :: (tokens ++ rest)) = false
      unfold lambdaAhead
      split
      · rename_i sign _ _ _ hsplit
        have hmore := (List.cons.inj (List.cons.inj hsplit).2).2
        cases hsign' : (TokenKind.symbol sign).continuesHead with
        | false => exact arrow_eq_false hsign'
        | true =>
            obtain ⟨tokens, rfl, -⟩ := cons_of_append_eq_cons h hmore hsign'
            exact (hsign _ _ _ _ rfl).elim
      · rfl
      · rename_i hparen hsplit
        exact (hparen _ _ _ (List.cons.inj hsplit).2.symm).elim
      · rfl
  | case3 first tokens hsign hparen =>
      show lambdaAhead (first :: (tokens ++ rest)) = parametersAhead tokens
      rw [← parametersAhead_append h]
      have hnone {span : Span} {text : String} {more : List Token}
          (hsplit : tokens ++ rest = ⟨.symbol .rparen, span, text⟩ :: more) : False := by
        obtain ⟨after, rfl, -⟩ := cons_of_append_eq_cons h hsplit rfl
        exact hparen _ _ _ rfl
      unfold lambdaAhead
      split
      · rename_i hsplit
        exact (hnone (List.cons.inj hsplit).2).elim
      · rename_i hsplit
        exact (hnone (List.cons.inj hsplit).2).elim
      · rename_i hsplit
        rw [(List.cons.inj hsplit).2]
      · rename_i hsplit
        cases hsplit
  | case4 => exact absurd rfl hhere

end

/-! ## Passing tokens -/

/-- The state with some tokens passed, and others ahead. -/
def Progress.past (s : Progress) (passed rest : List Token) : Progress :=
  { s with cursor := ⟨passed.reverse ++ s.cursor.before, rest⟩ }

namespace Progress

variable {s : Progress} {token : Token} {passed passed' rest rest' : List Token}

@[simp]
theorem past_after : (s.past passed rest).cursor.after = rest := rfl

@[simp]
theorem past_past : (s.past passed rest).past passed' rest' = s.past (passed ++ passed') rest' := by
  simp [past]

theorem advance_eq_past (h : s.cursor.after = token :: rest) : s.advance = s.past [token] rest := by
  obtain ⟨⟨before, after⟩, loops, scopes, pragmas⟩ := s
  obtain rfl : after = token :: rest := h
  rfl

theorem current_eq_of_after (h : s.cursor.after = token :: rest) : s.cursor.current = token := by
  rw [Cursor.current, h]
  rfl

/-- A token of a kind other than the end is there. -/
theorem exists_after_of_kind {kind : TokenKind} (h : s.cursor.currentKind = kind)
    (hend : kind ≠ .eof) : ∃ span text rest, s.cursor.after = ⟨kind, span, text⟩ :: rest := by
  cases hafter : s.cursor.after with
  | nil =>
      rw [Cursor.currentKind, Cursor.current, hafter] at h
      exact absurd h.symm hend
  | cons token rest =>
      have hkind : token.kind = kind := by rw [← h, Cursor.currentKind, current_eq_of_after hafter]
      exact ⟨token.span, token.literal, rest, by rw [← hkind]⟩

theorem check_eq_of_after (h : s.cursor.after = token :: rest) (kind : TokenKind) :
    s.cursor.check kind = decide (token.kind = kind) := by
  rw [Cursor.check, Cursor.currentKind, current_eq_of_after h]

end Progress

namespace Grammar

open Parse Progress

/-! ## Reading -/

variable {g : Grammar} {d : Dialect} {s : Progress}

/-- A name that is there is passed. -/
theorem expectIdent_bind {β : Type} {name : String} (next : String × Span → Parse β)
    (h : s.cursor.currentKind = .ident name) :
    (expectIdent >>= next) d s = next (name, s.cursor.current.span) d s.advance := by
  unfold expectIdent
  rw [bind_assoc, currentKind_bind, h]
  rfl

/-- Something else is a violation. -/
theorem expectIdent_fails {β : Type} (next : String × Span → Parse β)
    (h : ∀ name, s.cursor.currentKind ≠ .ident name) : (expectIdent >>= next) d s =
      .error ⟨.unexpected s.cursor.currentKind "identifier", s.cursor.currentSpan⟩ := by
  unfold expectIdent
  rw [bind_assoc, currentKind_bind]
  split
  · exact absurd ‹_› (h _)
  · rfl

/-- A name is added to the parameters, unless it is one of them; then there is a comma and more
names, or the closing bracket. -/
theorem parameterList_ident {params : List String} {name : String}
    (h : s.cursor.currentKind = .ident name) : g.parameterList params d s =
      if params.contains name = true then
        .error ⟨.duplicateParameter name, s.cursor.current.span⟩
      else if s.advance.cursor.check (.symbol .comma) = true then
        g.parameters (params ++ [name]) d s.advance.advance
      else if s.advance.cursor.check (.symbol .rparen) = true then
        .ok (params ++ [name], s.advance.advance)
      else .error ⟨.unexpected s.advance.cursor.currentKind "')'",
        s.advance.cursor.currentSpan⟩ := by
  unfold parameterList
  rw [expectIdent_bind _ h]
  dsimp only
  by_cases hname : params.contains name = true
  · rw [if_pos hname, addParameter, if_pos hname]
    rfl
  · rw [if_neg hname, addParameter, if_neg hname]
    simp only [pure_bind]
    rw [eat_bind]
    simp only [if_true, Bool.false_eq_true, if_false]
    rw [expect_bind]
    rfl

/-- A name that comes a second time is a violation. -/
theorem parameterList_again {params : List String} {name : String} {span : Span} {text : String}
    {rest : List Token} (hafter : s.cursor.after = ⟨.ident name, span, text⟩ :: rest)
    (hname : name ∈ params) :
    g.parameterList params d s = .error ⟨.duplicateParameter name, span⟩ := by
  have hcurrent := current_eq_of_after hafter
  rw [parameterList_ident (congrArg Token.kind hcurrent), if_pos (by simpa using hname), hcurrent]

/-- The last name is followed by the bracket. -/
theorem parameterList_last {params : List String} {name : String} {span span' : Span}
    {text text' : String} {rest : List Token} (hafter : s.cursor.after =
      ⟨.ident name, span, text⟩ :: ⟨.symbol .rparen, span', text'⟩ :: rest)
    (hname : name ∉ params) : g.parameterList params d s = .ok (params ++ [name],
      s.past [⟨.ident name, span, text⟩, ⟨.symbol .rparen, span', text'⟩] rest) := by
  have hcurrent := current_eq_of_after hafter
  rw [parameterList_ident (congrArg Token.kind hcurrent), if_neg (by simpa using hname),
    advance_eq_past hafter, check_eq_of_after past_after, check_eq_of_after past_after,
    advance_eq_past past_after, past_past]
  rfl

/-- Any other name is followed by a comma and more names. -/
theorem parameterList_more {params : List String} {name : String} {span span' : Span}
    {text text' : String} {rest : List Token} (hafter : s.cursor.after =
      ⟨.ident name, span, text⟩ :: ⟨.symbol .comma, span', text'⟩ :: rest)
    (hname : name ∉ params) : g.parameterList params d s = g.parameters (params ++ [name]) d
      (s.past [⟨.ident name, span, text⟩, ⟨.symbol .comma, span', text'⟩] rest) := by
  have hcurrent := current_eq_of_after hafter
  rw [parameterList_ident (congrArg Token.kind hcurrent), if_neg (by simpa using hname),
    advance_eq_past hafter, check_eq_of_after past_after, if_pos (decide_eq_true rfl),
    advance_eq_past past_after, past_past]
  rfl

/-- **The parameters that are there are read**, up to the closing bracket, unless a name comes
twice.  The violation is where it comes again. -/
theorem parameters_reads {n : Nat} {names params : List String} {tokens rest : List Token}
    (hafter : s.cursor.after = tokens ++ rest)
    (hkinds : tokens.map Token.kind = parameterKinds names) (hne : names ≠ [])
    (hn : names.length ≤ n) (hparams : params.Nodup) :
    (params ++ names).Nodup ∧
        (upTo n).parameters params d s = .ok (params ++ names, s.past tokens rest) ∨
      ¬(params ++ names).Nodup ∧ ∃ front t back name, tokens = front ++ t :: back ∧
        t.kind = .ident name ∧ (name ∈ params ∨ ∃ t' ∈ front, t'.kind = .ident name) ∧
        (upTo n).parameters params d s = .error ⟨.duplicateParameter name, t.span⟩ := by
  induction names generalizing s params tokens n with
  | nil => exact absurd rfl hne
  | cons name names ih =>
      obtain ⟨n, rfl⟩ : ∃ k, n = k + 1 := ⟨n - 1, by simp at hn; omega⟩
      obtain ⟨span, text, more, rfl, hmore⟩ := exists_of_parameterKinds hkinds
      by_cases hname : name ∈ params
      · refine .inr ⟨fun h => ?_, [], _, more, name, rfl, rfl, .inl hname,
          parameterList_again (g := upTo n) hafter hname⟩
        exact (List.nodup_append.mp h).2.2 name hname name List.mem_cons_self rfl
      have hparams' : (params ++ [name]).Nodup := by
        refine List.nodup_append.mpr ⟨hparams, by simp, ?_⟩
        rintro a ha b hb rfl
        exact hname (List.mem_singleton.mp hb ▸ ha)
      rcases hmore with ⟨rfl, span', text', rfl⟩ | ⟨hnames, span', text', params', rfl, hkinds'⟩
      · exact .inl ⟨hparams', parameterList_last (g := upTo n) hafter hname⟩
      have hstep : (upTo (n + 1)).parameters params d s = _ :=
        parameterList_more (g := upTo n) (d := d) hafter hname
      rw [hstep, List.append_cons]
      rcases ih (n := n) (s := s.past _ (params' ++ rest)) past_after hkinds' hnames
          (Nat.le_of_succ_le_succ hn) hparams' with
        ⟨hnodup, hread⟩ | ⟨hdup, front, t, back, name', rfl, ht, hbefore, hread⟩
      · rw [past_past] at hread
        exact .inl ⟨hnodup, hread⟩
      · refine .inr ⟨hdup, ⟨.ident name, span, text⟩ :: ⟨.symbol .comma, span', text'⟩ :: front,
          t, back, name', rfl, ht, ?_, hread⟩
        -- the first of the two names is among the parameters, this one or further on
        rcases hbefore with hbefore | ⟨t', hmem, ht'⟩
        · refine (List.mem_append.mp hbefore).imp_right fun hlast => ?_
          exact ⟨_, List.mem_cons_self, List.mem_singleton.mp hlast ▸ rfl⟩
        · exact .inr ⟨t', List.mem_cons_of_mem _ (List.mem_cons_of_mem _ hmem), ht'⟩

/-- **What is read as parameters** are names with commas between them, and a bracket. -/
theorem parameters_ok {n : Nat} {names params : List String} {t : Progress}
    (h : (upTo n).parameters params d s = .ok (names, t)) :
    ∃ more passed, more ≠ [] ∧ s.cursor.after = passed ++ t.cursor.after ∧
      passed.map Token.kind = parameterKinds more := by
  induction n generalizing s params with
  | zero => cases h
  | succ n ih =>
      have hstep : (upTo n).parameterList params d s = .ok (names, t) := h
      by_cases hident : ∃ name, s.cursor.currentKind = .ident name
      · obtain ⟨name, hkind⟩ := hident
        obtain ⟨span, text, rest, hafter⟩ := exists_after_of_kind hkind nofun
        rw [parameterList_ident hkind, advance_eq_past hafter] at hstep
        split at hstep
        · cases hstep
        split at hstep
        · rename_i hcomma
          obtain ⟨span', text', rest', hafter'⟩ :=
            exists_after_of_kind (of_decide_eq_true hcomma) nofun
          obtain ⟨more, passed, hne, hpassed, hkinds⟩ := ih hstep
          rw [advance_eq_past hafter', past_after] at hpassed
          rw [past_after] at hafter'
          refine ⟨name :: more, ⟨.ident name, span, text⟩ :: ⟨.symbol .comma, span', text'⟩ ::
            passed, List.cons_ne_nil _ _, ?_, ?_⟩
          · rw [hafter, hafter', hpassed]
            rfl
          · obtain ⟨next, more, rfl⟩ := List.exists_cons_of_ne_nil hne
            rw [List.map_cons, List.map_cons, hkinds]
            rfl
        split at hstep
        · rename_i hparen
          obtain ⟨span', text', rest', hafter'⟩ :=
            exists_after_of_kind (of_decide_eq_true hparen) nofun
          cases hstep
          refine ⟨[name], [⟨.ident name, span, text⟩, ⟨.symbol .rparen, span', text'⟩],
            List.cons_ne_nil _ _, ?_, rfl⟩
          rw [advance_eq_past hafter', past_after, hafter]
          rw [past_after] at hafter'
          rw [hafter']
          rfl
        · cases hstep
      · unfold parameterList at hstep
        rw [expectIdent_fails _ (not_exists.mp hident)] at hstep
        cases hstep

/-- A function literal up to its arrow: the parameters. -/
def lambdaHead (g : Grammar) : Parse (List String) := do
  let params ← g.lambdaParameters
  unless ← eat (.symbol .arrow) do
    let _ ← expect (.symbol .fatArrow)
  return params

/-- A function literal after its arrow; `position` is where it begins. -/
def lambdaTail (g : Grammar) (start : Span) (position : Nat) (params : List String) :
    Parse Node := do
  let body ← inFunction do
    declareAll start params
    if ← check (.symbol .lbrace) then g.block else g.expr
  return .lambda (← spanFrom start) ⟨(← read).unit, position⟩ params body

/-- A function literal is its head and what comes after. -/
theorem lambda_eq (g : Grammar) : g.lambda = (do
    let start ← currentSpan
    require .lambda start
    let position := (← cursor).position + 1
    let params ← g.lambdaHead
    g.lambdaTail start position params) := by
  simp only [lambda, lambdaHead, lambdaTail, bind_assoc]
  refine bind_congr fun start => bind_congr fun _ => bind_congr fun c => ?_
  refine bind_congr fun params => bind_congr fun found => ?_
  split <;> simp only [pure_bind, bind_assoc]

/-- With the feature, a function literal that begins here is read as its head and the rest. -/
theorem lambda_enabled (hfeature : d.features.has .lambda = true) : g.lambda d s =
    (g.lambdaHead >>= g.lambdaTail s.cursor.currentSpan (s.cursor.position + 1)) d s := by
  rw [lambda_eq, currentSpan_bind, require_bind, if_pos hfeature, cursor_bind]

/-- The parameters in brackets. -/
theorem lambdaParameters_lparen {span : Span} {text : String} {rest : List Token}
    (hafter : s.cursor.after = ⟨.symbol .lparen, span, text⟩ :: rest) :
    g.lambdaParameters d s =
      if s.advance.cursor.check (.symbol .rparen) = true then .ok ([], s.advance.advance)
      else g.parameters [] d s.advance := by
  unfold lambdaParameters
  rw [eat_bind, check_eq_of_after hafter, if_pos (decide_eq_true rfl), if_pos rfl, eat_bind]
  simp only [if_true, Bool.false_eq_true, if_false]
  rfl

/-- After the parameters there is an arrow. -/
theorem lambdaHead_of_ok {names : List String} {t : Progress}
    (h : g.lambdaParameters d s = .ok (names, t)) : g.lambdaHead d s =
      if t.cursor.check (.symbol .arrow) = true then .ok (names, t.advance)
      else if t.cursor.check (.symbol .fatArrow) = true then .ok (names, t.advance)
      else .error ⟨.unexpected t.cursor.currentKind "'=>'", t.cursor.currentSpan⟩ := by
  unfold lambdaHead
  rw [bind_of_ok h, eat_bind]
  simp only [if_true, Bool.false_eq_true, if_false]
  rw [expect_bind]
  rfl

/-- An arrow behind the parameters is passed. -/
theorem lambdaHead_arrow {names : List String} {t : Progress} {sign : Symbol} {span : Span}
    {text : String} {rest : List Token} (h : g.lambdaParameters d s = .ok (names, t))
    (hafter : t.cursor.after = ⟨.symbol sign, span, text⟩ :: rest) (hsign : sign.IsArrow) :
    g.lambdaHead d s = .ok (names, t.past [⟨.symbol sign, span, text⟩] rest) := by
  rw [lambdaHead_of_ok h, check_eq_of_after hafter, check_eq_of_after hafter,
    advance_eq_past hafter]
  rcases hsign with rfl | rfl <;> rfl

/-- **Parameters that are there are read**, unless a name comes twice among them. -/
theorem lambdaParameters_reads {n : Nat} {names : List String} {span : Span} {text : String}
    {params rest : List Token} (hkinds : params.map Token.kind = parameterKinds names)
    (hafter : s.cursor.after = ⟨.symbol .lparen, span, text⟩ :: (params ++ rest))
    (hn : names.length ≤ n) :
    names.Nodup ∧ (upTo n).lambdaParameters d s =
        .ok (names, s.past (⟨.symbol .lparen, span, text⟩ :: params) rest) ∨
      ¬names.Nodup ∧ ∃ front t back name, params = front ++ t :: back ∧ t.kind = .ident name ∧
        (∃ t' ∈ front, t'.kind = .ident name) ∧
        (upTo n).lambdaParameters d s = .error ⟨.duplicateParameter name, t.span⟩ := by
  rw [lambdaParameters_lparen hafter, advance_eq_past hafter]
  cases names with
  | nil =>
      obtain ⟨span', text', more, rfl, hmore⟩ := exists_cons_of_map_kind hkinds
      obtain rfl := List.map_eq_nil_iff.mp hmore
      refine .inl ⟨List.nodup_nil, ?_⟩
      rw [List.singleton_append, check_eq_of_after past_after, if_pos (decide_eq_true rfl),
        advance_eq_past past_after, past_past]
      rfl
  | cons name names =>
      have hpassed : (s.past [⟨.symbol .lparen, span, text⟩] (params ++ rest)).cursor.after =
          params ++ rest := past_after
      have hname : (s.past [⟨.symbol .lparen, span, text⟩] (params ++ rest)).cursor.check
          (.symbol .rparen) = false := by
        obtain ⟨_, _, more, rfl, -⟩ := exists_of_parameterKinds hkinds
        rw [check_eq_of_after hpassed]
        rfl
      have hnone : ([] : List String).Nodup := List.nodup_nil
      rw [if_neg (by simp [hname])]
      rcases parameters_reads (d := d) hpassed hkinds (List.cons_ne_nil _ _) hn hnone with
        ⟨hnodup, hread⟩ | ⟨hdup, front, t, back, name', rfl, ht, hbefore, hread⟩
      · rw [past_past] at hread
        exact .inl ⟨hnodup, hread⟩
      · exact .inr ⟨hdup, front, t, back, name', rfl, ht, hbefore.resolve_left List.not_mem_nil,
          hread⟩

/-- **A head that is there is read**, and nothing behind it, unless a name comes twice in it.
The violation is where it comes again. -/
theorem lambdaHead_reads {n : Nat} {names : List String} {head rest : List Token}
    (hhead : IsLambdaHead names head) (hafter : s.cursor.after = head ++ rest)
    (hn : names.length ≤ n) :
    names.Nodup ∧ (upTo n).lambdaHead d s = .ok (names, s.past head rest) ∨
      ¬names.Nodup ∧ ∃ front t back name, head = front ++ t :: back ∧ t.kind = .ident name ∧
        (∃ t' ∈ front, t'.kind = .ident name) ∧
        (upTo n).lambdaHead d s = .error ⟨.duplicateParameter name, t.span⟩ := by
  obtain ⟨span, text, params, sign, span', text', rfl, hparams, hsign⟩ := hhead.exists_params
  have hafter : s.cursor.after = ⟨.symbol .lparen, span, text⟩ ::
      (params ++ ⟨.symbol sign, span', text'⟩ :: rest) := by rw [hafter]; simp
  rcases lambdaParameters_reads (d := d) hparams hafter hn with
    ⟨hnodup, hread⟩ | ⟨hdup, front, t, back, name, rfl, ht, ⟨t', hmem, ht'⟩, hread⟩
  · refine .inl ⟨hnodup, ?_⟩
    rw [lambdaHead_arrow hread past_after hsign, past_past]
    rfl
  · exact .inr ⟨hdup, ⟨.symbol .lparen, span, text⟩ :: front, t,
      back ++ [⟨.symbol sign, span', text'⟩], name, by simp, ht,
      ⟨t', List.mem_cons_of_mem _ hmem, ht'⟩, bind_of_error hread⟩

/-- **What is read as parameters** are names with commas between them. -/
theorem lambdaParameters_ok {n : Nat} {names : List String} {span : Span} {text : String}
    {rest : List Token} {t : Progress}
    (hafter : s.cursor.after = ⟨.symbol .lparen, span, text⟩ :: rest)
    (h : (upTo n).lambdaParameters d s = .ok (names, t)) :
    ∃ names params, params.map Token.kind = parameterKinds names ∧
      s.cursor.after = ⟨.symbol .lparen, span, text⟩ :: (params ++ t.cursor.after) := by
  rw [lambdaParameters_lparen hafter, advance_eq_past hafter] at h
  split at h
  · rename_i hparen
    obtain ⟨span', text', rest', hafter'⟩ := exists_after_of_kind (of_decide_eq_true hparen) nofun
    cases h
    refine ⟨[], [⟨.symbol .rparen, span', text'⟩], rfl, ?_⟩
    rw [advance_eq_past hafter', past_after, hafter]
    rw [past_after] at hafter'
    rw [hafter']
    rfl
  · obtain ⟨more, passed, -, hpassed, hkinds⟩ := parameters_ok h
    rw [past_after] at hpassed
    exact ⟨more, passed, hkinds, by rw [hafter, hpassed]⟩

/-- The arrow is the last token of a head. -/
theorem arrow_of_lambdaHead {names names' : List String} {t u : Progress}
    (hparams : g.lambdaParameters d s = .ok (names, u)) (h : g.lambdaHead d s = .ok (names', t)) :
    ∃ sign span text, sign.IsArrow ∧
      u.cursor.after = ⟨.symbol sign, span, text⟩ :: t.cursor.after := by
  have hpassed : ∀ sign : Symbol, sign.IsArrow → u.cursor.check (.symbol sign) = true →
      t = u.advance → ∃ sign span text, sign.IsArrow ∧
        u.cursor.after = ⟨.symbol sign, span, text⟩ :: t.cursor.after := by
    rintro sign hsign hcheck rfl
    obtain ⟨span, text, rest, hafter⟩ := exists_after_of_kind (of_decide_eq_true hcheck) nofun
    exact ⟨sign, span, text, hsign, by rw [advance_eq_past hafter, past_after, hafter]⟩
  rw [lambdaHead_of_ok hparams] at h
  split at h
  · exact hpassed .arrow (.inl rfl) ‹_› (Prod.mk.inj (Except.ok.inj h)).2.symm
  split at h
  · exact hpassed .fatArrow (.inr rfl) ‹_› (Prod.mk.inj (Except.ok.inj h)).2.symm
  · cases h

/-- **What is read as a head** is one. -/
theorem lambdaHead_ok {n : Nat} {names : List String} {span : Span} {text : String}
    {rest : List Token} {t : Progress}
    (hafter : s.cursor.after = ⟨.symbol .lparen, span, text⟩ :: rest)
    (h : (upTo n).lambdaHead d s = .ok (names, t)) :
    ∃ names head, IsLambdaHead names head ∧ s.cursor.after = head ++ t.cursor.after := by
  obtain ⟨⟨names', u⟩, hparams, -⟩ := bind_eq_ok.mp h
  obtain ⟨sign, span', text', hsign, hu⟩ := arrow_of_lambdaHead hparams h
  obtain ⟨names, params, hkinds, hsplit⟩ := lambdaParameters_ok hafter hparams
  refine ⟨names, _, .of_params hkinds hsign span span' text text', ?_⟩
  rw [hsplit, hu]
  simp

/-- A group in parentheses. -/
def group (g : Grammar) : Parse Node := do
  let _ ← advance
  let inner ← g.expr
  let _ ← expect (.symbol .rparen)
  return inner

/-- Looking ahead decides between a function literal and a group. -/
theorem primary_lparen {span : Span} {text : String} {rest : List Token}
    (hafter : s.cursor.after = ⟨.symbol .lparen, span, text⟩ :: rest) :
    g.primary d s = if lambdaAhead s.cursor.after = true then g.lambda d s else g.group d s := by
  unfold primary
  rw [cursor_bind, current_eq_of_after hafter]
  dsimp only
  rw [cursor_bind]
  split <;> rfl

/-- **Looking ahead and reading agree** at a bracket.  A head is found ahead exactly if the
tokens begin with one.  Then a function literal is read, if the language has them: its head is
passed, and nothing behind it, and the only violation in it is a name that comes a second time.
Otherwise a group is read, from where the bracket stands, and no head could be. -/
theorem lambdaAhead_agrees (d : Dialect) (s : Progress) (extra : Nat)
    (hopen : s.cursor.currentKind = .symbol .lparen) :
    let g := upTo (s.cursor.after.length + extra)
    (lambdaAhead s.cursor.after = true ↔
      ∃ names head, IsLambdaHead names head ∧ head <+: s.cursor.after) ∧
    (∀ names head rest, IsLambdaHead names head → s.cursor.after = head ++ rest →
      g.primary d s = g.lambda d s ∧
      (d.features.has .lambda = true →
        (names.Nodup → g.lambda d s =
          g.lambdaTail s.cursor.currentSpan (s.cursor.position + 1) names d (s.past head rest)) ∧
        (¬names.Nodup → ∃ front t back name, head = front ++ t :: back ∧ t.kind = .ident name ∧
          (∃ t' ∈ front, t'.kind = .ident name) ∧
          g.lambda d s = .error ⟨.duplicateParameter name, t.span⟩))) ∧
    (lambdaAhead s.cursor.after = false →
      (∀ names head, IsLambdaHead names head → ¬head <+: s.cursor.after) ∧
      g.primary d s = g.group d s ∧ ∀ r, g.lambdaHead d s ≠ .ok r) := by
  intro g
  obtain ⟨span, text, tokens, hafter⟩ := exists_after_of_kind hopen nofun
  have hiff : lambdaAhead s.cursor.after = true ↔
      ∃ names head, IsLambdaHead names head ∧ head <+: s.cursor.after := by
    rw [hafter]
    exact lambdaAhead_iff
  refine ⟨hiff, fun names head rest hhead hsplit => ⟨?_, fun hfeature => ?_⟩, fun hnone => ?_⟩
  · rw [primary_lparen hafter, if_pos (hiff.mpr ⟨names, head, hhead, rest, hsplit.symm⟩)]
  · have hn : names.length ≤ s.cursor.after.length + extra := by
      have hlength := hhead.length_le
      rw [hsplit, List.length_append]
      omega
    rw [lambda_enabled hfeature]
    rcases lambdaHead_reads (d := d) hhead hsplit hn with
      ⟨hnodup, hread⟩ | ⟨hdup, front, t, back, name, hfront, ht, hbefore, hread⟩
    · exact ⟨fun _ => bind_of_ok hread, fun hdup => absurd hnodup hdup⟩
    · exact ⟨fun hnodup => absurd hnodup hdup,
        fun _ => ⟨front, t, back, name, hfront, ht, hbefore, bind_of_error hread⟩⟩
  · have hnohead : ∀ names head, IsLambdaHead names head → ¬head <+: s.cursor.after := by
      intro names head hhead hprefix
      rw [hiff.mpr ⟨names, head, hhead, hprefix⟩] at hnone
      cases hnone
    refine ⟨hnohead, ?_, ?_⟩
    · rw [primary_lparen hafter, if_neg (by simp [hnone])]
    · rintro ⟨names, t⟩ hread
      obtain ⟨names, head, hhead, hsplit⟩ := lambdaHead_ok hafter hread
      exact hnohead names head hhead ⟨_, hsplit.symm⟩

/-- A function literal with a name that comes twice in its head. -/
theorem lambdaAhead_agrees_duplicate :
    let s := Parse.start (Token.ofSource "(a, b, a) => b")
    let d : Dialect := ⟨.standard, 0⟩
    s.cursor.currentKind = .symbol .lparen ∧
    IsLambdaHead ["a", "b", "a"] (s.cursor.after.take 8) ∧ d.features.has .lambda = true ∧
    ¬["a", "b", "a"].Nodup ∧
    ∃ front t back name, s.cursor.after.take 8 = front ++ t :: back ∧ t.kind = .ident name ∧
      (∃ t' ∈ front, t'.kind = .ident name) ∧
      (upTo (s.cursor.after.length + 0)).lambda d s =
        .error ⟨.duplicateParameter name, t.span⟩ := by
  intro s d
  have hopen : s.cursor.currentKind = .symbol .lparen := by decide +kernel
  have hhead : IsLambdaHead ["a", "b", "a"] (s.cursor.after.take 8) :=
    ⟨.fatArrow, .inr rfl, by decide +kernel⟩
  have hfeature : d.features.has .lambda = true := by decide
  have hdup : ¬["a", "b", "a"].Nodup := by decide
  have hsplit := (List.take_append_drop 8 s.cursor.after).symm
  exact ⟨hopen, hhead, hfeature, hdup,
    (((lambdaAhead_agrees d s 0 hopen).2.1 _ _ _ hhead hsplit).2 hfeature).2 hdup⟩

end Grammar

end ScriptEngine

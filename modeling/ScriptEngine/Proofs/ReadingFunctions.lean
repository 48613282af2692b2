import ScriptEngine.Proofs.LambdaHeads
import ScriptEngine.Proofs.ReadingSequences

/-!
# Reading function literals

A function literal is written with its parameters in parentheses, and is read as one because
the whole head is seen ahead.  Its body is a block, or an expression, which then goes on as
far as it can; an expression that starts with a brace would be taken for a block.

* `FunctionWords` — words that are read as a function literal wherever one may stand;
* `Grammar.reads_parameters` — the parameters;
* `Grammar.functionWords_of_block`, `Grammar.functionWords_of_expression` — function literals by
  their bodies.
-/

namespace ScriptEngine

open Word

/-- **Words that are read as a function literal**, up to what ends an assignment. -/
structure FunctionWords (ws : List Word) (t : Node) : Prop where
  opens : ∃ us, ws = sign .lparen :: us
  valid : ∀ w ∈ ws, w.Valid
  reads : ∀ {σ : Frame} {n : Nat} {rest : List Word}, Stops Binding.assignment rest →
    ws.length + rest.length ≤ n + 1 →
    Reads σ (Grammar.upTo n).primary (ws ++ rest) rest (Node.Alike · t)

/-- The words of parameters, with commas between them. -/
def parameterWords (names : List String) : List Word :=
  (names.map fun name => ⟨.ident name, name⟩).intersperse (sign .comma)

/-- The words of the head of a function literal. -/
def headWords (names : List String) : List Word :=
  sign .lparen :: (parameterWords names ++ [sign .rparen, sign .arrow])

namespace Grammar

theorem lambdas_functionWords : Lambdas FunctionWords where
  opens _ _ h := h.opens
  valid _ _ h := h.valid
  reads h hrest hlen := h.reads hrest hlen

/-- After a name there are a comma and more names, or nothing. -/
theorem parameterWords_cons_cons (name next : String) (names : List String) :
    parameterWords (name :: next :: names) =
      ⟨.ident name, name⟩ :: sign .comma :: parameterWords (next :: names) := rfl

theorem valid_parameterWords (names : List String) : ∀ w ∈ parameterWords names, w.Valid := by
  induction names with
  | nil => exact Valid.nil
  | cons name names ih =>
      cases names with
      | nil => exact Valid.cons (valid_ident _ _) Valid.nil
      | cons next names => exact Valid.cons (valid_ident _ _) (Valid.cons (valid_sign _) ih)

theorem map_kind_parameterWords (names : List String) :
    (parameterWords names).map Word.kind =
      (names.map TokenKind.ident).intersperse (.symbol .comma) := by
  induction names with
  | nil => rfl
  | cons name names ih =>
      cases names with
      | nil => rfl
      | cons next names => exact congrArg (_ :: _ :: ·) ih

variable {σ : Frame} {n : Nat} {ws rest : List Word} {names params : List String} {body : Node}

/-- One more parameter, which was not there before. -/
theorem reads_addParameter {name : String} (place : Span) (h : name ∉ params) :
    Reads σ (addParameter params name place) ws ws (· = params ++ [name]) := by
  unfold addParameter
  rw [if_neg (by simpa using h)]
  exact reads_pure rfl

/-- **Parameters are read** after those before them. -/
theorem reads_parameters (hnames : names ≠ []) (hnodup : (params ++ names).Nodup)
    (hlen : (parameterWords names).length + 1 + rest.length ≤ n) :
    Reads σ ((upTo n).parameters params) (parameterWords names ++ sign .rparen :: rest) rest
      (· = params ++ names) := by
  induction names generalizing n params with
  | nil => exact absurd rfl hnames
  | cons name names ih =>
      obtain ⟨n, rfl⟩ : ∃ j, n = j + 1 := ⟨n - 1, by omega⟩
      have hfresh : name ∉ params := by
        have hdisjoint := (List.nodup_append.mp hnodup).2.2
        exact fun hmem => hdisjoint name hmem name List.mem_cons_self rfl
      have hsplit : params ++ name :: names = params ++ [name] ++ names := by simp
      rw [hsplit] at hnodup ⊢
      cases names with
      | nil =>
          refine reads_bind (reads_expectIdent rfl) fun found hfound => ?_
          obtain ⟨found, place⟩ := found
          obtain rfl : found = name := hfound
          refine reads_bind (reads_addParameter place hfresh) fun params' hparams => ?_
          refine reads_bind (reads_eat_not nofun) fun yes hyes => ?_
          subst hyes
          refine reads_bind (reads_expect rfl) fun _ _ => reads_pure ?_
          rw [hparams, List.append_nil]
      | cons next names =>
          rw [parameterWords_cons_cons, List.length_cons, List.length_cons] at hlen
          rw [parameterWords_cons_cons]
          refine reads_bind (reads_expectIdent rfl) fun found hfound => ?_
          obtain ⟨found, place⟩ := found
          obtain rfl : found = name := hfound
          refine reads_bind (reads_addParameter place hfresh) fun params' hparams => ?_
          refine reads_bind (reads_eat rfl) fun yes hyes => ?_
          subst hyes hparams
          exact ih (List.cons_ne_nil _ _) hnodup (by omega)

/-- The parameters of a function literal, up to its arrow. -/
theorem reads_lambdaParameters (hnodup : names.Nodup)
    (hlen : (parameterWords names).length + 1 + rest.length ≤ n) :
    Reads σ (upTo n).lambdaParameters
      (sign .lparen :: (parameterWords names ++ sign .rparen :: rest)) rest (· = names) := by
  refine reads_bind (reads_eat rfl) fun yes hyes => ?_
  subst hyes
  cases names with
  | nil =>
      refine reads_bind (reads_eat rfl) fun yes hyes => ?_
      subst hyes
      exact reads_pure rfl
  | cons name names =>
      have hne : headKind (parameterWords (name :: names) ++ sign .rparen :: rest) ≠
          .symbol .rparen := by
        cases names <;> nofun
      refine reads_bind (reads_eat_not hne) fun yes hyes => ?_
      subst hyes
      exact reads_parameters (List.cons_ne_nil _ _) hnodup hlen

/-- The head of a function literal is seen ahead. -/
theorem lambdaAhead_headWords {tokens : List Token}
    (h : tokens.map Token.word = headWords names ++ rest) : lambdaAhead tokens = true := by
  obtain ⟨head, tail, rfl, hhead, -⟩ := List.map_eq_append_iff.mp h
  have hkinds : head.map Token.kind = (headWords names).map Word.kind := by
    rw [← hhead, List.map_map]
    rfl
  have hhead' : IsLambdaHead names head := by
    refine ⟨.arrow, .inl rfl, hkinds.trans ?_⟩
    simp [headWords, parameterKinds, map_kind_parameterWords, sign]
  obtain ⟨span, text, params, sign, span', text', rfl, -, -⟩ := hhead'.exists_params
  exact lambdaAhead_iff.mpr ⟨names, _, hhead', List.prefix_append _ _⟩

/-- **A function literal is read** if its body is. -/
theorem functionWords {span : Span} {id : LambdaId} (hnodup : params.Nodup)
    (hvalid : ∀ w ∈ ws, w.Valid)
    (hbody : ∀ {σ : Frame} {n : Nat} {rest : List Word}, Stops Binding.assignment rest →
      ws.length + rest.length ≤ n → Reads σ (do
        if ← Parse.check (.symbol .lbrace) then (upTo n).block else (upTo n).expr)
        (ws ++ rest) rest (Node.Alike · body)) :
    FunctionWords (headWords params ++ ws) (.lambda span id params body) where
  opens := ⟨_, rfl⟩
  valid := Valid.append (Valid.cons (valid_sign _) (Valid.append (valid_parameterWords params)
    (Valid.cons (valid_sign _) (Valid.cons (valid_sign _) Valid.nil)))) hvalid
  reads := by
    intro σ n rest hrest hlen
    have hwords : headWords params ++ ws ++ rest =
        sign .lparen :: (parameterWords params ++ sign .rparen :: sign .arrow :: (ws ++ rest)) := by
      simp [headWords]
    have hlength : (headWords params).length = (parameterWords params).length + 3 := by
      simp [headWords]
    simp only [List.length_append] at hlen
    have hlambda : Reads σ (upTo n).lambda (headWords params ++ ws ++ rest) rest
        (Node.Alike · (.lambda span id params body)) := by
      have hread {ws : List Word} : Reads σ (read : Parse Dialect) ws ws (fun _ => True) :=
        fun p hp => ⟨σ.dialect, p, rfl, hp, trivial⟩
      rw [hwords]
      refine reads_bind reads_currentSpan fun start _ => ?_
      refine reads_bind (reads_require rfl start) fun _ _ => ?_
      refine reads_bind reads_cursor fun c _ => ?_
      refine reads_bind (reads_lambdaParameters hnodup
        (by simp only [List.length_cons, List.length_append]; omega)) fun params' hparams => ?_
      subst hparams
      refine reads_bind (reads_eat rfl) fun yes hyes => ?_
      subst hyes
      refine reads_bind (reads_inFunction (reads_bind (reads_declareAll start params')
        fun _ _ => hbody hrest (by omega))) fun body' hbody' => ?_
      refine reads_bind (reads_spanFrom start) fun _ _ => ?_
      refine reads_bind hread fun _ _ => reads_pure ?_
      simp_all only [Node.Alike, Node.erase]
    unfold primary
    refine reads_bind reads_cursor fun c hc => ?_
    have hkind : c.current.kind = .symbol .lparen := current_kind hc
    dsimp only
    rw [hkind]
    refine reads_bind reads_cursor fun c' hc' => ?_
    rw [List.append_assoc] at hc'
    rw [lambdaAhead_headWords hc']
    exact hlambda

/-- A function literal with a block for its body. -/
theorem functionWords_of_block {span : Span} {id : LambdaId} (hnodup : params.Nodup)
    (h : Recites false 0 ws body) (hbrace : headKind ws = .symbol .lbrace)
    (hhangs : body.hangs = false) :
    FunctionWords (headWords params ++ ws) (.lambda span id params body) := by
  refine functionWords hnodup h.valid fun {σ n rest} _ hlen => ?_
  have hhead : headKind (ws ++ rest) = .symbol .lbrace := by
    cases ws with
    | nil => cases hbrace
    | cons w ws => exact hbrace
  refine reads_bind (reads_check _) fun yes hyes => ?_
  obtain rfl : yes = true := hyes.trans (decide_eq_true hhead)
  exact h.reads_block hbrace Bool.noConfusion hhangs hlen

/-- A function literal with an expression for its body, which does not start with a brace. -/
theorem functionWords_of_expression {L : List Word → Node → Prop} {span : Span} {id : LambdaId}
    (hL : Lambdas L) (hnodup : params.Nodup) (h : Spells L Binding.assignment ws body)
    (hbrace : headKind ws ≠ .symbol .lbrace) :
    FunctionWords (headWords params ++ ws) (.lambda span id params body) := by
  refine functionWords hnodup (h.valid hL.valid) fun {σ n rest} hrest hlen => ?_
  have hhead : headKind (ws ++ rest) ≠ .symbol .lbrace := by
    cases ws with
    | nil => exact (h.opens hL.opens).elim
    | cons w ws => exact hbrace
  refine reads_bind (reads_check _) fun yes hyes => ?_
  obtain rfl : yes = false := hyes.trans (decide_eq_false hhead)
  exact (complete hL n).expr h hrest hlen

end Grammar

end ScriptEngine

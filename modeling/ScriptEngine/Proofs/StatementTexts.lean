import ScriptEngine.Proofs.OperandTexts
import ScriptEngine.Proofs.ReadingFunctions
import ScriptEngine.Proofs.ReadingLoops
import ScriptEngine.Proofs.ReadingScripts

/-!
# The texts of statements

For each form of statement: if its parts are read back from their texts, it is read back from
its own.  A statement is written with a semicolon behind it unless it is a block, so that a loop
ends with more semicolons than were read with it; `Node.looseEnds` counts them.

* `WritesAlways` — texts that are read as certain words whatever comes after them;
* `Node.standsAlone` — statements that are not taken for a block;
* `PrintsStatement` — what is asked of the text of a statement;
* `PrintsStatement.ifThen`, `PrintsStatement.forLoop`, … — one lemma for each form.
-/

namespace ScriptEngine

open Word

/-! ## Texts that nothing can change -/

/-- A text that is read as certain words whatever comes after it. -/
def WritesAlways (text : String) (ws : List Word) : Prop :=
  ∀ rest us, Scans rest us → Scans (text.toList ++ rest) (ws ++ us)

section Pieces

variable {a b : String} {ws us : List Word}

theorem WritesAlways.writes (h : WritesAlways a ws) : Writes a ws := fun rest us _ => h rest us

theorem WritesAlways.append (ha : WritesAlways a ws) (hb : WritesAlways b us) :
    WritesAlways (a ++ b) (ws ++ us) := by
  intro rest vs hscan
  have hwhole := ha _ _ (hb rest vs hscan)
  rw [String.toList_append, List.append_assoc, List.append_assoc]
  exact hwhole

theorem WritesAlways.append_writes (ha : WritesAlways a ws) (hb : Writes b us) :
    Writes (a ++ b) (ws ++ us) := by
  intro rest vs hrest hscan
  have hwhole := ha _ _ (hb rest vs hrest hscan)
  rw [String.toList_append, List.append_assoc, List.append_assoc]
  exact hwhole

/-- A text and another one that closes it. -/
theorem Writes.append_always (ha : Writes a ws) (hb : WritesAlways b us)
    (hcloses : ∀ rest, Closes (b.toList ++ rest)) : WritesAlways (a ++ b) (ws ++ us) := by
  intro rest vs hscan
  have hwhole := ha _ _ (hcloses rest) (hb rest vs hscan)
  rw [String.toList_append, List.append_assoc, List.append_assoc]
  exact hwhole

end Pieces

/-- What the printer puts between the parts of a statement. -/
inductive Glyph where
  | blank
  /-- A symbol that no character joins. -/
  | sign (s : Symbol)
  /-- A symbol with a blank after it. -/
  | spaced (s : Symbol)
  /-- A reserved word with a blank after it. -/
  | word (k : Keyword)

namespace Glyph

/-- The characters of a glyph. -/
def chars : Glyph → List Char
  | blank => [' ']
  | sign s => s.spelling.toList
  | spaced s => s.spelling.toList ++ [' ']
  | word k => k.spelling.toList ++ [' ']

/-- The words of a glyph. -/
def words : Glyph → List Word
  | blank => []
  | sign s | spaced s => [Word.sign s]
  | word k => [reserved k]

/-- Whether a glyph is read whatever comes after it. -/
def stands : Glyph → Bool
  | sign s => s.standsAlone
  | _ => true

theorem scans (g : Glyph) (hg : g.stands = true) {rest : List Char} {us : List Word}
    (hscan : Scans rest us) : Scans (g.chars ++ rest) (g.words ++ us) := by
  have hblank : Scans (' ' :: rest) us := .blank rfl hscan
  cases g with
  | blank => exact hblank
  | sign s => exact scans_alone hg hscan
  | spaced s =>
      have hspaced : Scans (s.spelling.toList ++ ' ' :: rest) (Word.sign s :: us) := by
        refine scans_sign (fun d hd => ?_) hblank
        obtain rfl := Option.some.inj hd
        exact joins_blank s
      rw [chars, List.append_assoc]
      exact hspaced
  | word k =>
      rw [chars, List.append_assoc]
      exact writes_reserved k _ _ (closes_cons rfl (by decide) rest) hblank

end Glyph

/-- **A row of glyphs is read** whatever comes after it. -/
theorem writes_glyphs {text : String} (gs : List Glyph)
    (htext : text.toList = gs.flatMap Glyph.chars) (hgs : gs.all Glyph.stands = true) :
    WritesAlways text (gs.flatMap Glyph.words) := by
  intro rest us hscan
  rw [htext]
  clear htext
  induction gs with
  | nil => exact hscan
  | cons g gs ih =>
      obtain ⟨hg, hgs⟩ := Bool.and_eq_true_iff.mp (List.all_cons.symm.trans hgs)
      rw [List.flatMap_cons, List.flatMap_cons, List.append_assoc, List.append_assoc]
      exact g.scans hg (ih hgs)

/-! ## How a text starts -/

/-- Whether the first token of a text is of a kind. -/
def opensWith (kind : TokenKind) (text : String) : Bool :=
  (Token.ofSource text).head?.any (·.kind = kind)

/-- The first of the words that a text is read as is its first token. -/
theorem opensWith_eq {text : String} {ws : List Word} (h : Writes text ws) (hne : ws ≠ [])
    (kind : TokenKind) : opensWith kind text = decide (headKind ws = kind) := by
  have hscan := h [] [final] trivial .done
  rw [List.append_nil] at hscan
  have hwords := hscan.ofSource
  unfold opensWith
  obtain ⟨w, rest, rfl⟩ := List.exists_cons_of_ne_nil hne
  cases htokens : Token.ofSource text with
  | nil =>
      rw [htokens] at hwords
      cases hwords
  | cons token tokens =>
      rw [htokens] at hwords
      have hword : token.word = w := (List.cons_eq_cons.mp hwords).1
      subst hword
      rfl

namespace Node

/-- Whether a statement is read as what it is where statements stand: a block, or what does not
start with a brace. -/
def standsAlone (t : Node) : Bool := t.isBlock || !opensWith (.symbol .lbrace) t.bare

/-- How many of the semicolons behind a statement are not read with it. -/
def looseEnds : Node → Nat
  | ifElse _ _ thenBranch none => thenBranch.looseEnds + 1
  | ifElse _ _ _ (some elseBranch) => elseBranch.looseEnds + 1
  | forLoop _ _ _ _ body | foreach _ _ _ _ body | whileLoop _ _ body => body.looseEnds + 1
  | annotated _ _ _ statement => if statement.isBlock then 1 else statement.looseEnds
  | _ => 0

/-- An operand takes the semicolon behind it. -/
theorem looseEnds_of_isStatement {t : Node} (h : t.isStatement = false) : t.looseEnds = 0 := by
  cases t <;> first | rfl | cases h

/-- A block takes no semicolon, and none is written behind it. -/
theorem looseEnds_of_isBlock {t : Node} (h : t.isBlock = true) : t.looseEnds = 0 := by
  cases t <;> first | rfl | cases h

theorem bare_of_isBlock {t : Node} (h : t.isBlock = true) : t.terminated t.bare = t.bare :=
  if_pos h

/-- Behind a statement that is no block stands a semicolon. -/
theorem terminated_of_isBlock {t : Node} (h : t.isBlock = false) (text : String) :
    t.terminated text = text ++ ";" := by
  unfold terminated
  rw [h]
  rfl

end Node

/-! ## Constant texts -/

/-- The same words in another form. -/
theorem WritesAlways.cast {text : String} {ws us : List Word} (h : WritesAlways text ws)
    (heq : ws = us) : WritesAlways text us := heq ▸ h

theorem writes_semicolon : WritesAlways ";" [sign .semicolon] :=
  writes_glyphs [.sign .semicolon] rfl rfl

theorem closes_semicolon (rest : List Char) : Closes (";".toList ++ rest) :=
  closes_cons (c := ';') rfl (by decide) rest

theorem writes_blank : WritesAlways " " [] := writes_glyphs [.blank] rfl rfl

theorem closes_blank (rest : List Char) : Closes (" ".toList ++ rest) :=
  closes_cons (c := ' ') rfl (by decide) rest

theorem writes_nothing : Writes "" [] := fun _ _ _ hscan => hscan

/-- The last part of a head in parentheses, and the statement behind it. -/
theorem writes_head {lead last body : String} {ls cs ws : List Word} (hlead : WritesAlways lead ls)
    (hlast : Writes last cs) (hbody : WritesAlways body ws) :
    WritesAlways (lead ++ last ++ ") " ++ body) (ls ++ (cs ++ sign .rparen :: ws)) := by
  have hclosing : WritesAlways ") " [sign .rparen] := writes_glyphs [.sign .rparen, .blank] rfl rfl
  have hhead := (hlead.append_writes hlast).append_always hclosing
    fun rest => closes_cons (c := ')') rfl (by decide) _
  exact (hhead.append hbody).cast (by simp)

/-! ## Parts of statements -/

/-- **What is asked of the text of a statement**: with what stands behind it, it is read as the
statement up to its loose ends, whatever comes after it. -/
def PrintsStatement (inLoop : Bool) (t : Node) : Prop :=
  ∃ ws, WritesAlways (t.terminated t.bare) ws ∧ Grammar.Recites inLoop t.looseEnds ws t ∧
    (t.isBlock = true → headKind ws = .symbol .lbrace)

/-- A text that is read as what a counting loop starts with. -/
def PrintsStart (L : List Word → Node → Prop) (t : Node) : Prop :=
  ∃ ws, SpellsStart L ws (some t) ∧ Writes t.bare ws

/-- The text of an operand that may be left out. -/
def partText (part? : Option Node) : String :=
  match part? with
  | some node => node.grouped Binding.assignment node.bare
  | none => ""

section Parts

variable {L : List Word → Node → Prop} {dollar : Bool} {span : Span} {t : Node}
variable {part? : Option Node}

/-- An operand where any operand may stand. -/
theorem PrintsOperand.whole (h : PrintsOperand L dollar t) :
    Prints L Binding.assignment (t.grouped Binding.assignment t.bare) t :=
  h.prints.operand (by decide)

theorem prints_part (h : ∀ t ∈ part?, PrintsOperand L dollar t) :
    ∃ ws, SpellsOption L [] ws part? ∧ Writes (partText part?) ws := by
  cases part? with
  | none => exact ⟨[], .none, writes_nothing⟩
  | some node =>
      obtain ⟨ws, hws, hwrites⟩ := (h node rfl).whole
      exact ⟨ws, .some hws, hwrites⟩

/-- An expression is what a loop may start with. -/
theorem PrintsOperand.start (h : PrintsOperand L dollar t) : PrintsStart L t := by
  obtain ⟨ws, hws, hwrites⟩ := h.prints.mono t.assignment_le_readingPower
  exact ⟨ws, .expression hws, hwrites⟩

/-- So is a declaration. -/
theorem prints_var {name : String} {init : Option Node} (hname : IsName name)
    (h : ∀ t ∈ init, PrintsOperand L dollar t) : PrintsStart L (.var span name init) := by
  have hvar : WritesAlways "var " [reserved .kwVar] := writes_glyphs [.word .kwVar] rfl rfl
  have hlead := hvar.append_writes hname.writes
  cases init with
  | none =>
      refine ⟨[reserved .kwVar, ⟨.ident name, name⟩], .var .none, ?_⟩
      show Writes ("var " ++ name ++ "") _
      rw [String.append_empty]
      exact hlead
  | some value =>
      obtain ⟨ws, hws, hwrites⟩ := (h value rfl).whole
      refine ⟨reserved .kwVar :: ⟨.ident name, name⟩ :: ([sign .assign] ++ ws),
        .var (.some hws), ?_⟩
      show Writes ("var " ++ name ++ (" = " ++ value.grouped Binding.assignment value.bare)) _
      rw [← String.append_assoc]
      exact writes_infix .assign rfl hlead hwrites

/-- Nothing, or what a counting loop starts with. -/
theorem prints_start (h : ∀ t ∈ part?, PrintsStart L t) :
    ∃ ws, SpellsStart L ws part? ∧ Writes ((Node.bareOption part?).getD "") ws := by
  cases part? with
  | none => exact ⟨[], .none, writes_nothing⟩
  | some node => exact h node rfl

/-- Arguments in parentheses, or nothing. -/
theorem prints_arguments {args : List Node} (h : ∀ arg ∈ args, PrintsOperand L dollar arg)
    {lead : String} {ls : List Word} (hlead : Writes lead ls) :
    ∃ ws, SpellsArguments L ws args ∧ Writes (lead ++ if args.isEmpty then "" else
      "(" ++ Node.listed args (Node.bareAll args) ++ ")") (ls ++ ws) := by
  cases args with
  | nil =>
      refine ⟨[], .nil, ?_⟩
      rw [List.append_nil]
      show Writes (lead ++ "") ls
      rwa [String.append_empty]
  | cons arg args =>
      obtain ⟨ws, hws, hwrites⟩ := PrintsOperand.listed h
      exact ⟨_, .cons hws,
        writes_append (closes_arguments _) hlead (firm_arguments hwrites).writes⟩

end Parts

/-! ## Statements -/

section Statements

variable {L : List Word → Node → Prop} {dollar inLoop : Bool} {span : Span}
variable {t cond body thenBranch elseBranch statement : Node}

namespace PrintsStatement

/-- A statement that is no block, with the semicolon behind it. -/
theorem of_text {ws : List Word} (hblock : t.isBlock = false)
    (hwrites : WritesAlways (t.bare ++ ";") ws) (h : Grammar.Recites inLoop t.looseEnds ws t) :
    PrintsStatement inLoop t := by
  refine ⟨ws, ?_, h, fun hyes => Bool.noConfusion (hblock ▸ hyes)⟩
  rw [Node.terminated_of_isBlock hblock]
  exact hwrites

/-- A statement that takes the words of another one in, and a semicolon that it leaves over. -/
theorem of_body {ws : List Word} {loose : Nat} (hblock : t.isBlock = false)
    (hloose : t.looseEnds = loose + 1) (hwrites : WritesAlways t.bare ws)
    (h : Grammar.Recites inLoop loose ws t) :
    PrintsStatement inLoop t :=
  of_text hblock (hwrites.append writes_semicolon) (hloose ▸ h.semicolon)

/-! ### Expressions and declarations -/

/-- An expression or a declaration is a statement. -/
theorem of_start (hL : Grammar.Lambdas L) (h : PrintsStart L t) (hblock : t.isBlock = false)
    (hloose : t.looseEnds = 0) (halone : t.standsAlone = true) : PrintsStatement inLoop t := by
  obtain ⟨ws, hws, hwrites⟩ := h
  refine of_text hblock (hwrites.append_always writes_semicolon closes_semicolon) ?_
  rw [hloose]
  cases hws with
  | var h => exact Grammar.recites_var hL h
  | expression h =>
      have hne : ws ≠ [] := by
        rintro rfl
        exact h.opens hL.opens
      refine Grammar.recites_expression hL h fun hbrace => ?_
      simp [Node.standsAlone, hblock, opensWith_eq hwrites hne, hbrace] at halone

/-! ### Branches -/

theorem ifThen (hL : Grammar.Lambdas L) (hcond : PrintsOperand L dollar cond)
    (hthen : PrintsStatement inLoop thenBranch) :
    PrintsStatement inLoop (.ifElse span cond thenBranch none) := by
  obtain ⟨cs, hcs, hcwrites⟩ := hcond.whole
  obtain ⟨ws, hwrites, hrecites, -⟩ := hthen
  have hif : WritesAlways "if (" [reserved .kwIf, sign .lparen] :=
    writes_glyphs [.word .kwIf, .sign .lparen] rfl rfl
  refine of_body rfl rfl ?_ (Grammar.recites_ifThen hL hcs hrecites)
  show WritesAlways ("if (" ++ _ ++ ") " ++ _ ++ "") _
  rw [String.append_empty]
  exact writes_head hif hcwrites hwrites

theorem ifElse (hL : Grammar.Lambdas L) (hcond : PrintsOperand L dollar cond)
    (hthen : PrintsStatement inLoop thenBranch) (hloose : thenBranch.looseEnds ≤ 1)
    (hhangs : thenBranch.hangs = false) (helse : PrintsStatement inLoop elseBranch) :
    PrintsStatement inLoop (.ifElse span cond thenBranch (some elseBranch)) := by
  obtain ⟨cs, hcs, hcwrites⟩ := hcond.whole
  obtain ⟨ws, hwrites, hrecites, -⟩ := hthen
  obtain ⟨us, hwrites', hrecites', -⟩ := helse
  have hif : WritesAlways "if (" [reserved .kwIf, sign .lparen] :=
    writes_glyphs [.word .kwIf, .sign .lparen] rfl rfl
  have helse : WritesAlways " else " [reserved .kwElse] :=
    writes_glyphs [.blank, .word .kwElse] rfl rfl
  refine of_body rfl rfl ?_ (Grammar.recites_ifElse hL hcs hrecites hloose hhangs hrecites')
  have hwhole := writes_head hif hcwrites (hwrites.append (helse.append hwrites'))
  rw [← String.append_assoc] at hwhole
  exact hwhole

/-! ### Loops -/

theorem whileLoop (hL : Grammar.Lambdas L) (hcond : PrintsOperand L dollar cond)
    (hbody : PrintsStatement true body) :
    PrintsStatement inLoop (.whileLoop span cond body) := by
  obtain ⟨cs, hcs, hcwrites⟩ := hcond.whole
  obtain ⟨ws, hwrites, hrecites, -⟩ := hbody
  have hwhile : WritesAlways "while (" [reserved .kwWhile, sign .lparen] :=
    writes_glyphs [.word .kwWhile, .sign .lparen] rfl rfl
  exact of_body rfl rfl (writes_head hwhile hcwrites hwrites)
    (Grammar.recites_whileLoop hL hcs hrecites)

theorem doWhile (hL : Grammar.Lambdas L) (hcond : PrintsOperand L dollar cond)
    (hbody : PrintsStatement true body) (hloose : body.looseEnds = 0) :
    PrintsStatement inLoop (.doWhile span body cond) := by
  obtain ⟨cs, hcs, hcwrites⟩ := hcond.whole
  obtain ⟨ws, hwrites, hrecites, -⟩ := hbody
  rw [hloose] at hrecites
  have hdo : WritesAlways "do " [reserved .kwDo] := writes_glyphs [.word .kwDo] rfl rfl
  have hwhile : WritesAlways " while (" [reserved .kwWhile, sign .lparen] :=
    writes_glyphs [.blank, .word .kwWhile, .sign .lparen] rfl rfl
  have hclosing : WritesAlways ")" [sign .rparen] := writes_glyphs [.sign .rparen] rfl rfl
  have hhead := (((hdo.append hwrites).append hwhile).append_writes hcwrites).append_always hclosing
    fun rest => closes_cons (c := ')') rfl (by decide) _
  exact of_text rfl ((hhead.append writes_semicolon).cast (by simp))
    (Grammar.recites_doWhile hL hcs hrecites)

theorem forLoop {init cond step : Option Node} (hL : Grammar.Lambdas L)
    (hinit : ∀ t ∈ init, PrintsStart L t) (hcond : ∀ t ∈ cond, PrintsOperand L dollar t)
    (hstep : ∀ t ∈ step, PrintsOperand L dollar t) (hbody : PrintsStatement true body) :
    PrintsStatement inLoop (.forLoop span init cond step body) := by
  obtain ⟨ss, hss, hswrites⟩ := prints_start hinit
  obtain ⟨cs, hcs, hcwrites⟩ := prints_part hcond
  obtain ⟨ts, hts, htwrites⟩ := prints_part hstep
  obtain ⟨ws, hwrites, hrecites, -⟩ := hbody
  have hfor : WritesAlways "for (" [reserved .kwFor, sign .lparen] :=
    writes_glyphs [.word .kwFor, .sign .lparen] rfl rfl
  have hnext : WritesAlways "; " [sign .semicolon] :=
    writes_glyphs [.sign .semicolon, .blank] rfl rfl
  have hcloses (rest : List Char) : Closes ("; ".toList ++ rest) :=
    closes_cons (c := ';') rfl (by decide) _
  have hlead := (((hfor.append_writes hswrites).append_always hnext hcloses).append_writes
    hcwrites).append_always hnext hcloses
  have htext : (Node.forLoop span init cond step body).bare =
      "for (" ++ (Node.bareOption init).getD "" ++ "; " ++ partText cond ++ "; " ++
        partText step ++ ") " ++ body.terminated body.bare := by
    cases cond <;> cases step <;> rfl
  have hwhole := writes_head hlead htwrites hwrites
  rw [← htext] at hwhole
  exact of_body rfl rfl (hwhole.cast (by simp))
    (Grammar.recites_forLoop hL hss hcs hts hrecites)

theorem foreach {name : String} {declared : Bool} {iterable : Node} (hL : Grammar.Lambdas L)
    (hname : IsName name) (hiterable : PrintsOperand L dollar iterable)
    (hbody : PrintsStatement true body) :
    PrintsStatement inLoop (.foreach span name declared iterable body) := by
  obtain ⟨cs, hcs, hcwrites⟩ := hiterable.whole
  obtain ⟨ws, hwrites, hrecites, -⟩ := hbody
  have hfor : WritesAlways "for (" [reserved .kwFor, sign .lparen] :=
    writes_glyphs [.word .kwFor, .sign .lparen] rfl rfl
  have hvar : WritesAlways "var " [reserved .kwVar] := writes_glyphs [.word .kwVar] rfl rfl
  have hcolon : WritesAlways " : " [sign .colon] :=
    writes_glyphs [.blank, .sign .colon, .blank] rfl rfl
  have hdeclared : Writes ("for (" ++ (if declared then "var " else "") ++ name)
      (reserved .kwFor :: sign .lparen :: Grammar.foreachWords declared name name) := by
    cases declared with
    | true => exact (hfor.append hvar).append_writes hname.writes
    | false =>
        show Writes ("for (" ++ "" ++ name) _
        rw [String.append_empty]
        exact hfor.append_writes hname.writes
  have hlead := hdeclared.append_always hcolon fun rest => closes_cons (c := ' ') rfl (by decide) _
  have hwhole : Grammar.Recites inLoop body.looseEnds
      (reserved .kwFor :: sign .lparen :: (Grammar.foreachWords declared name name ++
        sign .colon :: (cs ++ sign .rparen :: ws)))
      (.foreach span name declared iterable body) := Grammar.recites_foreach hL hcs hrecites
  exact of_body rfl rfl ((writes_head hlead hcwrites hwrites).cast (by simp)) hwhole

/-! ### Steps that leave -/

theorem breakLoop : PrintsStatement true (.breakLoop span) :=
  of_text rfl ((writes_reserved .kwBreak).append_always writes_semicolon closes_semicolon)
    Grammar.recites_breakLoop

theorem continueLoop : PrintsStatement true (.continueLoop span) :=
  of_text rfl ((writes_reserved .kwContinue).append_always writes_semicolon closes_semicolon)
    Grammar.recites_continueLoop

theorem returnValue {value : Option Node} (hL : Grammar.Lambdas L)
    (h : ∀ t ∈ value, PrintsOperand L dollar t) :
    PrintsStatement inLoop (.returnValue span value) := by
  cases value with
  | none =>
      have hwhole :=
        (writes_reserved .kwReturn).append_always writes_semicolon closes_semicolon
      exact of_text rfl hwhole (Grammar.recites_returnValue hL .none)
  | some value =>
      obtain ⟨ws, hws, hwrites⟩ := (h value rfl).whole
      have hreturn : WritesAlways "return " [reserved .kwReturn] :=
        writes_glyphs [.word .kwReturn] rfl rfl
      have hwhole := (hreturn.append_writes hwrites).append_always writes_semicolon closes_semicolon
      exact of_text rfl hwhole (Grammar.recites_returnValue hL (.some hws))

/-! ### Sequences and annotations -/

/-- **Statements are written one after the other.** -/
theorem sequenced {ts : List Node} (h : ∀ t ∈ ts, PrintsStatement inLoop t) :
    ∃ ws, Grammar.RecitesAll inLoop ws ts ∧
      WritesAlways (Node.sequenced ts (Node.bareAll ts)) ws := by
  induction ts with
  | nil => exact ⟨[], .nil, fun _ _ hscan => hscan⟩
  | cons t ts ih =>
      obtain ⟨ws, hwrites, hrecites, -⟩ := h t List.mem_cons_self
      obtain ⟨us, hall, hrest⟩ := ih fun t ht => h t (List.mem_cons_of_mem _ ht)
      refine ⟨_, .cons hrecites hall, ?_⟩
      cases ts with
      | nil =>
          cases hall
          rw [List.append_nil]
          exact hwrites
      | cons next ts =>
          have htext : Node.sequenced (t :: next :: ts) (Node.bareAll (t :: next :: ts)) =
              t.terminated t.bare ++ " " ++
                Node.sequenced (next :: ts) (Node.bareAll (next :: ts)) :=
            String.intercalate_cons_cons
          rw [htext]
          exact ((hwrites.append writes_blank).append hrest).cast (by simp)

theorem block {ts : List Node} (h : ∀ t ∈ ts, PrintsStatement inLoop t) :
    PrintsStatement inLoop (.block span ts) := by
  obtain ⟨ws, hall, hwrites⟩ := sequenced h
  refine ⟨_, ?_, Grammar.recites_block hall, fun _ => rfl⟩
  cases ts with
  | nil =>
      cases hall
      have hempty : WritesAlways "\x7b \x7d" [sign .lbrace, sign .rbrace] :=
        writes_glyphs [.sign .lbrace, .blank, .sign .rbrace] rfl rfl
      exact hempty
  | cons t ts =>
      have hopening : WritesAlways "\x7b " [sign .lbrace] :=
        writes_glyphs [.sign .lbrace, .blank] rfl rfl
      have hclosing : WritesAlways " \x7d" [sign .rbrace] :=
        writes_glyphs [.blank, .sign .rbrace] rfl rfl
      exact ((hopening.append hwrites).append hclosing).cast (by simp)

/-- A statement with a semicolon behind it, block or not. -/
theorem withSemicolon (h : PrintsStatement inLoop t) : ∃ ws, WritesAlways (t.bare ++ ";") ws ∧
    Grammar.Recites inLoop (if t.isBlock then 1 else t.looseEnds) ws t := by
  obtain ⟨ws, hwrites, hrecites, -⟩ := h
  cases hblock : t.isBlock with
  | false =>
      rw [Node.terminated_of_isBlock hblock] at hwrites
      exact ⟨ws, hwrites, hrecites⟩
  | true =>
      rw [Node.looseEnds_of_isBlock hblock] at hrecites
      rw [Node.bare_of_isBlock hblock] at hwrites
      exact ⟨_, hwrites.append writes_semicolon, hrecites.semicolon⟩

theorem annotated {name : String} {args : List Node} (hL : Grammar.Lambdas L)
    (hname : IsWordName name) (hargs : ∀ arg ∈ args, PrintsOperand L dollar arg)
    (h : PrintsStatement inLoop statement)
    (hnone : args.isEmpty = true → opensWith (.symbol .lparen) (statement.bare ++ ";") = false) :
    PrintsStatement inLoop (.annotated span name args statement) := by
  obtain ⟨ws, hwrites, hrecites⟩ := h.withSemicolon
  have hsign : WritesAlways "@" [sign .atSign] := writes_glyphs [.sign .atSign] rfl rfl
  obtain ⟨cs, hcs, hcwrites⟩ := prints_arguments hargs
    (hsign.append_writes (writes_name hname.1))
  have hparen : args = [] → headKind ws ≠ .symbol .lparen := by
    rintro rfl hkind
    have hne : ws ≠ [] := by
      rintro rfl
      exact absurd hrecites.starts Bool.noConfusion
    have hopens := hnone rfl
    rw [opensWith_eq hwrites.writes hne, hkind] at hopens
    exact absurd hopens (by simp)
  refine of_text rfl ?_ (Grammar.recites_annotated hL (valid_named name) hname.name? hcs hparen
    hrecites)
  have hwhole := (hcwrites.append_always writes_blank closes_blank).append hwrites
  rw [← String.append_assoc] at hwhole
  exact hwhole.cast (by simp [named])

end PrintsStatement

end Statements

/-! ## Function literals -/

section Functions

variable {L : List Word → Node → Prop} {dollar : Bool} {span : Span} {id : LambdaId}
variable {params : List String} {body : Node}

/-- **Parameters are written with commas between them.** -/
theorem writes_parameters (h : ∀ name ∈ params, IsName name) :
    Writes (", ".intercalate params) (parameterWords params) := by
  induction params with
  | nil => exact writes_nothing
  | cons name params ih =>
      obtain ⟨hname, hparams⟩ := List.forall_mem_cons.mp h
      cases params with
      | nil => exact hname.writes
      | cons next params =>
          have htext : ", ".intercalate (name :: next :: params) =
              name ++ ", " ++ ", ".intercalate (next :: params) := String.intercalate_cons_cons
          rw [htext]
          exact writes_comma hname.writes (ih hparams)

/-- The head of a function literal. -/
theorem writes_functionHead (h : ∀ name ∈ params, IsName name) :
    WritesAlways ("(" ++ ", ".intercalate params ++ ") -> ") (headWords params) := by
  have hopening : WritesAlways "(" [sign .lparen] := writes_glyphs [.sign .lparen] rfl rfl
  have harrow : WritesAlways ") -> " [sign .rparen, sign .arrow] :=
    writes_glyphs [.sign .rparen, .blank, .spaced .arrow] rfl rfl
  exact (hopening.append_writes (writes_parameters h)).append_always harrow
    fun rest => closes_cons (c := ')') rfl (by decide) _

namespace PrintsOperand

/-- What is read as a function literal is an operand, if its body is written so. -/
theorem of_functionWords {us : List Word} (hnames : ∀ name ∈ params, IsName name)
    (hwrites : Writes (if body.isBlock then body.bare
      else body.grouped Binding.assignment body.bare) us)
    (h : FunctionWords (headWords params ++ us) (.lambda span id params body)) :
    PrintsOperand FunctionWords dollar (.lambda span id params body) :=
  of_loose (by decide : Binding.assignment < Binding.postfixChain)
    ⟨_, .lambda (Nat.min_le_left _ _) h, (writes_functionHead hnames).append_writes hwrites⟩

/-- A function literal with an expression for its body. -/
theorem lambda (hnodup : params.Nodup) (hnames : ∀ name ∈ params, IsName name)
    (hbody : PrintsOperand FunctionWords dollar body) (hblock : body.isBlock = false)
    (halone : body.standsAlone = true) :
    PrintsOperand FunctionWords dollar (.lambda span id params body) := by
  have hL := Grammar.lambdas_functionWords
  obtain ⟨ws, hws, hwrites⟩ := hbody.prints.mono body.assignment_le_readingPower
  have hne : ws ≠ [] := by
    rintro rfl
    exact hws.opens hL.opens
  have hbrace : headKind ws ≠ .symbol .lbrace := by
    intro hbrace
    simp [Node.standsAlone, hblock, opensWith_eq hwrites hne, hbrace] at halone
  have hgrouped : body.grouped Binding.assignment body.bare = body.bare :=
    if_neg (Nat.not_lt_of_le body.assignment_le_bindingPower)
  refine of_functionWords hnames ?_ (Grammar.functionWords_of_expression hL hnodup hws hbrace)
  rw [hblock, hgrouped]
  exact hwrites

/-- A function literal with a block for its body. -/
theorem lambdaBlock (hnodup : params.Nodup) (hnames : ∀ name ∈ params, IsName name)
    (hbody : PrintsStatement false body) (hblock : body.isBlock = true) :
    PrintsOperand FunctionWords dollar (.lambda span id params body) := by
  obtain ⟨ws, hwrites, hrecites, hbrace⟩ := hbody
  rw [Node.looseEnds_of_isBlock hblock] at hrecites
  rw [Node.bare_of_isBlock hblock] at hwrites
  refine of_functionWords hnames ?_
    (Grammar.functionWords_of_block hnodup hrecites (hbrace hblock)
      (Node.hangs_of_isBlock hblock))
  rw [hblock]
  exact hwrites.writes

end PrintsOperand

end Functions

end ScriptEngine

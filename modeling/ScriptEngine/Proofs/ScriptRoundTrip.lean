import ScriptEngine.Proofs.FormedPrograms
import ScriptEngine.Proofs.Places
import ScriptEngine.Proofs.ShownNumbers
import ScriptEngine.Proofs.StatementTexts

/-!
# Reading scripts that were written

A script that was read from a source is written as its canonical text, and that text is read as
the same script, up to places, unless one of its nodes is written in a way that another tree is
read from.  `Node.readsBack` says of a node whether it is; it looks at the node and at the texts
of its parts only.

* `Node.readsBack`, `Node.Faithful` — nodes that are read back where their parts are, and trees
  of such nodes;
* `Node.Formed.printed` — the texts of trees that were read;
* `Node.ofScript_render` — the round trip of a script.
-/

namespace ScriptEngine

open Word

/-! ## Directives -/

/-- The text of the value of a directive. -/
theorem Literal.writes_words {value : Literal} (h : value.IsSignedWritable) :
    Writes value.render value.words := by
  cases value with
  | nil => exact writes_reserved .kwNull
  | bool value =>
      cases value with
      | true => exact writes_reserved .kwTrue
      | false => exact writes_reserved .kwFalse
  | text value => exact writes_text value
  | number q =>
      obtain ⟨k, hk⟩ := h
      by_cases hq : q < 0
      · have hpos : 0 ≤ -q := (neg_pos.mpr hq).le
        have hden : (-q).den ∣ 10 ^ k := by rwa [Rat.neg_den]
        obtain ⟨c, cs, htext, hc⟩ : Leads (Literal.number (-q)).render :=
          leads_literal ⟨hpos, k, hden⟩
        simp only [words, if_pos hq]
        intro rest us hrest hscan
        have hnumber := writes_number hpos hden rest us hrest hscan
        rw [show (Literal.number q).render.toList = '-' :: (-q).render.toList from
          Number.render_of_neg hq]
        refine scans_sign (s := .minus) (fun d hd => ?_) hnumber
        rw [show (-q).render.toList = c :: cs from htext] at hd
        obtain rfl := Option.some.inj hd
        exact joins_eq_false (startsComment_of_ne (by decide) [c]) hc
      · simp only [words, if_neg hq]
        exact writes_number (not_lt.mp hq) hk

/-- A name in several parts. -/
theorem writes_pointWords {name : String} {ws : List Word} {parts : List String}
    (hname : Writes name ws) (h : ∀ part ∈ parts, IsWordName part) :
    Writes (dottedName name parts) (ws ++ pointWords parts) := by
  induction parts generalizing name ws with
  | nil =>
      rw [show pointWords [] = [] from rfl, List.append_nil]
      exact hname
  | cons part parts ih =>
      obtain ⟨hpart, hparts⟩ := List.forall_mem_cons.mp h
      have hmember := writes_append (closes_member hpart.1) hname (firm_member hpart.1).writes
      rw [← String.append_assoc] at hmember
      have hwhole := ih hmember hparts
      rw [List.append_assoc] at hwhole
      exact hwhole

/-- **A directive is written on a line of its own.** -/
theorem Pragma.IsWritable.writes {p : Pragma} (h : p.IsWritable) :
    ∃ ws, SpellsPragma ws p ∧ WritesAlways (p.render ++ "\n") ws := by
  obtain ⟨key, value⟩ := p
  obtain ⟨⟨part, parts, hparts, rfl⟩, hvalue⟩ := h
  obtain ⟨hpart, hmore⟩ := List.forall_mem_cons.mp hparts
  have hhash : WritesAlways "#" [sign .hash] := writes_glyphs [.sign .hash] rfl rfl
  have hline : WritesAlways "\n" [] := fun rest us hscan => .blank (c := '\n') rfl hscan
  have hlead := (hhash.append_writes (writes_name isWordName_pragma.1)).append_always writes_blank
    closes_blank
  have hkey := (hlead.append_writes (writes_pointWords (writes_name hpart.1) hmore)).append_always
    writes_blank closes_blank
  have hwhole := (hkey.append_writes (Literal.writes_words hvalue)).append_always hline
    fun rest => closes_cons (c := '\n') rfl (by decide) _
  refine ⟨_, .intro hparts, ?_⟩
  show WritesAlways ("#pragma " ++ dottedName part parts ++ " " ++ value.render ++ "\n") _
  exact hwhole.cast (by simp [named])

/-- Directives are written one after the other. -/
theorem writes_pragmas {ps : List Pragma} (h : ∀ p ∈ ps, p.IsWritable) :
    ∃ ws, SpellsPragmas ws ps ∧
      WritesAlways (String.join (ps.map fun p => p.render ++ "\n")) ws := by
  induction ps with
  | nil => exact ⟨[], .nil, fun _ _ hscan => hscan⟩
  | cons p ps ih =>
      obtain ⟨hp, hps⟩ := List.forall_mem_cons.mp h
      obtain ⟨ws, hspells, hwrites⟩ := hp.writes
      obtain ⟨us, hspells', hwrites'⟩ := ih hps
      refine ⟨_, .cons hspells hspells', ?_⟩
      rw [List.map_cons, String.join_cons]
      exact hwrites.append hwrites'

/-! ## Nodes that are read back -/

namespace Node

/-- **Whether a node is read back** where its parts are.  All are, but for what is written in a
way that something else is read from:

* `!` before a name with a dollar sign is another operator;
* a step is not put in parentheses where something is accessed of it, and the name of a member
  is written as it is, whatever characters are in it;
* a call of a property is a call of a method, and what is called `new` is constructed;
* a statement, or the body of a function, that starts with a brace is a block;
* a semicolon that is left over behind the first branch of an `if`, or behind the body of a
  loop, comes between it and the word after it;
* parentheses behind the name of an annotation are its arguments. -/
def readsBack : Node → Bool
  | unary _ .not operand =>
    decide ((operand.grouped (Binding.unary + 1) operand.bare).toList.head? ≠ some '$')
  | property _ object name | methodCall _ object name _ => object.admits name
  | index _ object _ => !object.isPostfixStep
  | call _ callee _ => !callee.isPostfixStep && callee.isCallable
  | ifElse _ _ thenBranch (some elseBranch) =>
    thenBranch.standsAlone && decide (thenBranch.looseEnds ≤ 1) && elseBranch.standsAlone
  | doWhile _ body _ => body.standsAlone && decide (body.looseEnds = 0)
  | lambda _ _ _ body | ifElse _ _ body none | forLoop _ _ _ _ body | foreach _ _ _ _ body
  | whileLoop _ _ body => body.standsAlone
  | block _ statements | script _ statements _ => statements.all standsAlone
  | annotated _ _ args statement =>
    statement.standsAlone &&
      !(args.isEmpty && opensWith (.symbol .lparen) (statement.bare ++ ";"))
  | _ => true

/-- A tree in which every node is read back. -/
def Faithful (tree : Node) : Prop := ∀ node : Node, node.Within tree → node.readsBack = true

/-- A tree is faithful if its node is read back and its parts are faithful. -/
theorem faithful_iff {tree : Node} :
    tree.Faithful ↔ tree.readsBack = true ∧ ∀ child ∈ tree.children, child.Faithful :=
  forall_within_iff

theorem Faithful.here {tree : Node} (h : tree.Faithful) : tree.readsBack = true := h tree .here

theorem Faithful.child {tree child : Node} (h : tree.Faithful) (hchild : child ∈ tree.children) :
    child.Faithful :=
  (faithful_iff.mp h).2 child hchild

/-- What is asked of the text of a tree where it stands. -/
def Printed : Role → Node → Prop
  | .operand, t => PrintsOperand FunctionWords true t
  | .start, t => PrintsStart FunctionWords t
  | .statement inLoop, t => t.standsAlone = true → PrintsStatement inLoop t

/-- What may start a counting loop is a statement. -/
theorem Formed.statement_printed {inLoop : Bool} {t : Node} (h : t.Formed .start)
    (hprinted : t.Printed .start) : t.Printed (.statement inLoop) := by
  intro halone
  cases h with
  | expression h =>
      have hstatement := h.isStatement_eq_false
      exact .of_start Grammar.lambdas_functionWords hprinted (isBlock_of_isStatement hstatement)
        (looseEnds_of_isStatement hstatement) halone
  | var => exact .of_start Grammar.lambdas_functionWords hprinted rfl rfl halone

/-- **The text of a tree that was read is read as that tree**, if everything in it is read
back. -/
theorem Formed.printed {role : Role} {t : Node} (h : t.Formed role) (hback : t.Faithful) :
    t.Printed role := by
  have hL := Grammar.lambdas_functionWords
  induction h with
  | literal h => exact .literal h
  | ident h => exact .ident h nofun
  | binary hop _ _ ihleft ihright =>
      exact .binary hop (ihleft (hback.child (.head _))) (ihright (hback.child (.tail _ (.head _))))
  | range _ _ ihfirst ihlast =>
      exact .range (ihfirst (hback.child (.head _))) (ihlast (hback.child (.tail _ (.head _))))
  | unary _ ih =>
      have hhere := hback.here
      refine .unary (ih (hback.child (.head _))) fun _ hnot => ?_
      subst hnot
      exact of_decide_eq_true hhere
  | ternary _ _ _ ihcond ihthen ihelse =>
      exact .ternary (ihcond (hback.child (.head _))) (ihthen (hback.child (.tail _ (.head _))))
        (ihelse (hback.child (.tail _ (.tail _ (.head _)))))
  | elvis _ _ ihleft ihright =>
      exact .elvis _ (ihleft (hback.child (.head _))) (ihright (hback.child (.tail _ (.head _))))
  | assign htarget _ _ ihtarget ihvalue =>
      exact .assign htarget (ihtarget (hback.child (.tail _ (.head _))))
        (ihvalue (hback.child (.head _)))
  | step hop htarget _ ih =>
      exact .step hop htarget (ih (hback.child (.tail _ (.head _)))) (.refl _)
  | property _ ih =>
      have hhere := hback.here
      exact .property (ih (hback.child (.head _))) hhere
  | index _ _ ih ihkey =>
      have hhere := hback.here
      exact .index ((Bool.not_eq_true' _).mp hhere) (ih (hback.child (.head _)))
        (ihkey (hback.child (.tail _ (.head _))))
  | methodCall _ _ ih ihargs =>
      have hhere := hback.here
      exact .methodCall hhere (ih (hback.child (.head _))) fun arg harg =>
        ihargs arg harg (hback.child (.tail _ harg))
  | call _ _ ih ihargs =>
      have hhere := hback.here
      obtain ⟨hstep, hcallable⟩ := Bool.and_eq_true_iff.mp hhere
      exact .call ((Bool.not_eq_true' _).mp hstep) hcallable (ih (hback.child (.head _)))
        fun arg harg => ihargs arg harg (hback.child (.tail _ harg))
  | construct _ _ ih ihargs =>
      exact .construct (ih (hback.child (.head _))) fun arg harg =>
        ihargs arg harg (hback.child (.tail _ harg))
  | array _ ih =>
      exact .array fun item hitem => ih item hitem (hback.child hitem)
  | map _ _ ihkeys ihvalues =>
      refine .map (fun entry hentry => ?_) fun entry hentry => ?_
      · exact ihkeys entry hentry (hback.child (List.mem_flatMap.mpr ⟨entry, hentry, .head _⟩))
      · exact ihvalues entry hentry
          (hback.child (List.mem_flatMap.mpr ⟨entry, hentry, .tail _ (.head _)⟩))
  | set hne _ ih =>
      exact .set hne fun item hitem => ih item hitem (hback.child hitem)
  | lambda hnodup hnames hbody ih =>
      have hhere := hback.here
      exact .lambda hnodup hnames (ih (hback.child (.head _)))
        (isBlock_of_isStatement hbody.isStatement_eq_false) hhere
  | lambdaBlock hnodup hnames hblock _ ih =>
      have hhere := hback.here
      exact .lambdaBlock hnodup hnames (ih (hback.child (.head _)) hhere) hblock
  | expression _ ih => exact (ih hback).start
  | var hname _ ih =>
      exact prints_var hname fun value hvalue =>
        ih value hvalue (hback.child (Option.mem_toList.mpr hvalue))
  | simple h ih => exact h.statement_printed (ih hback)
  | ifThen _ _ ihcond ihthen =>
      have hhere := hback.here
      exact fun _ => .ifThen hL (ihcond (hback.child (.head _)))
        (ihthen (hback.child (.tail _ (.head _))) hhere)
  | ifElse _ hhangs _ _ ihcond ihthen ihelse =>
      have hhere := hback.here
      obtain ⟨hfirst, helse⟩ := Bool.and_eq_true_iff.mp hhere
      obtain ⟨hthen, hloose⟩ := Bool.and_eq_true_iff.mp hfirst
      exact fun _ => .ifElse hL (ihcond (hback.child (.head _)))
        (ihthen (hback.child (.tail _ (.head _))) hthen) (of_decide_eq_true hloose) hhangs
        (ihelse (hback.child (.tail _ (.tail _ (.head _)))) helse)
  | forLoop _ _ _ _ ihinit ihcond ihstep ihbody =>
      have hhere := hback.here
      refine fun _ => .forLoop hL (fun t ht => ihinit t ht (hback.child ?_))
        (fun t ht => ihcond t ht (hback.child ?_)) (fun t ht => ihstep t ht (hback.child ?_))
        (ihbody (hback.child ?_) hhere)
      all_goals simp_all [children]
  | foreach hname _ _ ihiterable ihbody =>
      have hhere := hback.here
      exact fun _ => .foreach hL hname (ihiterable (hback.child (.head _)))
        (ihbody (hback.child (.tail _ (.head _))) hhere)
  | whileLoop _ _ ihcond ihbody =>
      have hhere := hback.here
      exact fun _ => .whileLoop hL (ihcond (hback.child (.head _)))
        (ihbody (hback.child (.tail _ (.head _))) hhere)
  | doWhile _ _ ihbody ihcond =>
      have hhere := hback.here
      obtain ⟨halone, hloose⟩ := Bool.and_eq_true_iff.mp hhere
      exact fun _ => .doWhile hL (ihcond (hback.child (.tail _ (.head _))))
        (ihbody (hback.child (.head _)) halone) (of_decide_eq_true hloose)
  | block _ ih =>
      have hhere := hback.here
      exact fun _ => .block fun t ht => ih t ht (hback.child ht) (List.all_eq_true.mp hhere t ht)
  | breakLoop => exact fun _ => .breakLoop
  | continueLoop => exact fun _ => .continueLoop
  | returnValue _ ih =>
      exact fun _ => .returnValue hL fun t ht => ih t ht (hback.child (Option.mem_toList.mpr ht))
  | annotated hname _ _ ihargs ih =>
      have hhere := hback.here
      obtain ⟨halone, hparen⟩ := Bool.and_eq_true_iff.mp hhere
      refine fun _ => .annotated hL hname
        (fun arg harg => ihargs arg harg (hback.child (List.mem_append_left _ harg)))
        (ih (hback.child (List.mem_append_right _ (.head _))) halone) fun hnone => ?_
      simpa [hnone] using hparen

end Node

/-! ## The round trip -/

/-- **Reading undoes writing.**  A script that was read from a source is read again from its
canonical text, up to places, if everything in it is read back. -/
theorem Node.ofScript_render {source : String} {unit : Nat} {params : List String} {tree : Node}
    (h : Node.ofScript ⟨.standard, unit⟩ params (Token.ofSource source) = .ok tree)
    (hback : tree.Faithful) :
    ∃ read, Node.ofScript ⟨.standard, unit⟩ params (Token.ofSource tree.render) = .ok read ∧
      read.Alike tree := by
  cases Node.formed_of_ofScript h with
  | @intro span body pragmas hbody hpragmas =>
      have halone := List.all_eq_true.mp hback.here
      obtain ⟨ds, hspells, hwrites⟩ := writes_pragmas hpragmas
      obtain ⟨ws, hrecites, hwrites'⟩ := PrintsStatement.sequenced fun t ht =>
        (hbody t ht).printed (hback.child ht) (halone t ht)
      have hscan : Scans (Node.render (.script span body pragmas)).toList
          (ds ++ ws ++ [final]) := by
        have hwhole := (hwrites.append hwrites') [] [final] .done
        rwa [List.append_nil] at hwhole
      refine Node.ofScript_of_recites hspells hrecites ?_ span unit params
      rw [hscan.ofSource, List.append_assoc]

/-- A directive, a branch before a semicolon and an empty block behind it. -/
theorem Node.ofScript_render_branch :
    ∃ tree : Node, Node.ofScript ⟨.standard, 0⟩ []
        (Token.ofSource "#pragma k true\nif(!a)x.y;else\x7b\x7d") = .ok tree ∧
      tree.Faithful ∧
      tree.render = "#pragma k true\nif (!a) x.y; else \x7b \x7d;" ∧
      ∃ read, Node.ofScript ⟨.standard, 0⟩ [] (Token.ofSource tree.render) = .ok read ∧
        read.Alike tree := by
  have htree : Node.ofScript ⟨.standard, 0⟩ []
      (Token.ofSource "#pragma k true\nif(!a)x.y;else\x7b\x7d") = .ok (.script ⟨0, 31⟩
        [.ifElse ⟨15, 31⟩ (.unary ⟨18, 20⟩ .not (.ident ⟨19, 20⟩ "a"))
          (.property ⟨21, 24⟩ (.ident ⟨21, 22⟩ "x") "y") (some (.block ⟨29, 31⟩ []))]
        [⟨"k", .bool true⟩]) := rfl
  refine ⟨_, htree, ?hback, rfl, ofScript_render htree ?hback⟩
  have hleaf : ∀ t : Node, t.readsBack = true → t.children = [] → t.Faithful :=
    fun t ht hnone => faithful_iff.mpr ⟨ht, hnone ▸ List.forall_mem_nil _⟩
  have hone : ∀ t part : Node, t.readsBack = true → t.children = [part] → part.Faithful →
      t.Faithful :=
    fun t part ht hone h => faithful_iff.mpr ⟨ht, hone ▸ List.forall_mem_singleton.mpr h⟩
  refine hone _ _ rfl rfl (faithful_iff.mpr ⟨rfl, ?_⟩)
  refine List.forall_mem_cons.mpr ⟨?_, List.forall_mem_cons.mpr ⟨?_, ?_⟩⟩
  · exact hone _ _ rfl rfl (hleaf _ rfl rfl)
  · exact hone _ _ rfl rfl (hleaf _ rfl rfl)
  · exact List.forall_mem_singleton.mpr (hleaf _ rfl rfl)

/-- The step of `(x++).y` loses its parentheses, and what is written is no script. -/
theorem Node.ofScript_render_step :
    ∃ source tree, Node.ofScript ⟨.standard, 0⟩ [] (Token.ofSource source) = .ok tree ∧
      ¬∃ read, Node.ofScript ⟨.standard, 0⟩ [] (Token.ofSource tree.render) = .ok read ∧
        read.Alike tree := by
  let target : Node := .ident ⟨1, 2⟩ "x"
  let step : Node := .assign ⟨1, 4⟩ target
    (.binary ⟨1, 4⟩ .add target (.literal ⟨1, 4⟩ (.number 1))) true
  refine ⟨"(x++).y", .script ⟨0, 7⟩ [.property ⟨0, 7⟩ step "y"] [], rfl, ?_⟩
  rintro ⟨read, hread, -⟩
  have htext : Node.render (.script ⟨0, 7⟩ [.property ⟨0, 7⟩ step "y"] []) = "x++.y;" := rfl
  rw [htext] at hread
  obtain ⟨e, herror⟩ : ∃ e, Node.ofScript ⟨.standard, 0⟩ [] (Token.ofSource "x++.y;") = .error e :=
    ⟨_, rfl⟩
  cases herror.symm.trans hread

end ScriptEngine

import ScriptEngine.Grammar.Program
import ScriptEngine.Proofs.Declarations
import ScriptEngine.Proofs.PairedReading

/-!
# Reading with checks of declarations and without

One source is read in two dialects that differ in the lexical checks only: the lax one has
none of them, the strict one may have both.  The strict reading does what the lax one does
as long as it meets no declaration that is rejected, and fails after one.  Whenever it fails,
it does so at a place that is known beforehand: what is asked of places holds of all tokens,
and of what can be made of the places of tokens.

What the lax reading comes to is described by an outcome: its result, the scopes that are
open after it, and the declarations that were met.  A rule for each way to put steps together
says how the outcome of the whole is found.

* `Checking` — two such dialects, and what is asked of places;
* `Checking.Accounts` — a step that comes to an outcome, in either dialect;
* `Checking.accounts_bind`, `Checking.accounts_inScope`, … — how steps are put together;
* `Grammar.Accounted` — grammars whose productions account for their declarations.
-/

namespace ScriptEngine

/-! ## Outcomes -/

/-- What is shown of the end of a step: of its result, of the scopes that are open there, and
of the declarations that were met on the way. -/
abbrev Checking.Outcome (α : Type) := α → List Scope → List Declaration → Prop

namespace Checking.Outcome

variable {α : Type}

/-- Nothing is declared. -/
@[reducible]
def plain (scopes : List Scope) (holds : α → Prop) : Outcome α := fun a last met =>
  last = scopes ∧ met = [] ∧ holds a

/-- Nothing is declared, and nothing is said of the result. -/
@[reducible]
def silent (scopes : List Scope) : Outcome α := plain scopes fun _ => True

/-- A walk through the result meets what was declared, and no scope is changed. -/
@[reducible]
def within (scopes : List Scope) (walk : α → Walk) (holds : α → Prop) : Outcome α :=
  fun a last met => last = scopes ∧ (walk a).Does scopes met scopes ∧ holds a

/-- The same, and nothing more is said of the result. -/
@[reducible]
def parts (scopes : List Scope) (walk : α → Walk) : Outcome α := within scopes walk fun _ => True

/-- A walk through the result meets what was declared. -/
@[reducible]
def along (scopes : List Scope) (walk : α → Walk) : Outcome α := fun a last met =>
  (walk a).Does scopes met last

/-- The outcome of the rest, where some declarations have been met before. -/
@[reducible]
def later (before : List Declaration) (outcome : Outcome α) : Outcome α := fun a last met =>
  outcome a last (before ++ met)

end Checking.Outcome

/-! ## Dialects that differ in the lexical checks -/

/-- Whether a feature only asks for declarations to be checked. -/
def Feature.isLexicalCheck (f : Feature) : Bool := f = .lexical || f = .lexicalShade

theorem Feature.isLexicalCheck_eq_false {f : Feature} :
    f.isLexicalCheck = false ↔ f ≠ .lexical ∧ f ≠ .lexicalShade := by
  simp [isLexicalCheck]

/-- **Two dialects that differ in the lexical checks**, and what is asked of places. -/
structure Checking where
  /-- The dialect without lexical checks. -/
  lax : Dialect
  strict : Dialect
  /-- What is asked of places. -/
  Here : Span → Prop
  unit : strict.unit = lax.unit
  features : ∀ f, f.isLexicalCheck = false → strict.features.has f = lax.features.has f
  lexical : lax.features.has .lexical = false
  lexicalShade : lax.features.has .lexicalShade = false
  nowhere : Here .none
  merge : ∀ {a b : Span}, Here a → Here b → Here (a.merge b)
  behind : ∀ {a : Span}, Here a → Here ⟨a.stop, a.stop⟩

namespace Checking

variable (q : Checking)

/-- All the tokens are where places may be. -/
def Anchored (c : Cursor) : Prop := ∀ token ∈ c.tokens, q.Here token.span

/-- A declaration that the strict dialect admits. -/
def Admits (d : Declaration) : Prop :=
  Parse.declarationFault? q.strict.features d.name d.scopes = none

/-- A failure at a place that may be one. -/
def Fails {α : Type} (ending : Except ParseError α) : Prop :=
  ∃ e, ending = .error e ∧ q.Here e.span

/-- The ends of one step in both dialects.  If all that was declared on the way is admitted,
the strict one ends as the lax one does, and otherwise it fails. -/
def Ends {α : Type} (outcome : Outcome α) :
    (ending ending' : Except ParseError (α × Progress)) → Prop
  | .ok (a, s), ending' => q.Anchored s.cursor ∧ ∃ met, outcome a s.scopes met ∧
      ((∀ d ∈ met, q.Admits d) ∧ ending' = .ok (a, s) ∨
        (¬∀ d ∈ met, q.Admits d) ∧ q.Fails ending')
  | .error _, ending' => q.Fails ending'

/-- An operand is at a place that may be one. -/
@[reducible]
def operand (scopes : List Scope) : Outcome Node :=
  .within scopes Node.walk fun node => q.Here node.span

/-- **A step that accounts for its declarations**: where certain scopes are open, it comes
to an outcome, in either dialect. -/
def Accounts {α : Type} (scopes : List Scope) (step : Parse α) (outcome : Outcome α) : Prop :=
  ∀ s, s.scopes = scopes → q.Anchored s.cursor → q.Ends outcome (step q.lax s) (step q.strict s)

variable {q} {α β : Type} {scopes : List Scope} {step : Parse α} {next : α → Parse β}

/-! ## Places -/

theorem Anchored.current {c : Cursor} (h : q.Anchored c) : q.Here c.current.span := by
  unfold Cursor.current
  cases hafter : c.after with
  | nil => exact q.nowhere
  | cons token rest =>
      have hmem : token ∈ c.tokens := List.mem_append_right _ (hafter ▸ List.mem_cons_self)
      exact h token hmem

theorem Anchored.endSpan {c : Cursor} (h : q.Anchored c) : q.Here c.endSpan := by
  unfold Cursor.endSpan
  split
  · rename_i token hfound
    refine q.behind (h token ?_)
    rcases Option.or_eq_some_iff.mp hfound with hlast | ⟨-, hhead⟩
    · exact List.mem_append_right _ (List.mem_of_getLast? hlast)
    · exact List.mem_append_left _ (List.mem_reverse.mpr (List.mem_of_head? hhead))
  · exact q.nowhere

theorem Anchored.currentSpan {c : Cursor} (h : q.Anchored c) : q.Here c.currentSpan := by
  show q.Here (if c.current.kind = .eof ∧ c.current.span = .none then c.endSpan
    else c.current.span)
  split
  · exact h.endSpan
  · exact h.current

theorem Anchored.previousSpan {c : Cursor} (h : q.Anchored c) : q.Here c.previousSpan := by
  unfold Cursor.previousSpan
  split
  · rename_i token rest hbefore
    have hmem : token ∈ c.tokens :=
      List.mem_append_left _ (List.mem_reverse.mpr (hbefore ▸ List.mem_cons_self))
    exact h token hmem
  · exact q.nowhere

theorem Anchored.advance {c : Cursor} (h : q.Anchored c) : q.Anchored c.advance := by
  intro token htoken
  refine h token ?_
  unfold Cursor.advance at htoken
  split at htoken
  · rename_i next rest hafter
    simpa [Cursor.tokens, hafter] using htoken
  · exact htoken

/-! ## Steps -/

/-- A step that does the same in both dialects, and declares nothing. -/
theorem accounts_same {outcome : Outcome α} (h : ∀ s, s.scopes = scopes → q.Anchored s.cursor →
    ∃ a s', step q.lax s = .ok (a, s') ∧ step q.strict s = .ok (a, s') ∧
      q.Anchored s'.cursor ∧ outcome a s'.scopes []) : q.Accounts scopes step outcome := by
  intro s hscopes hanchored
  obtain ⟨a, s', hlax, hstrict, hanchored', houtcome⟩ := h s hscopes hanchored
  rw [hlax, hstrict]
  exact ⟨hanchored', [], houtcome, .inl ⟨nofun, rfl⟩⟩

theorem accounts_pure {a : α} {outcome : Outcome α} (h : outcome a scopes []) :
    q.Accounts scopes (pure a) outcome :=
  accounts_same fun s hscopes hanchored => ⟨a, s, rfl, rfl, hanchored, hscopes ▸ h⟩

theorem accounts_fail {cause : ParseError.Cause} {span : Span} {outcome : Outcome α}
    (h : q.Here span) : q.Accounts scopes (Parse.fail cause span : Parse α) outcome :=
  fun _ _ _ => ⟨_, rfl, h⟩

/-- Nothing comes after a violation. -/
theorem accounts_stop {γ : Type} {cause : ParseError.Cause} {span : Span} {next : γ → Parse α}
    {outcome : Outcome α} (h : q.Here span) :
    q.Accounts scopes (Parse.fail cause span >>= next) outcome :=
  fun _ _ _ => ⟨_, rfl, h⟩

/-- An outcome says no more than what is shown. -/
theorem accounts_imp {outcome outcome' : Outcome α} (h : q.Accounts scopes step outcome)
    (himp : ∀ a last met, outcome a last met → outcome' a last met) :
    q.Accounts scopes step outcome' := by
  intro s hscopes hanchored
  have hends := h s hscopes hanchored
  cases hlax : step q.lax s with
  | error e =>
      rw [hlax] at hends
      exact hends
  | ok r =>
      rw [hlax] at hends
      obtain ⟨hanchored', met, houtcome, hstrict⟩ := hends
      exact ⟨hanchored', met, himp _ _ _ houtcome, hstrict⟩

/-- **One step after another.**  What the first one declares is counted with what the second
one does. -/
theorem accounts_bind {outcome : Outcome α} {outcome' : Outcome β}
    (h : q.Accounts scopes step outcome)
    (hnext : ∀ a between met, outcome a between met →
      q.Accounts between (next a) (.later met outcome')) :
    q.Accounts scopes (step >>= next) outcome' := by
  intro s hscopes hanchored
  have hends := h s hscopes hanchored
  show q.Ends outcome' (step q.lax s >>= fun r => next r.1 q.lax r.2)
    (step q.strict s >>= fun r => next r.1 q.strict r.2)
  -- a strict step that has failed is followed by nothing, whatever the lax one goes on to do
  have hfails (hstrict : q.Fails (step q.strict s)) :
      q.Fails (step q.strict s >>= fun r => next r.1 q.strict r.2) := by
    obtain ⟨e, hstrict, hhere⟩ := hstrict
    exact ⟨e, by rw [hstrict]; rfl, hhere⟩
  cases hlax : step q.lax s with
  | error e =>
      rw [hlax] at hends
      exact hfails hends
  | ok r =>
      rw [hlax] at hends
      obtain ⟨hanchored', met, houtcome, hstrict⟩ := hends
      have hrest := hnext r.1 r.2.scopes met houtcome r.2 rfl hanchored'
      show q.Ends outcome' (next r.1 q.lax r.2) _
      cases hlax' : next r.1 q.lax r.2 with
      | error e =>
          rw [hlax'] at hrest
          rcases hstrict with ⟨-, hstrict⟩ | ⟨-, hstrict⟩
          · rw [hstrict]
            exact hrest
          · exact hfails hstrict
      | ok r' =>
          rw [hlax'] at hrest
          obtain ⟨hanchored'', more, houtcome', hstrict'⟩ := hrest
          refine ⟨hanchored'', met ++ more, houtcome', ?_⟩
          rw [List.forall_mem_append]
          rcases hstrict with ⟨hmet, hstrict⟩ | ⟨hmet, hstrict⟩
          · rw [hstrict]
            rcases hstrict' with ⟨hmore, hstrict'⟩ | ⟨hmore, hstrict'⟩
            · exact .inl ⟨⟨hmet, hmore⟩, hstrict'⟩
            · exact .inr ⟨fun hall => hmore hall.2, hstrict'⟩
          · exact .inr ⟨fun hall => hmet hall.1, hfails hstrict⟩

/-- What was met in two parts was met before. -/
theorem accounts_later {first more : List Declaration} {outcome : Outcome α}
    (h : q.Accounts scopes step (.later (first ++ more) outcome)) :
    q.Accounts scopes step (.later more (.later first outcome)) :=
  accounts_imp h fun _ _ _ houtcome => by
    rwa [Outcome.later, List.append_assoc] at houtcome

section Binds

variable {holds : α → Prop} {outcome : Outcome β}

/-- After a step that declares nothing. -/
theorem accounts_plain (h : q.Accounts scopes step (.plain scopes holds))
    (hnext : ∀ a, holds a → q.Accounts scopes (next a) outcome) :
    q.Accounts scopes (step >>= next) outcome := by
  refine accounts_bind h ?_
  rintro a _ _ ⟨rfl, rfl, ha⟩
  exact hnext a ha

/-- After a step that changes no scope. -/
theorem accounts_within {walk : α → Walk} (h : q.Accounts scopes step (.within scopes walk holds))
    (hnext : ∀ a met, (walk a).Does scopes met scopes → holds a →
      q.Accounts scopes (next a) (.later met outcome)) :
    q.Accounts scopes (step >>= next) outcome := by
  refine accounts_bind h ?_
  rintro a _ met ⟨rfl, hwalk, ha⟩
  exact hnext a met hwalk ha

theorem accounts_map {f : α → β} (h : q.Accounts scopes step fun a => outcome (f a)) :
    q.Accounts scopes (f <$> step) outcome := by
  rw [map_eq_pure_bind]
  refine accounts_bind h fun a last met houtcome => accounts_pure ?_
  rwa [Outcome.later, List.append_nil]

/-! ## Looking at the state -/

theorem accounts_get {next : Progress → Parse β}
    (h : ∀ s, q.Accounts scopes (next s) outcome) : q.Accounts scopes (get >>= next) outcome :=
  fun s hscopes hanchored => h s s hscopes hanchored

/-- What is made of the dialect has to be the same of both. -/
theorem accounts_read {next : Dialect → Parse β} (hsame : next q.strict = next q.lax)
    (h : q.Accounts scopes (next q.lax) outcome) : q.Accounts scopes (read >>= next) outcome := by
  intro s hscopes hanchored
  show q.Ends outcome (next q.lax q.lax s) (next q.strict q.strict s)
  rw [hsame]
  exact h s hscopes hanchored

theorem accounts_cursor {next : Cursor → Parse β}
    (h : ∀ c, q.Anchored c → q.Accounts scopes (next c) outcome) :
    q.Accounts scopes (Parse.cursor >>= next) outcome :=
  fun s hscopes hanchored => h s.cursor hanchored s hscopes hanchored

theorem accounts_currentKind {next : TokenKind → Parse β}
    (h : ∀ kind, q.Accounts scopes (next kind) outcome) :
    q.Accounts scopes (Parse.currentKind >>= next) outcome :=
  fun s hscopes hanchored => h s.cursor.currentKind s hscopes hanchored

theorem accounts_currentSpan {next : Span → Parse β}
    (h : ∀ span, q.Here span → q.Accounts scopes (next span) outcome) :
    q.Accounts scopes (Parse.currentSpan >>= next) outcome :=
  fun s hscopes hanchored => h s.cursor.currentSpan hanchored.currentSpan s hscopes hanchored

theorem accounts_peek {n : Nat} {next : TokenKind → Parse β}
    (h : ∀ kind, q.Accounts scopes (next kind) outcome) :
    q.Accounts scopes (Parse.peek n >>= next) outcome :=
  fun s hscopes hanchored => h (s.cursor.peek n) s hscopes hanchored

theorem accounts_check {kind : TokenKind} {next : Bool → Parse β}
    (h : ∀ found, q.Accounts scopes (next found) outcome) :
    q.Accounts scopes (Parse.check kind >>= next) outcome :=
  fun s hscopes hanchored => h (s.cursor.check kind) s hscopes hanchored

theorem accounts_spanFrom {start : Span} (hstart : q.Here start) {next : Span → Parse β}
    (h : ∀ span, q.Here span → q.Accounts scopes (next span) outcome) :
    q.Accounts scopes (Parse.spanFrom start >>= next) outcome :=
  fun s hscopes hanchored => h (start.merge s.cursor.previousSpan)
    (q.merge hstart hanchored.previousSpan) s hscopes hanchored

/-- Both dialects have the same features, but for the lexical checks. -/
theorem accounts_require {f : Feature} {span : Span} {next : Unit → Parse β}
    (hspan : q.Here span) (hother : f.isLexicalCheck = false)
    (h : q.Accounts scopes (next ()) outcome) :
    q.Accounts scopes (Parse.require f span >>= next) outcome := by
  have hrequire : q.Accounts scopes (Parse.require f span) (.silent scopes) := by
    refine accounts_read ?_ ?_
    · rw [q.features f hother]
    · split
      · exact accounts_pure ⟨rfl, rfl, trivial⟩
      · exact accounts_fail hspan
  exact accounts_plain hrequire fun _ _ => h

/-! ## Passing tokens -/

theorem accounts_advance {next : Token → Parse β}
    (h : ∀ token, q.Here token.span → q.Accounts scopes (next token) outcome) :
    q.Accounts scopes (Parse.advance >>= next) outcome :=
  fun s hscopes hanchored => h s.cursor.current hanchored.current s.advance hscopes
    hanchored.advance

theorem accounts_eat {kind : TokenKind} {next : Bool → Parse β}
    (hyes : q.Accounts scopes (next true) outcome) (hno : q.Accounts scopes (next false) outcome) :
    q.Accounts scopes (Parse.eat kind >>= next) outcome := by
  have heat : q.Accounts scopes (Parse.eat kind) (.silent scopes) := by
    refine accounts_check fun found => ?_
    split
    · exact accounts_advance fun _ _ => accounts_pure ⟨rfl, rfl, trivial⟩
    · exact accounts_pure ⟨rfl, rfl, trivial⟩
  refine accounts_plain heat fun found _ => ?_
  cases found with
  | true => exact hyes
  | false => exact hno

theorem accounts_expect {kind : TokenKind} {next : Token → Parse β}
    (h : ∀ token, q.Accounts scopes (next token) outcome) :
    q.Accounts scopes (Parse.expect kind >>= next) outcome := by
  have hadvance : q.Accounts scopes Parse.advance (.silent scopes) :=
    accounts_same fun s hscopes hanchored =>
      ⟨_, s.advance, rfl, rfl, hanchored.advance, hscopes, rfl, trivial⟩
  have hexpect : q.Accounts scopes (Parse.expect kind) (.silent scopes) := by
    refine accounts_check fun found => ?_
    split
    · exact hadvance
    · exact accounts_currentKind fun _ => accounts_currentSpan fun _ hspan => accounts_fail hspan
  exact accounts_plain hexpect fun token _ => h token

end Binds

theorem accounts_expectIdent :
    q.Accounts scopes Parse.expectIdent (.plain scopes fun found => q.Here found.2) := by
  refine accounts_currentKind fun kind => ?_
  split
  · exact accounts_advance fun token htoken => accounts_pure ⟨rfl, rfl, htoken⟩
  · exact accounts_currentSpan fun _ hspan => accounts_fail hspan

theorem accounts_semicolons (fuel : Nat) :
    q.Accounts scopes (Parse.semicolons fuel) (.silent scopes) := by
  induction fuel with
  | zero => exact accounts_pure ⟨rfl, rfl, trivial⟩
  | succ fuel ih => exact accounts_eat ih (accounts_pure ⟨rfl, rfl, trivial⟩)

theorem accounts_expectEnd : q.Accounts scopes Parse.expectEnd (.silent scopes) := by
  refine accounts_cursor fun c _ => ?_
  split
  · exact accounts_pure ⟨rfl, rfl, trivial⟩
  · exact accounts_currentKind fun _ => accounts_currentSpan fun _ hspan => accounts_fail hspan

/-! ## Scopes and loops -/

/-- A change of the state, in the same way for all dialects. -/
theorem accounts_modify {f : Progress → Progress} (change : List Scope → List Scope)
    {next : Unit → Parse α} {outcome : Outcome α} (hcursor : ∀ s, (f s).cursor = s.cursor)
    (hscopes : ∀ s, (f s).scopes = change s.scopes)
    (h : q.Accounts (change scopes) (next ()) outcome) :
    q.Accounts scopes (modify f >>= next) outcome :=
  fun s heq hanchored => h (f s) ((hscopes s).trans (congrArg change heq))
    ((hcursor s).symm ▸ hanchored)

/-- The last thing done is a change of the state. -/
theorem accounts_restore {f : Progress → Progress} (change : List Scope → List Scope)
    {outcome outcome' : Outcome α} (hcursor : ∀ s, (f s).cursor = s.cursor)
    (hscopes : ∀ s, (f s).scopes = change s.scopes) (h : q.Accounts scopes step outcome)
    (himp : ∀ a last met, outcome a last met → outcome' a (change last) met) :
    q.Accounts scopes (do let a ← step; modify f; return a) outcome' := by
  refine accounts_bind h fun a last met houtcome => ?_
  refine accounts_modify change hcursor hscopes (accounts_pure ?_)
  rw [Outcome.later, List.append_nil]
  exact himp a last met houtcome

theorem accounts_inScope {isFunction : Bool} (outcome : Outcome α) {outcome' : Outcome α}
    (h : q.Accounts (⟨[], isFunction⟩ :: scopes) step outcome)
    (himp : ∀ a last met, outcome a last met → outcome' a last.tail met) :
    q.Accounts scopes (Parse.inScope isFunction step) outcome' :=
  accounts_modify (⟨[], isFunction⟩ :: ·) (fun _ => rfl) (fun _ => rfl)
    (accounts_restore List.tail (fun _ => rfl) (fun _ => rfl) h himp)

theorem accounts_inLoop {outcome : Outcome α} (h : q.Accounts scopes step outcome) :
    q.Accounts scopes (Parse.inLoop step) outcome :=
  accounts_modify id (fun _ => rfl) (fun _ => rfl)
    (accounts_restore id (fun _ => rfl) (fun _ => rfl) h fun _ _ _ h => h)

theorem accounts_inFunction (outcome : Outcome α) {outcome' : Outcome α}
    (h : q.Accounts (⟨[], true⟩ :: scopes) step outcome)
    (himp : ∀ a last met, outcome a last met → outcome' a last.tail met) :
    q.Accounts scopes (Parse.inFunction step) outcome' :=
  accounts_get fun _ => accounts_modify id (fun _ => rfl) (fun _ => rfl)
    (accounts_restore id (fun _ => rfl) (fun _ => rfl) (accounts_inScope outcome h himp)
      fun _ _ _ h => h)

/-! ## Declarations -/

/-- The state and the dialect are looked at. -/
theorem ends_look {s : Progress} {look : Progress → Dialect → Parse α} {outcome : Outcome α}
    (h : q.Ends outcome (look s q.lax q.lax s) (look s q.strict q.strict s)) :
    q.Ends outcome ((do look (← get) (← read)) q.lax s) ((do look (← get) (← read)) q.strict s) := h

/-- **A name is declared**: the lax dialect rejects nothing. -/
theorem accounts_declare (name : String) {span : Span} (hspan : q.Here span) :
    q.Accounts scopes (Parse.declare name span) fun _ last met =>
      (Walk.declare name).Does scopes met last := by
  intro s hscopes hanchored
  have hlax : Parse.declarationFault? q.lax.features name s.scopes = none :=
    (Parse.declarationFault_eq_none (d := ⟨name, s.scopes⟩)).mpr
      ⟨fun h => (Bool.false_ne_true (q.lexical ▸ h)).elim,
        fun h => (Bool.false_ne_true (q.lexicalShade ▸ h)).elim⟩
  refine ends_look ?_
  -- without the checks there is no fault, so what is left is whether the strict one finds one
  rw [hlax]
  refine ⟨hanchored, [⟨name, scopes⟩], hscopes ▸ .declare name, ?_⟩
  rw [List.forall_mem_singleton, Admits, ← hscopes]
  cases Parse.declarationFault? q.strict.features name s.scopes with
  | none => exact .inl ⟨rfl, rfl⟩
  | some fault => exact .inr ⟨Option.some_ne_none fault, _, rfl, hspan⟩

theorem accounts_declareAll {span : Span} (hspan : q.Here span) (names : List String) :
    q.Accounts scopes (Parse.declareAll span names) fun _ last met =>
      (Walk.declareAll names).Does scopes met last := by
  induction names generalizing scopes with
  | nil => exact accounts_pure .stay
  | cons name rest ih =>
      refine accounts_bind (accounts_declare name hspan) fun _ between met hname => ?_
      exact accounts_imp ih fun _ _ _ hrest => hname.andThen hrest

end Checking

/-! ## Productions -/

/-- **Grammars that account for declarations**: each production comes to an outcome. -/
structure Grammar.Accounted (g : Grammar) (q : Checking) : Prop where
  expr : ∀ {scopes}, q.Accounts scopes g.expr (q.operand scopes)
  assignment : ∀ {scopes}, q.Accounts scopes g.assignment (q.operand scopes)
  conditional : ∀ {scopes}, q.Accounts scopes g.conditional (q.operand scopes)
  binary : ∀ {scopes} (least : Nat), q.Accounts scopes (g.binary least) (q.operand scopes)
  binaryTail : ∀ {scopes met} (least : Nat) {start : Span} {left : Node}, q.Here start →
    left.walk.Does scopes met scopes → q.Here left.span →
    q.Accounts scopes (g.binaryTail least start left) (.later met (q.operand scopes))
  unary : ∀ {scopes}, q.Accounts scopes g.unary (q.operand scopes)
  accesses : ∀ {scopes met} {start : Span} {object : Node}, q.Here start →
    object.walk.Does scopes met scopes → q.Here object.span →
    q.Accounts scopes (g.accesses start object) (.later met (q.operand scopes))
  arguments : ∀ {scopes}, q.Accounts scopes g.arguments (.parts scopes Node.walkAll)
  items : ∀ {scopes}, q.Accounts scopes g.items (.parts scopes Node.walkAll)
  moreItems : ∀ {scopes}, q.Accounts scopes g.moreItems (.parts scopes Node.walkAll)
  moreEntries : ∀ {scopes}, q.Accounts scopes g.moreEntries (.parts scopes Node.walkEntries)
  parameters : ∀ {scopes} (params : List String),
    q.Accounts scopes (g.parameters params) (.silent scopes)
  dotted : ∀ {scopes} (name : String), q.Accounts scopes (g.dotted name) (.silent scopes)
  block : ∀ {scopes}, q.Accounts scopes g.block (.along scopes Node.walk)
  body : ∀ {scopes}, q.Accounts scopes g.body (.along scopes Node.walk)
  blockStatements : ∀ {scopes}, q.Accounts scopes g.blockStatements (.along scopes Node.walkAll)
  statements : ∀ {scopes}, q.Accounts scopes g.statements (.along scopes Node.walkAll)

end ScriptEngine

import ScriptEngine.Token

/-!
# A position in a list of tokens

A cursor divides a token list into the part before it, last token first, and
the part after it.  Past the end it reads an end token, so that a list without
one is read as if it had one; what is missing there lies at the end of the last
token.

* `current`, `peek` — the token at the cursor and the kinds that follow;
* `advance` — move past the current token, but never past the end;
* `seek` — move to a position counted from the start.
-/

namespace ScriptEngine

/-- A token list with a position in it. -/
structure Cursor where
  /-- The tokens before the position, last first. -/
  before : List Token
  /-- The tokens from the position on. -/
  after : List Token
  deriving Inhabited

namespace Cursor

/-- The start of a token list. -/
def ofList (tokens : List Token) : Cursor := ⟨[], tokens⟩

/-- The whole token list. -/
def tokens (c : Cursor) : List Token := c.before.reverse ++ c.after

/-- The number of tokens before the cursor. -/
def position (c : Cursor) : Nat := c.before.length

/-- Move to the position with `n` tokens before it, or to the end. -/
def seek (c : Cursor) (n : Nat) : Cursor :=
  ⟨(c.tokens.take n).reverse, c.tokens.drop n⟩

/-- The token at the cursor. -/
def current (c : Cursor) : Token := c.after.headD .missing

def currentKind (c : Cursor) : TokenKind := c.current.kind

/-- Where the last token of the list ends. -/
def endSpan (c : Cursor) : Span :=
  match (c.after.getLast?).or c.before.head? with
  | some t => ⟨t.span.stop, t.span.stop⟩
  | none => .none

/-- The place of the token at the cursor. -/
def currentSpan (c : Cursor) : Span :=
  let t := c.current
  if t.kind = .eof ∧ t.span = .none then c.endSpan else t.span

/-- The place of the token just before the cursor. -/
def previousSpan (c : Cursor) : Span :=
  match c.before with
  | t :: _ => t.span
  | [] => .none

/-- The kind of the token `n` places ahead; that of the current one for `0`. -/
def peek (c : Cursor) (n : Nat) : TokenKind :=
  match c.after[n]? with
  | some t => t.kind
  | none => .eof

def isAtEnd (c : Cursor) : Bool := c.currentKind = .eof

/-- Whether the current token is of the kind given. -/
def check (c : Cursor) (kind : TokenKind) : Bool := c.currentKind = kind

/-- Past the current token; at the end of the list nothing changes. -/
def advance (c : Cursor) : Cursor :=
  match c.after with
  | t :: rest => ⟨t :: c.before, rest⟩
  | [] => c

end Cursor

end ScriptEngine

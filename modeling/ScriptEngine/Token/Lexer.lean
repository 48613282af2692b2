import ScriptEngine.Token

/-!
# From source text to tokens

The lexer walks over a list of characters.  Each step gives back the text it
consumed and the text that is left, so nothing of the input is lost: the
lexeme and the rest put together are the input of the step.

* `Lexeme.next` reads the one token at the front of a text that starts neither
  with white space nor with a comment;
* `Trivia.skip` passes over white space and comments;
* `Token.ofSource` reads a whole source.  Its last token is the only end token.
-/

namespace ScriptEngine

/-- A token kind with the characters it was read from and those that follow. -/
structure Lexeme where
  kind : TokenKind
  taken : List Char
  rest : List Char

namespace Lexeme

/-- Characters that may start an identifier. -/
def startsName (c : Char) : Bool := isLetter c || c = '_' || c = '$'

/-- Characters that may continue an identifier. -/
def continuesName (c : Char) : Bool := isLetterOrNumber c || c = '_' || c = '$'

/-- The value of a hexadecimal digit. -/
def hexDigit? (c : Char) : Option Nat :=
  if '0' ≤ c ∧ c ≤ '9' then some (c.toNat - '0'.toNat)
  else if 'a' ≤ c ∧ c ≤ 'f' then some (c.toNat - 'a'.toNat + 10)
  else if 'A' ≤ c ∧ c ≤ 'F' then some (c.toNat - 'A'.toNat + 10)
  else none

/-- Cut off the decimal digits at the front. -/
def digits (cs : List Char) : List Char × List Char :=
  (cs.takeWhile Char.isDigit, cs.dropWhile Char.isDigit)

/-- An integer or decimal literal.  A point belongs to it only when a digit
follows, so that `1..3` is a range and `1.foo` an access. -/
def number (cs : List Char) : Lexeme :=
  let (whole, rest) := digits cs
  let (taken, rest) :=
    match rest with
    | '.' :: d :: more =>
      if d.isDigit then
        let (places, rest) := digits (d :: more)
        (whole ++ '.' :: places, rest)
      else (whole, rest)
    | _ => (whole, rest)
  match Number.ofDecimal? (String.ofList taken) with
  | some value => ⟨.number value, taken, rest⟩
  | none => ⟨.error (.unexpectedChar (taken.headD '0')), taken, rest⟩

/-- An identifier or a reserved word. -/
def word (cs : List Char) : Lexeme :=
  let taken := cs.takeWhile continuesName
  let name := String.ofList taken
  let kind := match Keyword.ofSpelling? name with
    | some keyword => .keyword keyword
    | none => .ident name
  ⟨kind, taken, cs.dropWhile continuesName⟩

/-- The code point that up to `count` hexadecimal digits at the front of a text
spell, with these digits and the rest; no value when one of them is missing. -/
def hexCode : (count code : Nat) → List Char → Option Nat × List Char × List Char
  | 0, code, cs => (some code, [], cs)
  | count + 1, code, c :: cs =>
    match hexDigit? c with
    | some d =>
      let (value, taken, rest) := hexCode count (16 * code + d) cs
      (value, c :: taken, rest)
    | none => (none, [], c :: cs)
  | _ + 1, _, [] => (none, [], [])

/-- The character that an escape stands for, given the text after the
backslash; also the text of the escape and what follows it. -/
def escape : List Char → Except LexError Char × List Char × List Char
  | [] => (.error .unterminatedString, [], [])
  | 'n' :: cs => (.ok '\n', ['n'], cs)
  | 't' :: cs => (.ok '\t', ['t'], cs)
  | 'r' :: cs => (.ok '\r', ['r'], cs)
  | '0' :: cs => (.ok '\x00', ['0'], cs)
  | '"' :: cs => (.ok '"', ['"'], cs)
  | '\'' :: cs => (.ok '\'', ['\''], cs)
  | '\\' :: cs => (.ok '\\', ['\\'], cs)
  | 'u' :: cs =>
    let (code, taken, rest) := hexCode 4 0 cs
    let value := match code with
      | some n => if n.isValidChar then .ok (Char.ofNat n) else .error .invalidUnicodeEscape
      | none => .error .invalidUnicodeEscape
    (value, 'u' :: taken, rest)
  | c :: cs => (.error (.invalidEscape c), [c], cs)

/-- What the inside of a string literal adds up to: the characters so far in
reverse, and the first thing that was wrong with them. -/
structure Cooked where
  chars : List Char
  fault : Option LexError

/-- The rest of a string literal up to its closing `quote`.  The whole literal
is consumed also when an escape in it is bad.  `fuel` bounds the number of
characters and escapes. -/
def stringBody (quote : Char) : (fuel : Nat) → Cooked → List Char → Lexeme
  | 0, _, cs => ⟨.error .unterminatedString, [], cs⟩
  | _ + 1, _, [] => ⟨.error .unterminatedString, [], []⟩
  | fuel + 1, cooked, c :: cs =>
    if c = quote then
      let kind := match cooked.fault with
        | some fault => .error fault
        | none => .text (String.ofList cooked.chars.reverse)
      ⟨kind, [c], cs⟩
    else if c = '\\' then
      let (value, taken, rest) := escape cs
      let cooked := match value with
        | .ok d => { cooked with chars := d :: cooked.chars }
        | .error fault => { cooked with fault := cooked.fault <|> some fault }
      let tail := stringBody quote fuel cooked rest
      { tail with taken := c :: taken ++ tail.taken }
    else
      let tail := stringBody quote fuel { cooked with chars := c :: cooked.chars } cs
      { tail with taken := c :: tail.taken }

/-- A string literal, given the text after its opening quote. -/
def string (quote : Char) (cs : List Char) : Lexeme :=
  let body := stringBody quote (cs.length + 1) ⟨[], none⟩ cs
  { body with taken := quote :: body.taken }

/-- The longest symbol at the front of a text, or its first character as an
error. -/
def symbol (c : Char) (cs : List Char) : Lexeme :=
  match Symbol.longestFirst.find? fun s => s.spelling.toList.isPrefixOf (c :: cs) with
  | some s =>
    let n := s.spelling.length
    ⟨.symbol s, (c :: cs).take n, (c :: cs).drop n⟩
  | none => ⟨.error (.unexpectedChar c), [c], cs⟩

/-- The token at the front of a text that starts with neither white space nor a
comment. -/
def next (c : Char) (cs : List Char) : Lexeme :=
  if c.isDigit then number (c :: cs)
  else if c = '"' ∨ c = '\'' then string c cs
  else if startsName c then word (c :: cs)
  else symbol c cs

end Lexeme

/-! White space and comments between tokens. -/
namespace Trivia

/-- The blanks of the language. -/
def isSpace (c : Char) : Bool :=
  c = ' ' || c = '\t' || c = '\n' || c = '\r' || c = '\x0c'

/-- The text up to and including the end of a block comment, and the rest; the
flag tells whether the end was found. -/
def blockComment : List Char → Bool × List Char × List Char
  | '*' :: '/' :: cs => (true, ['*', '/'], cs)
  | c :: cs =>
    let (closed, taken, rest) := blockComment cs
    (closed, c :: taken, rest)
  | [] => (false, [], [])

/-- Pass over white space and comments: the text passed over, the text left,
and, when a block comment is not closed, the text of that comment.  `fuel`
bounds the number of blanks and comments. -/
def skip : (fuel : Nat) → List Char → List Char × Option (List Char) × List Char
  | 0, cs => ([], none, cs)
  | fuel + 1, '/' :: '/' :: cs =>
    let line := cs.takeWhile (· ≠ '\n')
    let (passed, unclosed, rest) := skip fuel (cs.dropWhile (· ≠ '\n'))
    ('/' :: '/' :: line ++ passed, unclosed, rest)
  | fuel + 1, '/' :: '*' :: cs =>
    let (closed, taken, rest) := blockComment cs
    if closed then
      let (passed, unclosed, rest) := skip fuel rest
      ('/' :: '*' :: taken ++ passed, unclosed, rest)
    else ([], some ('/' :: '*' :: taken), rest)
  | fuel + 1, c :: cs =>
    if isSpace c then
      let (passed, unclosed, rest) := skip fuel cs
      (c :: passed, unclosed, rest)
    else ([], none, c :: cs)
  | _ + 1, [] => ([], none, [])

end Trivia

namespace Token

/-- A token of the characters `taken`, which start at byte `start`. -/
def placed (kind : TokenKind) (start : Nat) (taken : List Char) : Token :=
  ⟨kind, ⟨start, start + byteLength taken⟩, String.ofList taken⟩

/-- The tokens of a text that starts at byte `pos`.  `fuel` bounds their
number. -/
def ofChars : (fuel pos : Nat) → List Char → List Token
  | 0, pos, _ => [⟨.eof, ⟨pos, pos⟩, ""⟩]
  | fuel + 1, pos, cs =>
    let (passed, unclosed, rest) := Trivia.skip (cs.length + 1) cs
    let pos := pos + byteLength passed
    match unclosed, rest with
    | some comment, rest =>
      placed (.error .unterminatedComment) pos comment ::
        ofChars fuel (pos + byteLength comment) rest
    | none, [] => [⟨.eof, ⟨pos, pos⟩, ""⟩]
    | none, c :: rest =>
      let lexeme := Lexeme.next c rest
      placed lexeme.kind pos lexeme.taken ::
        ofChars fuel (pos + byteLength lexeme.taken) lexeme.rest

/-- The tokens of a source.  There are at most as many as characters, and one
more for the end. -/
def ofSource (source : String) : List Token :=
  ofChars (source.length + 1) 0 source.toList

end Token

end ScriptEngine

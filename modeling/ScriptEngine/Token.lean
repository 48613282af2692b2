import ScriptEngine.Number.Decimal
import ScriptEngine.Span
import ScriptEngine.Text.Quoted

/-!
# Tokens

The words of the language.  A token carries what it means (`TokenKind`), the
source text it was read from and where that text lies.  A piece of input that
makes no sense is a token as well, with the reason; the grammar reports it.
-/

namespace ScriptEngine

/-- Why a piece of input is no token of the language. -/
inductive LexError where
  | unexpectedChar (c : Char)
  | unterminatedString
  | invalidEscape (c : Char)
  | invalidUnicodeEscape
  | unterminatedComment
  deriving DecidableEq, Repr

namespace LexError

/-- The reason as it is reported. -/
def message : LexError → String
  | unexpectedChar c => "unexpected character '" ++ Quoted.shownChar ['"', '\''] c ++ "'"
  | unterminatedString => "unterminated string literal"
  | invalidEscape c => "invalid escape sequence '\\" ++ Quoted.shownChar ['"', '\''] c ++ "'"
  | invalidUnicodeEscape => "invalid \\u escape, expected four hex digits"
  | unterminatedComment => "unterminated block comment"

/-- The reason as it is listed by the tokens command. -/
def listing : LexError → String
  | unexpectedChar c => "UnexpectedChar('" ++ Quoted.shownChar ['\''] c ++ "')"
  | unterminatedString => "UnterminatedString"
  | invalidEscape c => "InvalidEscape('" ++ Quoted.shownChar ['\''] c ++ "')"
  | invalidUnicodeEscape => "InvalidUnicodeEscape"
  | unterminatedComment => "UnterminatedComment"

end LexError

/-- Reserved words. -/
inductive Keyword where
  | kwIf | kwElse | kwFor | kwWhile | kwDo | kwBreak | kwContinue | kwReturn | kwVar
  | kwEmpty | kwSize | kwNot
  | kwEq | kwNe | kwLt | kwLe | kwGt | kwGe | kwAnd | kwOr
  | kwTrue | kwFalse
  /-- Both `null` and `nil`. -/
  | kwNull
  deriving DecidableEq, Repr

namespace Keyword

/-- The spelling of a reserved word. -/
def spelling : Keyword → String
  | kwIf => "if" | kwElse => "else" | kwFor => "for" | kwWhile => "while" | kwDo => "do"
  | kwBreak => "break" | kwContinue => "continue" | kwReturn => "return" | kwVar => "var"
  | kwEmpty => "empty" | kwSize => "size" | kwNot => "not"
  | kwEq => "eq" | kwNe => "ne" | kwLt => "lt" | kwLe => "le" | kwGt => "gt" | kwGe => "ge"
  | kwAnd => "and" | kwOr => "or"
  | kwTrue => "true" | kwFalse => "false" | kwNull => "null"

/-- The name a reserved word is listed under. -/
def listing : Keyword → String
  | kwIf => "If" | kwElse => "Else" | kwFor => "For" | kwWhile => "While" | kwDo => "Do"
  | kwBreak => "Break" | kwContinue => "Continue" | kwReturn => "Return" | kwVar => "Var"
  | kwEmpty => "Empty" | kwSize => "Size" | kwNot => "Not"
  | kwEq => "KwEq" | kwNe => "KwNe" | kwLt => "KwLt" | kwLe => "KwLe" | kwGt => "KwGt"
  | kwGe => "KwGe" | kwAnd => "KwAnd" | kwOr => "KwOr"
  | kwTrue => "True" | kwFalse => "False" | kwNull => "Null"

/-- Every reserved word. -/
def all : List Keyword :=
  [kwIf, kwElse, kwFor, kwWhile, kwDo, kwBreak, kwContinue, kwReturn, kwVar, kwEmpty, kwSize,
   kwNot, kwEq, kwNe, kwLt, kwLe, kwGt, kwGe, kwAnd, kwOr, kwTrue, kwFalse, kwNull]

/-- The reserved word with a spelling; `nil` is a second spelling of `null`. -/
def ofSpelling? (s : String) : Option Keyword :=
  if s = "nil" then some kwNull else all.find? (·.spelling = s)

/-- Words that stand for a comparison or a logical operator. -/
def isComparatorName : Keyword → Bool
  | kwEq | kwNe | kwLt | kwLe | kwGt | kwGe | kwAnd | kwOr | kwNot => true
  | _ => false

end Keyword

/-- Punctuation and operators. -/
inductive Symbol where
  | lparen | rparen | lbracket | rbracket | lbrace | rbrace
  | comma | semicolon | colon | dot | dotDot | question | questionQuestion
  | arrow | fatArrow | atSign | hash | tilde
  | plus | minus | star | slash | percent | plusPlus | minusMinus
  | assign | plusEq | minusEq | starEq | slashEq | percentEq | ampEq | pipeEq | caretEq
  | shlEq | shrEq | ushrEq
  | eqEq | notEq | lt | ltEq | gt | gtEq | shl | shr | ushr
  | amp | ampAmp | pipe | pipePipe | caret | bang
  | within | notWithin | startsWith | notStartsWith | endsWith | notEndsWith
  deriving DecidableEq, Repr

namespace Symbol

/-- The spelling of a symbol. -/
def spelling : Symbol → String
  | lparen => "(" | rparen => ")" | lbracket => "[" | rbracket => "]"
  | lbrace => "\x7b" | rbrace => "\x7d"
  | comma => "," | semicolon => ";" | colon => ":" | dot => "." | dotDot => ".."
  | question => "?" | questionQuestion => "??" | arrow => "->" | fatArrow => "=>"
  | atSign => "@" | hash => "#" | tilde => "~"
  | plus => "+" | minus => "-" | star => "*" | slash => "/" | percent => "%"
  | plusPlus => "++" | minusMinus => "--"
  | assign => "=" | plusEq => "+=" | minusEq => "-=" | starEq => "*=" | slashEq => "/="
  | percentEq => "%=" | ampEq => "&=" | pipeEq => "|=" | caretEq => "^="
  | shlEq => "<<=" | shrEq => ">>=" | ushrEq => ">>>="
  | eqEq => "==" | notEq => "!=" | lt => "<" | ltEq => "<=" | gt => ">" | gtEq => ">="
  | shl => "<<" | shr => ">>" | ushr => ">>>"
  | amp => "&" | ampAmp => "&&" | pipe => "|" | pipePipe => "||" | caret => "^" | bang => "!"
  | within => "=~" | notWithin => "!~" | startsWith => "=^" | notStartsWith => "!^"
  | endsWith => "=$" | notEndsWith => "!$"

/-- The name a symbol is listed under. -/
def listing : Symbol → String
  | lparen => "LParen" | rparen => "RParen" | lbracket => "LBracket" | rbracket => "RBracket"
  | lbrace => "LBrace" | rbrace => "RBrace" | comma => "Comma" | semicolon => "Semicolon"
  | colon => "Colon" | dot => "Dot" | dotDot => "DotDot" | question => "Question"
  | questionQuestion => "QuestionQuestion" | arrow => "Arrow" | fatArrow => "FatArrow"
  | atSign => "At" | hash => "Hash" | tilde => "Tilde"
  | plus => "Plus" | minus => "Minus" | star => "Star" | slash => "Slash"
  | percent => "Percent" | plusPlus => "PlusPlus" | minusMinus => "MinusMinus"
  | assign => "Assign" | plusEq => "PlusEq" | minusEq => "MinusEq" | starEq => "StarEq"
  | slashEq => "SlashEq" | percentEq => "PercentEq" | ampEq => "AmpEq" | pipeEq => "PipeEq"
  | caretEq => "CaretEq" | shlEq => "ShlEq" | shrEq => "ShrEq" | ushrEq => "UshrEq"
  | eqEq => "EqEq" | notEq => "NotEq" | lt => "Lt" | ltEq => "LtEq" | gt => "Gt"
  | gtEq => "GtEq" | shl => "Shl" | shr => "Shr" | ushr => "Ushr"
  | amp => "Amp" | ampAmp => "AmpAmp" | pipe => "Pipe" | pipePipe => "PipePipe"
  | caret => "Caret" | bang => "Bang"
  | within => "Match" | notWithin => "NotMatch" | startsWith => "StartsWith"
  | notStartsWith => "NotStartsWith" | endsWith => "EndsWith" | notEndsWith => "NotEndsWith"

/-- Every symbol, longer spellings before shorter ones. -/
def longestFirst : List Symbol :=
  [ushrEq,
   ushr, shrEq, shlEq,
   shr, gtEq, shl, ltEq, notWithin, notStartsWith, notEndsWith, notEq, within, startsWith,
   endsWith, eqEq, fatArrow, questionQuestion, dotDot, ampAmp, ampEq, pipePipe, pipeEq,
   plusPlus, plusEq, minusMinus, minusEq, arrow, starEq, slashEq, percentEq, caretEq,
   gt, lt, bang, assign, question, dot, amp, pipe, plus, minus, star, slash, percent, caret,
   lparen, rparen, lbracket, rbracket, lbrace, rbrace, comma, semicolon, colon, tilde,
   atSign, hash]

end Symbol

/-- What a token means. -/
inductive TokenKind where
  | ident (name : String)
  | number (value : Number)
  /-- A string literal, with its escapes resolved. -/
  | text (value : String)
  | keyword (word : Keyword)
  | symbol (sign : Symbol)
  | error (reason : LexError)
  /-- The end of the input. -/
  | eof
  deriving DecidableEq, Repr

namespace TokenKind

/-- The fixed spelling of a token, or the word for its kind. -/
def spelling : TokenKind → String
  | ident _ => "identifier"
  | number _ => "number"
  | text _ => "string"
  | keyword word => word.spelling
  | symbol sign => sign.spelling
  | error _ => "<error>"
  | eof => "<eof>"

/-- What a message calls the token. -/
def describe : TokenKind → String
  | ident name => s!"identifier '{name}'"
  | number value => "number " ++ value.render
  | text _ => "string literal"
  | keyword word => s!"'{word.spelling}'"
  | symbol sign => s!"'{sign.spelling}'"
  | error reason => reason.message
  | eof => "end of input"

/-- Words that stand for a comparison or a logical operator. -/
def isComparatorName : TokenKind → Bool
  | keyword word => word.isComparatorName
  | _ => false

/-- The name of the token's kind, as it is listed. -/
def kindName : TokenKind → String
  | ident _ => "Ident"
  | number _ => "Number"
  | text _ => "Str"
  | keyword word => word.listing
  | symbol sign => sign.listing
  | error _ => "Error"
  | eof => "Eof"

/-- The token's kind with what it carries, as it is listed. -/
def listing (kind : TokenKind) : String :=
  match kind with
  | ident name => "Ident(" ++ Quoted.shown name ++ ")"
  | number value => "Number(Number(" ++ value.render ++ "))"
  | text value => "Str(" ++ Quoted.shown value ++ ")"
  | error reason => "Error(" ++ reason.listing ++ ")"
  | _ => kind.kindName

end TokenKind

/-- A word of the source: its meaning, its place and its text. -/
structure Token where
  kind : TokenKind
  span : Span
  literal : String
  deriving DecidableEq, Repr

namespace Token

/-- The end of a token list that has no end token of its own. -/
def missing : Token := ⟨.eof, .none, ""⟩

instance : Inhabited Token := ⟨missing⟩

/-- The reason, if the token is an error. -/
def lexError? (t : Token) : Option LexError :=
  match t.kind with
  | .error reason => some reason
  | _ => none

/-- The first token that is an error. -/
def firstError? (tokens : List Token) : Option (Token × LexError) :=
  tokens.findSome? fun t => t.lexError?.map (t, ·)

end Token

end ScriptEngine

import ScriptEngine.Text.Letter

/-!
# Quoted text

Two ways to write a text between double quotes.

* `Quoted.shown` is for people: quote and backslash are escaped, the usual
  controls have their letters, and every other character that cannot be seen,
  or that only extends the one before it, is written by its code point.
* `Quoted.source` is the string literal of the language: it escapes the six
  characters that would end or change the literal and writes all others as
  they are.
-/

namespace ScriptEngine.Quoted

/-- A character written by its code point, in hexadecimal. -/
def codePoint (c : Char) : String :=
  "\\u\x7b" ++ String.ofList (Nat.toDigits 16 c.toNat) ++ "\x7d"

/-- Whether `c` shows as itself. -/
def isVisible (c : Char) : Bool :=
  if c.toNat < 0x80 then 0x20 ≤ c.toNat && c.toNat < 0x7F
  else !(category c).isInvisible && !CharSet.graphemeExtend.contains c

/-- A character as it is shown; of the two quotes, those in `quotes` are
escaped. -/
def shownChar (quotes : List Char) (c : Char) : String :=
  if c = '\x00' then "\\0"
  else if c = '\t' then "\\t"
  else if c = '\r' then "\\r"
  else if c = '\n' then "\\n"
  else if c = '\\' then "\\\\"
  else if quotes.contains c then "\\" ++ c.toString
  else if isVisible c then c.toString
  else codePoint c

/-- A text as it is shown inside another one. -/
def shown (s : String) : String :=
  "\"" ++ String.join (s.toList.map (shownChar ['"'])) ++ "\""

/-- One character of a string literal. -/
def sourceChar (c : Char) : List Char :=
  if c = '"' then ['\\', '"']
  else if c = '\\' then ['\\', '\\']
  else if c = '\n' then ['\\', 'n']
  else if c = '\t' then ['\\', 't']
  else if c = '\r' then ['\\', 'r']
  else if c = '\x00' then ['\\', '0']
  else [c]

/-- A text as a string literal of the language. -/
def source (s : String) : String :=
  String.ofList ('"' :: s.toList.flatMap sourceChar ++ ['"'])

end ScriptEngine.Quoted

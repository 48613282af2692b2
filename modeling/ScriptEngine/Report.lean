import ScriptEngine.Engine

/-!
# Reports for readers

A report shows where in a source a failure happened: a heading, the line of the
source, a mark under the place, and a label that hangs from the middle of the
mark.

A line ends with its line break, so that a place after the last character
belongs to the last line.  Blanks at the end of a line are not shown, and of a
source without any line only the heading is.
-/

namespace ScriptEngine.Report

/-- One line of a source: its number from 1, the place of its first character
and its characters with the line break. -/
structure Line where
  number : Nat
  start : Nat
  chars : List Char

/-- Characters that end a line. -/
def isLineBreak (c : Char) : Bool :=
  [0x0A, 0x0B, 0x0C, 0x0D, 0x85, 0x2028, 0x2029].contains c.toNat

/-- Cut a text after every line break; a carriage return and a line feed are one
break.  `taken` is the line so far, last character first. -/
def cut : (taken : List Char) → List Char → List (List Char)
  | [], [] => []
  | taken, [] => [taken.reverse]
  | taken, '\x0D' :: '\x0A' :: rest => ('\x0A' :: '\x0D' :: taken).reverse :: cut [] rest
  | taken, c :: rest =>
    if isLineBreak c then (c :: taken).reverse :: cut [] rest else cut (c :: taken) rest

/-- Lines with their numbers and places. -/
def placed : (number start : Nat) → List (List Char) → List Line
  | _, _, [] => []
  | number, start, chars :: rest =>
    ⟨number, start, chars⟩ :: placed (number + 1) (start + chars.length) rest

/-- The lines of a source. -/
def lines (source : String) : List Line := placed 1 0 (cut [] source.toList)

/-- The line that a place belongs to: the last one that starts before it or
there. -/
def lineAt? (source : String) (place : Nat) : Option Line :=
  (lines source).findRev? fun line => line.start ≤ place

/-- The part of the source that a failure points at; the start if it is not
known, and never past the end. -/
def place (source : String) (failure : Failure) : Span :=
  match failure.span? with
  | some span =>
    let start := min span.start source.utf8ByteSize
    ⟨start, max start (min span.stop source.utf8ByteSize)⟩
  | none => .none

/-- What the label under a mark says. -/
def label : Failure → String
  | .grammar _ => "here"
  | .evaluation _ => "while evaluating this"

/-- The first line of a report. -/
def heading : Failure → String
  | .grammar e => s!"[{e.cause.code}] Error: {e.message}"
  | .evaluation e => s!"Error: {e.message}"

/-- A character several times. -/
def times (n : Nat) (c : Char) : String := String.ofList (List.replicate n c)

/-- The mark under a place of the length given, and the line with the label that
hangs from its middle. -/
def mark (length : Nat) (text : String) : String × String :=
  if length = 0 then ("│ ", "╰─ " ++ text)
  else
    let middle := length / 2
    (times middle '─' ++ "┬" ++ times (length - middle - 1) '─' ++ "  ",
     times middle ' ' ++ "╰" ++ times (length - middle + 1) '─' ++ " " ++ text)

/-- The characters of a line without the blanks at its end. -/
def visible (line : Line) : String :=
  String.ofList ((line.chars.reverse.dropWhile isBlank).reverse)

/-- The lines of a report under its heading. -/
def body (name : String) (line : Line) (span : Span) (text : String) : List String :=
  let number := toString line.number
  let margin := times (number.length + 2) ' '
  let column := span.start - line.start
  let pad := times column ' '
  let (underline, hanging) := mark span.length text
  [margin ++ "╭─[" ++ name ++ s!":{line.number}:{column + 1}]",
   margin ++ "│",
   " " ++ number ++ " │ " ++ visible line,
   margin ++ "│ " ++ pad ++ underline,
   margin ++ "│ " ++ pad ++ hanging,
   times (number.length + 2) '─' ++ "╯"]

/-- The report of a failure in a source that goes by a name. -/
def render (name source : String) (failure : Failure) : String :=
  let span := place source failure
  let rest := match lineAt? source span.start with
    | some line => body name line span (label failure)
    | none => []
  String.join ((heading failure :: rest).map (· ++ "\n"))

end ScriptEngine.Report

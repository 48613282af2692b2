import ScriptEngine.Pattern.Written

/-!
# Reading patterns

The written form of a text: literals and escapes, classes in brackets with
nested classes and set operations, classes by property, groups, choices,
repetitions, places, and flags.  What is not a pattern is refused; the reason is
not kept.  Only one flag matters for reading, the one under which white space
and comments are skipped.

* `Written.ofText?` — what is written in a text.
-/

namespace ScriptEngine.Pattern

/-- The state of reading: the text left, whether blanks are skipped, and the
number and the names of the groups so far. -/
structure Reading where
  rest : List Char
  verbose : Bool
  groups : Nat
  names : List String

/-- A step of reading; it may fail. -/
abbrev Reader (α : Type) := StateT Reading Option α

namespace Reader

/-- The text is not a pattern. -/
def refuse {α : Type} : Reader α := fun _ => none

/-- The next character, which stays. -/
def look : Reader (Option Char) := do return (← get).rest.head?

/-- Whether the text goes on with the characters given. -/
def ahead (s : String) : Reader Bool := do return s.toList.isPrefixOf (← get).rest

/-- Pass `n` characters. -/
def pass (n : Nat) : Reader Unit := modify fun r => { r with rest := r.rest.drop n }

/-- Pass the characters given, if the text goes on with them. -/
def accept (s : String) : Reader Bool := do
  if ← ahead s then
    pass s.length
    return true
  else return false

/-- The next character, which there has to be. -/
def next : Reader Char := do
  match (← get).rest with
  | c :: rest =>
    modify fun r => { r with rest := rest }
    return c
  | [] => refuse

/-- Text without leading white space and comments. -/
def withoutBlanks : (fuel : Nat) → List Char → List Char
  | 0, cs => cs
  | _ + 1, [] => []
  | fuel + 1, c :: cs =>
    if isBlank c then withoutBlanks fuel cs
    else if c = '#' then withoutBlanks fuel (cs.dropWhile (· ≠ '\n'))
    else c :: cs

/-- Pass white space and comments, where they are skipped. -/
def blanks : Reader Unit :=
  modify fun r =>
    if r.verbose then { r with rest := withoutBlanks (r.rest.length + 1) r.rest } else r

/-- Pass one character and what is skipped after it. -/
def advance : Reader Unit := do
  pass 1
  blanks

/-- The characters that are accepted, up to the first that is not, and what is
skipped after each. -/
def taken (accepts : Char → Bool) : (fuel : Nat) → Reader (List Char)
  | 0 => return []
  | fuel + 1 => do
    match ← look with
    | some c =>
      if accepts c then
        advance
        return c :: (← taken accepts fuel)
      else return []
    | none => return []

/-- The characters that are accepted, up to the first that is not. -/
def takeWhile (accepts : Char → Bool) : Reader (List Char) := do
  taken accepts (← get).rest.length

/-- What stands between two braces, the first of which comes next. -/
def braced : Reader (List Char) := do
  advance
  let inner ← takeWhile (· ≠ '\x7d')
  unless ← accept "\x7d" do refuse
  return inner

end Reader

open Reader

/-! ## Escapes -/

/-- What an escape or a plain character stands for. -/
inductive Atom where
  | letter (letter : Letter)
  | short (which : ShortClass) (negated : Bool)
  | property (query : PropertyQuery) (negated : Bool)
  | place (name : PlaceName)

/-- A character that stands for itself. -/
def Atom.char (c : Char) : Atom := .letter ⟨c, false⟩

/-- The value of a hexadecimal digit. -/
def hexDigit? (c : Char) : Option Nat :=
  if '0' ≤ c ∧ c ≤ '9' then some (c.toNat - '0'.toNat)
  else if 'a' ≤ c ∧ c ≤ 'f' then some (c.toNat - 'a'.toNat + 10)
  else if 'A' ≤ c ∧ c ≤ 'F' then some (c.toNat - 'A'.toNat + 10)
  else none

/-- The character with a code point in hexadecimal digits, at least one. -/
def ofHex (digits : List Char) : Reader Char := do
  if digits.isEmpty then refuse
  match digits.mapM hexDigit? with
  | some values =>
    let code := values.foldl (fun n d => 16 * n + d) 0
    if code.isValidChar then return Char.ofNat code else refuse
  | none => refuse

/-- The next characters, that many of them, and what is skipped after each. -/
def counted : Nat → Reader (List Char)
  | 0 => return []
  | n + 1 => do
    let some c ← look | refuse
    advance
    return c :: (← counted n)

/-- The rest of a hexadecimal escape with `count` digits, or any number of them
in braces. -/
def hexEscape (count : Nat) : Reader Atom := do
  blanks
  if ← ahead "\x7b" then
    let c ← ofHex (← braced)
    blanks
    return .char c
  else
    let c ← ofHex (← counted count)
    return .letter ⟨c, count = 2⟩

/-- The property that the text between braces names.  Of the signs between a name
and a value, `!=` comes before `:` and that before `=`; with the first of them
the complement is meant. -/
def namedProperty (text : String) : PropertyQuery × Bool :=
  let split (sign : String) : Option (String × String) :=
    match text.splitOn sign with
    | name :: value :: more => some (name, sign.intercalate (value :: more))
    | _ => none
  match split "!=", split ":", split "=" with
  | some (name, value), _, _ => (⟨name, some value⟩, true)
  | none, some (name, value), _ => (⟨name, some value⟩, false)
  | none, none, some (name, value) => (⟨name, some value⟩, false)
  | none, none, none => (⟨text, none⟩, false)

/-- The rest of a class by property, whose name is one letter or stands in
braces. -/
def propertyEscape (negated : Bool) : Reader Atom := do
  blanks
  if ← ahead "\x7b" then
    let (query, differs) := namedProperty (String.ofList (← braced))
    return .property query (negated != differs)
  else
    let some c ← look | refuse
    if c = '\\' then refuse
    advance
    return .property ⟨c.toString, none⟩ negated

/-- The place after `\b`.  A word in braces makes it one of four others; a brace
before anything else opens a repetition. -/
def wordPlace : Reader PlaceName := do
  let isNameChar (c : Char) := c.isAlpha || c = '-'
  unless ← ahead "\x7b" do return .wordEdge
  let before ← get
  advance
  let some c ← look | refuse
  if !isNameChar c then
    set before
    return .wordEdge
  let name ← takeWhile isNameChar
  unless ← accept "\x7d" do refuse
  match String.ofList name with
  | "start" => return .wordStart
  | "end" => return .wordEnd
  | "start-half" => return .wordStartHalf
  | "end-half" => return .wordEndHalf
  | _ => refuse

/-- What stands after a backslash. -/
def escape : Reader Atom := do
  match ← next with
  | 'd' => return .short .digit false
  | 'D' => return .short .digit true
  | 's' => return .short .blank false
  | 'S' => return .short .blank true
  | 'w' => return .short .word false
  | 'W' => return .short .word true
  | 'p' => propertyEscape false
  | 'P' => propertyEscape true
  | 'x' => hexEscape 2
  | 'u' => hexEscape 4
  | 'U' => hexEscape 8
  | 'a' => return .char '\x07'
  | 'f' => return .char '\x0c'
  | 't' => return .char '\t'
  | 'n' => return .char '\n'
  | 'r' => return .char '\r'
  | 'v' => return .char '\x0b'
  | 'A' => return .place .textStart
  | 'z' => return .place .textEnd
  | 'b' => .place <$> wordPlace
  | 'B' => return .place .noWordEdge
  | '<' => return .place .wordStart
  | '>' => return .place .wordEnd
  | c => if c.toNat < 0x80 && !c.isAlphanum then return .char c else refuse

/-! ## Classes in brackets -/

/-- One character or escape inside brackets. -/
def classAtom : Reader Atom := do
  match ← next with
  | '\\' => escape
  | c => return .char c

/-- The item of an atom inside brackets; places have none. -/
def Atom.item? : Atom → Option ClassItem
  | .letter c => some (.letter c)
  | .short which negated => some (.short which negated)
  | .property query negated => some (.property query negated)
  | .place _ => none

/-- The character after the hyphen that comes next, where one is to tell a range
from other uses of the hyphen.  Blanks are looked through, and of a comment its
first character counts. -/
def afterHyphen : Reader (Option Char) := do
  let r ← get
  let following := r.rest.drop 1
  unless r.verbose do return following.head?
  match following.dropWhile isBlank with
  | '#' :: comment => return (comment.dropWhile isBlank).head?
  | rest => return rest.head?

/-- Whether a range goes on: with a hyphen before anything but a closing bracket
and another hyphen. -/
def rangeGoesOn : Reader Bool := do
  let some c ← look | refuse
  if c ≠ '-' then return false
  let following ← afterHyphen
  return following ≠ some ']' && following ≠ some '-'

/-- A character, a range or a class inside brackets. -/
def classRange : Reader ClassItem := do
  let first ← classAtom
  blanks
  if ← rangeGoesOn then
    advance
    match first, ← classAtom with
    | .letter first, .letter last =>
      if last.char < first.char then refuse
      return .range first last
    | _, _ => refuse
  else
    match first.item? with
    | some item => return item
    | none => refuse

/-- A class such as `[:alpha:]`, if one follows. -/
def asciiItem : Reader (Option ClassItem) := do
  match (← get).rest with
  | '[' :: ':' :: rest =>
    let negated := rest.head? = some '^'
    let body := if negated then rest.drop 1 else rest
    let name := body.takeWhile (· ≠ ':')
    match body.drop name.length, asciiClass? (String.ofList name) with
    | ':' :: ']' :: rest, some members =>
      modify fun r => { r with rest := rest }
      return some (.ascii members negated)
    | _, _ => return none
  | _ => return none

/-- The operation that comes next inside brackets, if one does. -/
def setOp : Reader (Option SetOp) := do
  if ← accept "&&" then return some .intersection
  if ← accept "--" then return some .difference
  if ← accept "~~" then return some .symmetricDifference
  return none

/-- Both sides of an operation, the left one of which may be missing. -/
def combine (left : Option (ClassItem × SetOp)) (right : ClassItem) : ClassItem :=
  match left with
  | none => right
  | some (left, op) => .combined op left right

/-- The items that a class begins with: hyphens, or else a closing bracket, which
stand for themselves there.  More items come in reverse. -/
def firstItems : Reader (List ClassItem) := do
  let item (c : Char) := ClassItem.letter ⟨c, false⟩
  let hyphens ← takeWhile (· = '-')
  if !hyphens.isEmpty then return hyphens.map item
  if ← ahead "]" then
    advance
    return [item ']']
  return []

mutual

/-- A class after its opening bracket, given how many are open. -/
def bracketClass : (fuel opened : Nat) → Reader (ClassItem × Bool)
  | 0, _ => refuse
  | fuel + 1, opened => do
    if depthLimit < opened then refuse
    blanks
    let negated ← ahead "^"
    if negated then advance
    let items ← firstItems
    return (← classItems fuel opened none items, negated)

/-- The items of a class up to its closing bracket, given how many classes are
open, the left side of the operation that is open and, in reverse, the items so
far. -/
def classItems : (fuel opened : Nat) → Option (ClassItem × SetOp) → List ClassItem →
    Reader ClassItem
  | 0, _, _, _ => refuse
  | fuel + 1, opened, left, items => do
    blanks
    let before := combine left (ClassItem.ofList items.reverse)
    if ← accept "]" then return before
    if let some op ← setOp then return ← classItems fuel opened (some (before, op)) []
    if ← ahead "[" then
      match ← asciiItem with
      | some item => classItems fuel opened left (item :: items)
      | none =>
        pass 1
        let (inner, negated) ← bracketClass fuel (opened + 1)
        classItems fuel opened left (.bracketed inner negated :: items)
    else
      let item ← classRange
      classItems fuel opened left (item :: items)

end

/-! ## Groups and repetitions -/

/-- The part of an atom outside brackets. -/
def Atom.written : Atom → Written
  | .letter c => .letter c
  | .short which negated => .short which negated
  | .property query negated => .property query negated
  | .place name => .place name

/-- Flags up to a colon or a closing parenthesis, given the settings so far and,
in reverse, the letters and the minus sign. -/
def settings : (fuel : Nat) → List Setting → (seen : List Char) → Reader (List Setting)
  | 0, _, _ => refuse
  | fuel + 1, changes, seen => do
    match ← look with
    | none => refuse
    | some ':' | some ')' =>
      -- A minus sign has to stand before a letter.
      if seen.head? = some '-' then refuse else return changes
    | some c =>
      if seen.contains c then refuse
      pass 1
      if c = '-' then settings fuel changes (c :: seen)
      else
        match Flag.ofLetter? c with
        | some flag => settings fuel (changes ++ [⟨flag, !seen.contains '-'⟩]) (c :: seen)
        | none => refuse

/-- The name of a group, after its opening angle. -/
def groupName : Reader Unit := do
  let name := (← get).rest.takeWhile (· ≠ '>')
  pass name.length
  unless ← accept ">" do refuse
  match name with
  | [] => refuse
  | first :: rest =>
    unless isLetter first || first = '_' do refuse
    unless rest.all fun c => isLetterOrNumber c || c = '_' || c = '.' || c = '[' || c = ']' do
      refuse
    if (← get).names.contains (String.ofList name) then refuse
    modify fun r => { r with names := String.ofList name :: r.names }

/-- The number of the next group. -/
def groupNumber : Reader Nat := do
  modify fun r => { r with groups := r.groups + 1 }
  return (← get).groups

/-- Look-around, which patterns do not have. -/
def lookAround : Reader Bool := do
  return (← ahead "?=") || (← ahead "?!") || (← ahead "?<=") || (← ahead "?<!")

/-- Whether blanks are skipped after some settings. -/
def skipsBlanks (before : Bool) (changes : List Setting) : Bool :=
  match changes.find? (·.flag = .verbose) with
  | some setting => setting.value
  | none => before

/-- What an opening parenthesis opens. -/
inductive Opening where
  | group (number : Nat)
  | bare (changes : List Setting)
  /-- No group, but settings up to the end of the one that is open. -/
  | settings (changes : List Setting)

/-- What stands after an opening parenthesis. -/
def opening : Reader Opening := do
  blanks
  if ← lookAround then refuse
  if (← accept "?P<") || (← accept "?<") then
    let number ← groupNumber
    groupName
    return .group number
  unless ← accept "?" do return .group (← groupNumber)
  let changes ← settings ((← get).rest.length + 1) [] []
  if (← next) = ':' then return .bare changes
  if changes.isEmpty then refuse
  return .settings changes

/-- A decimal number of at most 32 bits with white space around it, if one
follows. -/
def decimal : Reader (Option Nat) := do
  modify fun r => { r with rest := r.rest.dropWhile isBlank }
  let digits ← takeWhile Char.isDigit
  let _ ← takeWhile isBlank
  if digits.isEmpty then return none
  let value := digits.foldl (fun n d => 10 * n + (d.toNat - '0'.toNat)) 0
  if value < 4294967296 then return some value else refuse

/-- The bounds of a repetition, whose opening brace comes next. -/
def bounds : Reader (Nat × Option Nat) := do
  advance
  let some least ← decimal | refuse
  let most ←
    if ← ahead "," then
      advance
      if ← ahead "\x7d" then pure none
      else
        let some most ← decimal | refuse
        if most < least then refuse
        pure (some most)
    else pure (some least)
  unless ← ahead "\x7d" do refuse
  advance
  return (least, most)

/-- Repeat the last of some parts, which come in reverse.  A question mark after
the repetition makes it less greedy; settings cannot be repeated. -/
def repeatLast (parts : List Written) (least : Nat) (most : Option Nat) :
    Reader (List Written) := do
  let greedy := !(← accept "?")
  match parts with
  | [] | .settings _ :: _ => refuse
  | part :: rest => return .repeated part least most greedy :: rest

/-- The alternatives of a choice, given those before the last one and the parts of
the last one; both come in reverse. -/
def closed (alternatives : List Written) (parts : List Written) : List Written :=
  .ofParts parts.reverse :: alternatives

/-- A pattern up to the end of the text or of the group, given how many groups
are open and, in reverse, the alternatives so far and the parts of the one that
is open. -/
def sequenced : (fuel opened : Nat) → (alternatives parts : List Written) → Reader Written
  | 0, _, _, _ => refuse
  | fuel + 1, opened, alternatives, parts => do
    blanks
    match ← look with
    | none | some ')' => return .ofAlternatives (closed alternatives parts).reverse
    | some '|' =>
      pass 1
      sequenced fuel opened (closed alternatives parts) []
    | some '*' =>
      pass 1
      sequenced fuel opened alternatives (← repeatLast parts 0 none)
    | some '+' =>
      pass 1
      sequenced fuel opened alternatives (← repeatLast parts 1 none)
    | some '?' =>
      pass 1
      sequenced fuel opened alternatives (← repeatLast parts 0 (some 1))
    | some '\x7b' =>
      let (least, most) ← bounds
      sequenced fuel opened alternatives (← repeatLast parts least most)
    | some '(' =>
      pass 1
      if depthLimit < opened then refuse
      let outside := (← get).verbose
      match ← opening with
      | .settings changes =>
        modify fun r => { r with verbose := skipsBlanks outside changes }
        sequenced fuel opened alternatives (.settings changes :: parts)
      | .group number =>
        let inner ← sequenced fuel (opened + 1) [] []
        unless ← accept ")" do refuse
        modify fun r => { r with verbose := outside }
        sequenced fuel opened alternatives (.group number inner :: parts)
      | .bare changes =>
        modify fun r => { r with verbose := skipsBlanks outside changes }
        let inner ← sequenced fuel (opened + 1) [] []
        unless ← accept ")" do refuse
        modify fun r => { r with verbose := outside }
        sequenced fuel opened alternatives (.bare changes inner :: parts)
    | some '[' =>
      pass 1
      let (inner, negated) ← bracketClass fuel 0
      sequenced fuel opened alternatives (.bracketed inner negated :: parts)
    | some '.' =>
      pass 1
      sequenced fuel opened alternatives (.anyChar :: parts)
    | some '^' =>
      pass 1
      sequenced fuel opened alternatives (.place .caret :: parts)
    | some '$' =>
      pass 1
      sequenced fuel opened alternatives (.place .dollar :: parts)
    | some '\\' =>
      pass 1
      let atom ← escape
      sequenced fuel opened alternatives (atom.written :: parts)
    | some c =>
      pass 1
      sequenced fuel opened alternatives (.letter ⟨c, false⟩ :: parts)

/-- What is written in a text. -/
def Written.ofText? (text : String) : Option Written := do
  let fuel := 2 * text.length + 2
  let (written, reading) ← (sequenced fuel 0 [] []).run ⟨text.toList, false, 0, []⟩
  guard (reading.rest.isEmpty && written.depth ≤ depthLimit)
  return written

end ScriptEngine.Pattern

import ScriptEngine.Text.Age
import ScriptEngine.Text.Boundary

/-!
# Classes by property

The sets of characters that a pattern can name: by a property that a character
has or lacks, by its general category or writing system, by the value of one of
a few properties, and by the names of classes within ASCII.

* `PropertyQuery.set?` — the characters that a property picks out;
* `asciiClass?` — the characters of a class such as `[:alpha:]`.
-/

namespace ScriptEngine.Pattern

/-- A property by its name, or by its name and a value. -/
structure PropertyQuery where
  name : String
  value : Option String
  deriving DecidableEq, Repr

/-- The names of the general categories and their groups, with the categories
they stand for.  Surrogates have no class of their own. -/
def categoryNames : List (String × List Category) :=
  [("L Letter", [.lu, .ll, .lt, .lm, .lo]),
   ("LC Cased_Letter", [.lu, .ll, .lt]),
   ("Lu Uppercase_Letter", [.lu]),
   ("Ll Lowercase_Letter", [.ll]),
   ("Lt Titlecase_Letter", [.lt]),
   ("Lm Modifier_Letter", [.lm]),
   ("Lo Other_Letter", [.lo]),
   ("M Mark Combining_Mark", [.mn, .mc, .me]),
   ("Mn Nonspacing_Mark", [.mn]),
   ("Mc Spacing_Mark", [.mc]),
   ("Me Enclosing_Mark", [.me]),
   ("N Number", [.nd, .nl, .no]),
   ("Nd Decimal_Number digit", [.nd]),
   ("Nl Letter_Number", [.nl]),
   ("No Other_Number", [.no]),
   ("P Punctuation punct", [.pc, .pd, .ps, .pe, .pi, .pf, .po]),
   ("Pc Connector_Punctuation", [.pc]),
   ("Pd Dash_Punctuation", [.pd]),
   ("Ps Open_Punctuation", [.ps]),
   ("Pe Close_Punctuation", [.pe]),
   ("Pi Initial_Punctuation", [.pi]),
   ("Pf Final_Punctuation", [.pf]),
   ("Po Other_Punctuation", [.po]),
   ("S Symbol", [.sm, .sc, .sk, .so]),
   ("Sm Math_Symbol", [.sm]),
   ("Sc Currency_Symbol", [.sc]),
   ("Sk Modifier_Symbol", [.sk]),
   ("So Other_Symbol", [.so]),
   ("Z Separator", [.zs, .zl, .zp]),
   ("Zs Space_Separator", [.zs]),
   ("Zl Line_Separator", [.zl]),
   ("Zp Paragraph_Separator", [.zp]),
   ("C Other", [.cc, .cf, .cs, .co, .cn]),
   ("Cc Control cntrl", [.cc]),
   ("Cf Format", [.cf]),
   ("Co Private_Use", [.co]),
   ("Cn Unassigned", [.cn])]

/-- The characters of a general category. -/
def inCategory? (plain : String) : Option CharSet :=
  match plain with
  | "any" => some (.range 0 lastCodePoint)
  | "ascii" => some (.range 0 0x7F)
  | "assigned" => some (CharSet.ofCategories [.cn]).complement
  | _ => (categoryNames.find? fun entry => isNamed entry.1 plain).map (CharSet.ofCategories ·.2)

/-- The characters that one name picks out: of a property, of a general category
or of a writing system. -/
def withName? (plain : String) : Option CharSet :=
  (withProperty? plain).or ((inCategory? plain).or (writingSystem? plain))

/-- The properties that have values, each with the characters of a value. -/
def valuedProperties : List (String × (String → Option CharSet)) :=
  [("General_Category gc", inCategory?),
   ("Script sc", writingSystem?),
   ("Script_Extensions scx", writtenIn?),
   ("Age", assignedBy?),
   ("Grapheme_Cluster_Break GCB", characterClass?),
   ("Word_Break WB", wordClass?),
   ("Sentence_Break SB", sentenceClass?)]

/-- The characters that a property picks out. -/
def PropertyQuery.set? (query : PropertyQuery) : Option CharSet :=
  match query.value with
  | none => withName? (plainName query.name)
  | some value => do
    let entry ← valuedProperties.find? fun entry => isNamed entry.1 (plainName query.name)
    entry.2 (plainName value)

/-- The characters of a class that is named between `[:` and `:]`. -/
def asciiClass? (name : String) : Option CharSet :=
  match name with
  | "alnum" => some (.ofText "30-39 41-5a 61-7a")
  | "alpha" => some (.ofText "41-5a 61-7a")
  | "ascii" => some (.ofText "0-7f")
  | "blank" => some (.ofText "9 20")
  | "cntrl" => some (.ofText "0-1f 7f")
  | "digit" => some (.ofText "30-39")
  | "graph" => some (.ofText "21-7e")
  | "lower" => some (.ofText "61-7a")
  | "print" => some (.ofText "20-7e")
  | "punct" => some (.ofText "21-2f 3a-40 5b-60 7b-7e")
  | "space" => some (.ofText "9-d 20")
  | "upper" => some (.ofText "41-5a")
  | "word" => some (.ofText "30-39 41-5a 5f 61-7a")
  | "xdigit" => some (.ofText "30-39 41-46 61-66")
  | _ => none

end ScriptEngine.Pattern

import ScriptEngine.Text.Property
import ScriptEngine.Text.WritingSystem

/-!
# Boundaries in text

Three ways to class characters for finding where a text can be divided: between
characters as a reader sees them, between words, and between sentences.  Each is
a list of classes in which a character belongs to the first one that it fits;
one that fits none has no class.

* `characterClass?`, `wordClass?`, `sentenceClass?` — the characters of the
  class with a name.
-/

namespace ScriptEngine

namespace CharSet

/-- The characters of a writing system by its long name. -/
def writing (name : String) : CharSet := (writingSystem? (plainName name)).getD empty

/-! ## Syllables of Hangul -/

/-- First consonants. -/
def hangulFirst : CharSet := .ofText "1100-115f a960-a97c"

/-- Vowels between two consonants; one more script builds syllables with such. -/
def hangulVowel : CharSet := .ofText "1160-11a7 d7b0-d7c6 16d63 16d67-16d6a"

/-- Last consonants. -/
def hangulLast : CharSet := .ofText "11a8-11ff d7cb-d7fb"

/-- Whole syllables that end in a vowel: every twenty-eighth one. -/
def hangulOpen : CharSet :=
  .ofRanges ((List.range 399).map fun n => (0xAC00 + 28 * n, 0xAC00 + 28 * n))

/-- Whole syllables. -/
def hangulSyllable : CharSet := range 0xAC00 0xD7A3

/-! ## Other parts of the classes -/

/-- Signs before a letter that belong to it. -/
def joinsNext : CharSet :=
  prependedMark.union (.ofText "d4e 111c2-111c3 113d1 1193f 11941 11a3a 11a84-11a89 11d46 11f02")

/-- Spacing marks that can stand apart from the character before them. -/
def looseMark : CharSet :=
  .ofText
    "102b-102c 1038 1062-1064 1067-106d 1083 1087-108c 108f 109a-109c 1a61 1a63-1a64 aa7b aa7d
    11720-11721"

/-- Characters that extend the one before them for words and sentences. -/
def extending : CharSet := graphemeExtend.union (ofCategories [.mc])

/-- Letters that count as parts of words though they are not alphabetic. -/
def wordSymbol : CharSet :=
  .ofText
    "2c2-2c5 2d2-2d7 2de-2df 2e5-2eb 2ed 2ef-2ff 55a-55c 55e 58a 5f3 70f a708-a716 a720-a721
    a789-a78a ab5b"

/-- Letters of the writing systems that do not divide words. -/
def undividedWriting : CharSet :=
  unions (["Thai", "Lao", "Myanmar", "Khmer", "Tai_Le", "New_Tai_Lue", "Tai_Tham", "Tai_Viet",
    "Ahom"].map writing)

/-- Marks that close or open a quotation or a bracket. -/
def closing : CharSet :=
  (ofCategories [.ps, .pe, .pi, .pf]).union
    (.ofText "22 27 275b-2760 2e00-2e01 2e06-2e08 2e0b 1f676-1f678")

/-- Marks after which a sentence goes on. -/
def continuing : CharSet :=
  .ofText
    "2c-2d 3a-3b 37e 55d 60c-60d 7f8 1802 1808 2013-2014 3001 fe10-fe11 fe13-fe14 fe31-fe32
    fe50-fe51 fe54-fe55 fe58 fe63 ff0c-ff0d ff1a-ff1b ff64"

end CharSet

open CharSet in
/-- The classes for characters as a reader sees them. -/
def characterClasses : List (String × CharSet) :=
  [("CR", range 0xD 0xD),
   ("LF", range 0xA 0xA),
   ("ZWJ", range 0x200D 0x200D),
   ("Extend EX", graphemeExtend.union emojiModifier),
   ("Prepend PP", joinsNext),
   ("Control CN",
    unions [ofCategories [.zl, .zp, .cc, .cf], (ofCategories [.cn]).inter defaultIgnorable]),
   ("Regional_Indicator RI", regionalIndicator),
   ("L", hangulFirst),
   ("V", hangulVowel),
   ("T", hangulLast),
   ("LV", hangulOpen),
   ("LVT", hangulSyllable),
   ("SpacingMark SM", ((ofCategories [.mc]).union (.ofText "e33 eb3")).diff looseMark)]

open CharSet in
/-- The classes for words. -/
def wordClasses : List (String × CharSet) :=
  [("CR", range 0xD 0xD),
   ("LF", range 0xA 0xA),
   ("Newline NL", .ofText "b-c 85 2028-2029"),
   ("ZWJ", range 0x200D 0x200D),
   ("Extend", extending.union emojiModifier),
   ("MidNum MN", .ofText "2c 3b 37e 589 60c-60d 66c 7f8 2044 fe10 fe14 fe50 fe54 ff0c ff1b"),
   ("MidLetter ML", .ofText "3a b7 387 55f 5f4 2027 fe13 fe55 ff1a"),
   ("MidNumLet MB", .ofText "2e 2018-2019 2024 fe52 ff07 ff0e"),
   ("WSegSpace", (ofCategories [.zs]).diff (.ofText "a0 2007 202f")),
   ("Double_Quote DQ", range 0x22 0x22),
   ("Single_Quote SQ", range 0x27 0x27),
   ("Regional_Indicator RI", regionalIndicator),
   ("Numeric NU", digit.union (.ofText "66b")),
   ("Format FO", (ofCategories [.cf]).diff (range 0x200B 0x200B)),
   ("ExtendNumLet EX", (ofCategories [.pc]).union (.ofText "202f")),
   ("Hebrew_Letter HL", (writing "Hebrew").inter (ofCategories [.lo])),
   ("Katakana KA",
    (writing "Katakana").union (.ofText "3031-3035 309b-309c 30a0 30fc ff70")),
   ("ALetter LE",
    (alphabetic.union wordSymbol).diff (unions [ideographic, undividedWriting, writing "Hiragana"]))]

open CharSet in
/-- The classes for sentences. -/
def sentenceClasses : List (String × CharSet) :=
  [("CR", range 0xD 0xD),
   ("LF", range 0xA 0xA),
   ("Extend EX", extending.union (range 0x200D 0x200D)),
   ("Sep SE", .ofText "85 2028-2029"),
   ("Format FO", ofCategories [.cf]),
   ("Sp", blank),
   ("Lower LO", (lowercase.diff (range 0x10D0 0x10FF)).union (range 0x10FC 0x10FC)),
   ("Upper UP", (ofCategories [.lt]).union (uppercase.diff (range 0x1C90 0x1CBF))),
   ("OLetter LE", alphabetic.union (.ofText "5f3")),
   ("Numeric NU", digit.union (.ofText "66b-66c")),
   ("ATerm AT", .ofText "2e 2024 fe52 ff0e"),
   ("STerm ST", sentenceTerminal),
   ("Close CL", closing),
   ("SContinue SC", continuing)]

/-- The characters of the class with a name: those that fit it and none of the
classes before it. -/
def classNamed? (classes : List (String × CharSet)) (plain : String) : Option CharSet :=
  let before := classes.takeWhile fun entry => !isNamed entry.1 plain
  (classes.find? fun entry => isNamed entry.1 plain).map fun entry =>
    entry.2.diff (CharSet.unions (before.map (·.2)))

def characterClass? (plain : String) : Option CharSet := classNamed? characterClasses plain

def wordClass? (plain : String) : Option CharSet := classNamed? wordClasses plain

def sentenceClass? (plain : String) : Option CharSet := classNamed? sentenceClasses plain

end ScriptEngine

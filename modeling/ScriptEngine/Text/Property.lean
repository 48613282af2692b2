import ScriptEngine.Text.CaseMapping
import ScriptEngine.Text.Emoji
import ScriptEngine.Text.Identifier
import ScriptEngine.Text.PlainName

/-!
# Properties of characters

Properties that a character has or lacks, by their names.  Some are listed
character by character; the others follow from general categories, from the case
maps and from the listed ones.

* `properties` — the names of each property and the characters that have it;
* `withProperty?` — the characters that have the property with a name.
-/

namespace ScriptEngine

namespace CharSet

/-! ## Listed properties -/

/-- Marks that set the direction of writing. -/
def bidiControl : CharSet :=
  .ofText "61c 200e-200f 202a-202e 2066-2069"

/-- Dashes. -/
def dash : CharSet :=
  .ofText
    "2d 58a 5be 1400 1806 2010-2015 2053 207b 208b 2212 2e17 2e1a 2e3a-2e3b 2e40 2e5d 301c 3030
    30a0 fe31-fe32 fe58 fe63 ff0d 10d6e 10ead"

/-- Characters that are no longer to be used. -/
def deprecated : CharSet :=
  .ofText "149 673 f77 f79 17a3-17a4 206a-206f 2329-232a e0001"

/-- Marks that change the value of the character before them. -/
def diacritic : CharSet :=
  .ofText
    "5e 60 a8 af b4 b7-b8 2b0-34e 350-357 35d-362 374-375 37a 384-385 483-487 559 591-5bd 5bf
    5c1-5c2 5c4-5c5 5c7 64b-652 657-658 6df-6e0 6e5-6e6 6ea-6ec 730-74a 7a6-7b0 7eb-7f5 818-819
    898-89f 8c9-8d2 8e3-8fe 93c 94d 951-954 971 9bc 9cd a3c a4d abc acd afd-aff b3c b4d b55 bcd c3c
    c4d cbc ccd d3b-d3c d4d dca e3a e47-e4c e4e eba ec8-ecc f18-f19 f35 f37 f39 f3e-f3f f82-f84
    f86-f87 fc6 1037 1039-103a 1063-1064 1069-106d 1087-108d 108f 109a-109b 135d-135f 1714-1715
    1734 17c9-17d3 17dd 1939-193b 1a60 1a75-1a7c 1a7f 1ab0-1abe 1ac1-1acb 1b34 1b44 1b6b-1b73
    1baa-1bab 1be6 1bf2-1bf3 1c36-1c37 1c78-1c7d 1cd0-1ce8 1ced 1cf4 1cf7-1cf9 1d2c-1d6a 1d9b-1dbe
    1dc4-1dcf 1df5-1dff 1fbd 1fbf-1fc1 1fcd-1fcf 1fdd-1fdf 1fed-1fef 1ffd-1ffe 2cef-2cf1 2e2f
    302a-302f 3099-309c 30fc a66f a67c-a67d a67f a69c-a69d a6f0-a6f1 a700-a721 a788-a78a a7f8-a7f9
    a806 a82c a8c4 a8e0-a8f1 a92b-a92e a953 a9b3 a9c0 a9e5 aa7b-aa7d aabf-aac2 aaf6 ab5b-ab5f
    ab69-ab6b abec-abed fb1e fe20-fe2f ff3e ff40 ff70 ff9e-ff9f ffe3 102e0 10780-10785 10787-107b0
    107b2-107ba 10a38-10a3a 10a3f 10ae5-10ae6 10d22-10d27 10d4e 10d69-10d6d 10efd-10eff 10f46-10f50
    10f82-10f85 11046 11070 110b9-110ba 11133-11134 11173 111c0 111ca-111cc 11235-11236 112e9-112ea
    1133b-1133c 1134d 11366-1136c 11370-11374 113ce-113d0 113d2-113d3 113e1-113e2 11442 11446
    114c2-114c3 115bf-115c0 1163f 116b6-116b7 1172b 11839-1183a 1193d-1193e 11943 119e0 11a34 11a47
    11a99 11c3f 11d42 11d44-11d45 11d97 11f41-11f42 11f5a 13447-13455 1612f 16af0-16af4 16b30-16b36
    16d6b-16d6c 16f8f-16f9f 16ff0-16ff1 1aff0-1aff3 1aff5-1affb 1affd-1affe 1cf00-1cf2d 1cf30-1cf46
    1d167-1d169 1d16d-1d172 1d17b-1d182 1d185-1d18b 1d1aa-1d1ad 1e030-1e06d 1e130-1e136 1e2ae
    1e2ec-1e2ef 1e5ee-1e5ef 1e8d0-1e8d6 1e944-1e946 1e948-1e94a"

/-- Characters that lengthen or repeat the one before them. -/
def extender : CharSet :=
  .ofText
    "b7 2d0-2d1 640 7fa a71 afb b55 e46 ec6 180a 1843 1aa7 1c36 1c7b 3005 3031-3035 309d-309e
    30fc-30fe a015 a60c a9cf a9e6 aa70 aadd aaf3-aaf4 ff70 10781-10782 10d4e 10d6a 10d6f 11237
    1135d 113d2-113d3 115c6-115c8 11a98 16b42-16b43 16fe0-16fe1 16fe3 1e13c-1e13d 1e5ef 1e944-1e946"

/-- Hexadecimal digits. -/
def hexDigit : CharSet :=
  .ofText "30-39 41-46 61-66 ff10-ff19 ff21-ff26 ff41-ff46"

/-- Hexadecimal digits below `80`. -/
def asciiHexDigit : CharSet :=
  .ofText "30-39 41-46 61-66"

/-- Dashes inside words, and what looks like them. -/
def hyphen : CharSet :=
  .ofText "2d ad 58a 1806 2010-2011 2e17 30fb fe63 ff0d ff65"

/-- Characters that stand for a word or part of one. -/
def ideographic : CharSet :=
  .ofText
    "3006-3007 3021-3029 3038-303a 3400-4dbf 4e00-9fff f900-fa6d fa70-fad9 16fe4 17000-187f7
    18800-18cd5 18cff-18d08 1b170-1b2fb 20000-2a6df 2a700-2b739 2b740-2b81d 2b820-2cea1 2ceb0-2ebe0
    2ebf0-2ee5d 2f800-2fa1d 30000-3134a 31350-323af"

/-- Ideographs that several languages share. -/
def unifiedIdeograph : CharSet :=
  .ofText
    "3400-4dbf 4e00-9fff fa0e-fa0f fa11 fa13-fa14 fa1f fa21 fa23-fa24 fa27-fa29 20000-2a6df
    2a700-2b739 2b740-2b81d 2b820-2cea1 2ceb0-2ebe0 2ebf0-2ee5d 30000-3134a 31350-323af"

/-- Parts of ideographs. -/
def radical : CharSet :=
  .ofText "2e80-2e99 2e9b-2ef3 2f00-2fd5"

/-- Signs that describe an ideograph by one other. -/
def idsUnary : CharSet :=
  .ofText "2ffe-2fff"

/-- Signs that describe an ideograph by two others. -/
def idsBinary : CharSet :=
  .ofText "2ff0-2ff1 2ff4-2ffd 31ef"

/-- Signs that describe an ideograph by three others. -/
def idsTrinary : CharSet :=
  .ofText "2ff2-2ff3"

/-- Vowels that are written before the consonant they follow in speech. -/
def logicalOrderException : CharSet :=
  .ofText "e40-e44 ec0-ec4 19b5-19b7 19ba aab5-aab6 aab9 aabb-aabc"

/-- What counts as mathematical beside the signs of that category. -/
def otherMath : CharSet :=
  .ofText
    "5e 3d0-3d2 3d5 3f0-3f1 3f4-3f5 2016 2032-2034 2040 2061-2064 207d-207e 208d-208e 20d0-20dc
    20e1 20e5-20e6 20eb-20ef 2102 2107 210a-2113 2115 2119-211d 2124 2128-2129 212c-212d 212f-2131
    2133-2138 213c-213f 2145-2149 2195-2199 219c-219f 21a1-21a2 21a4-21a5 21a7 21a9-21ad 21b0-21b1
    21b6-21b7 21bc-21cd 21d0-21d1 21d3 21d5-21db 21dd 21e4-21e5 2308-230b 23b4-23b5 23b7 23d0 23e2
    25a0-25a1 25ae-25b6 25bc-25c0 25c6-25c7 25ca-25cb 25cf-25d3 25e2 25e4 25e7-25ec 2605-2606 2640
    2642 2660-2663 266d-266e 27c5-27c6 27e6-27ef 2983-2998 29d8-29db 29fc-29fd fe61 fe63 fe68 ff3c
    ff3e 1d400-1d454 1d456-1d49c 1d49e-1d49f 1d4a2 1d4a5-1d4a6 1d4a9-1d4ac 1d4ae-1d4b9 1d4bb
    1d4bd-1d4c3 1d4c5-1d505 1d507-1d50a 1d50d-1d514 1d516-1d51c 1d51e-1d539 1d53b-1d53e 1d540-1d544
    1d546 1d54a-1d550 1d552-1d6a5 1d6a8-1d6c0 1d6c2-1d6da 1d6dc-1d6fa 1d6fc-1d714 1d716-1d734
    1d736-1d74e 1d750-1d76e 1d770-1d788 1d78a-1d7a8 1d7aa-1d7c2 1d7c4-1d7cb 1d7ce-1d7ff 1ee00-1ee03
    1ee05-1ee1f 1ee21-1ee22 1ee24 1ee27 1ee29-1ee32 1ee34-1ee37 1ee39 1ee3b 1ee42 1ee47 1ee49 1ee4b
    1ee4d-1ee4f 1ee51-1ee52 1ee54 1ee57 1ee59 1ee5b 1ee5d 1ee5f 1ee61-1ee62 1ee64 1ee67-1ee6a
    1ee6c-1ee72 1ee74-1ee77 1ee79-1ee7c 1ee7e 1ee80-1ee89 1ee8b-1ee9b 1eea1-1eea3 1eea5-1eea9
    1eeab-1eebb"

/-- Marks that stand close to their letter, before others. -/
def modifierCombiningMark : CharSet :=
  .ofText "654-655 658 6dc 6e3 6e7-6e8 8ca-8cb 8cd-8cf 8d3 8f3"

/-- Signs that join two consonants. -/
def graphemeLink : CharSet :=
  .ofText
    "94d 9cd a4d acd b4d bcd c4d ccd d3b-d3c d4d dca e3a eba f84 1039-103a 1714-1715 1734 17d2 1a60
    1b44 1baa-1bab 1bf2-1bf3 2d7f a806 a82c a8c4 a953 a9c0 aaf6 abed 10a3f 11046 11070 1107f 110b9
    11133-11134 111c0 11235 112ea 1134d 113ce-113d0 11442 114c2 115bf 1163f 116b6 1172b 11839
    1193d-1193e 119e0 11a34 11a47 11a99 11c3f 11d44-11d45 11d97 11f41-11f42 1612f"

/-- Code points that will never be characters. -/
def noncharacter : CharSet :=
  .ofText
    "fdd0-fdef fffe-ffff 1fffe-1ffff 2fffe-2ffff 3fffe-3ffff 4fffe-4ffff 5fffe-5ffff 6fffe-6ffff
    7fffe-7ffff 8fffe-8ffff 9fffe-9ffff afffe-affff bfffe-bffff cfffe-cffff dfffe-dffff efffe-effff
    ffffe-fffff 10fffe-10ffff"

/-- Marks that go before what they join. -/
def prependedMark : CharSet :=
  .ofText "600-605 6dd 70f 890-891 8e2 110bd 110cd"

/-- Quotation marks. -/
def quotationMark : CharSet :=
  .ofText "22 27 ab bb 2018-201f 2039-203a 2e42 300c-300f 301d-301f fe41-fe44 ff02 ff07 ff62-ff63"

/-- Letters that name a country in pairs. -/
def regionalIndicator : CharSet :=
  .ofText "1f1e6-1f1ff"

/-- Marks that end a sentence. -/
def sentenceTerminal : CharSet :=
  .ofText
    "21 2e 3f 589 61d-61f 6d4 700-702 7f9 837 839 83d-83e 964-965 104a-104b 1362 1367-1368 166e
    1735-1736 17d4-17d5 1803 1809 1944-1945 1aa8-1aab 1b4e-1b4f 1b5a-1b5b 1b5e-1b5f 1b7d-1b7f
    1c3b-1c3c 1c7e-1c7f 2024 203c-203d 2047-2049 2cf9-2cfb 2e2e 2e3c 2e53-2e54 3002 a4ff a60e-a60f
    a6f3 a6f7 a876-a877 a8ce-a8cf a92f a9c8-a9c9 aa5d-aa5f aaf0-aaf1 abeb fe12 fe15-fe16 fe52
    fe56-fe57 ff01 ff0e ff1f ff61 10a56-10a57 10f55-10f59 10f86-10f89 11047-11048 110be-110c1
    11141-11143 111c5-111c6 111cd 111de-111df 11238-11239 1123b-1123c 112a9 113d4-113d5 1144b-1144c
    115c2-115c3 115c9-115d7 11641-11642 1173c-1173e 11944 11946 11a42-11a43 11a9b-11a9c 11c41-11c42
    11ef7-11ef8 11f43-11f44 16a6e-16a6f 16af5 16b37-16b38 16b44 16d6e-16d6f 16e98 1bc9f 1da88"

/-- Marks that end a part of a sentence. -/
def terminalPunctuation : CharSet :=
  .ofText
    "21 2c 2e 3a-3b 3f 37e 387 589 5c3 60c 61b 61d-61f 6d4 700-70a 70c 7f8-7f9 830-835 837-83e 85e
    964-965 e5a-e5b f08 f0d-f12 104a-104b 1361-1368 166e 16eb-16ed 1735-1736 17d4-17d6 17da
    1802-1805 1808-1809 1944-1945 1aa8-1aab 1b4e-1b4f 1b5a-1b5b 1b5d-1b5f 1b7d-1b7f 1c3b-1c3f
    1c7e-1c7f 2024 203c-203d 2047-2049 2cf9-2cfb 2e2e 2e3c 2e41 2e4c 2e4e-2e4f 2e53-2e54 3001-3002
    a4fe-a4ff a60d-a60f a6f3-a6f7 a876-a877 a8ce-a8cf a92f a9c7-a9c9 aa5d-aa5f aadf aaf0-aaf1 abeb
    fe12 fe15-fe16 fe50-fe52 fe54-fe57 ff01 ff0c ff0e ff1a-ff1b ff1f ff61 ff64 1039f 103d0 10857
    1091f 10a56-10a57 10af0-10af5 10b3a-10b3f 10b99-10b9c 10f55-10f59 10f86-10f89 11047-1104d
    110be-110c1 11141-11143 111c5-111c6 111cd 111de-111df 11238-1123c 112a9 113d4-113d5 1144b-1144d
    1145a-1145b 115c2-115c5 115c9-115d7 11641-11642 1173c-1173e 11944 11946 11a42-11a43 11a9b-11a9c
    11aa1-11aa2 11c41-11c43 11c71 11ef7-11ef8 11f43-11f44 12470-12474 16a6e-16a6f 16af5 16b37-16b39
    16b44 16d6e-16d6f 16e97-16e98 1bc9f 1da87-1da8a"

/-- Letters whose dot goes when another mark comes above. -/
def softDotted : CharSet :=
  .ofText
    "69-6a 12f 249 268 29d 2b2 3f3 456 458 1d62 1d96 1da4 1da8 1e2d 1ecb 2071 2148-2149 2c7c
    1d422-1d423 1d456-1d457 1d48a-1d48b 1d4be-1d4bf 1d4f2-1d4f3 1d526-1d527 1d55a-1d55b 1d58e-1d58f
    1d5c2-1d5c3 1d5f6-1d5f7 1d62a-1d62b 1d65e-1d65f 1d692-1d693 1df1a 1e04c-1e04d 1e068"

/-- Signs that choose a form of the character before them. -/
def variationSelector : CharSet :=
  .ofText "180b-180d 180f fe00-fe0f e0100-e01ef"

/-- What is not shown beside formats and variation selectors. -/
def otherDefaultIgnorable : CharSet :=
  .ofText
    "34f 115f-1160 17b4-17b5 2065 3164 ffa0 fff0-fff8 e0000 e0002-e001f e0080-e00ff e01f0-e0fff"

/-! ## Case -/

/-- Characters that change when a text is put in lower case. -/
def changesInLower : CharSet := (range 0x41 0x5A).union CharMap.lower.domain

/-- Characters that change when a text is put in upper case. -/
def changesInUpper : CharSet := (range 0x61 0x7A).union CharMap.upper.domain

/-- Letters with an upper case that start a title as they are. -/
def keptInTitles : CharSet :=
  .ofText "1c5 1c8 1cb 1f2 10d0-10fa 10fd-10ff 1f88-1f8f 1f98-1f9f 1fa8-1faf 1fbc 1fcc 1ffc"

/-- Characters that change at the start of a title. -/
def changesInTitle : CharSet :=
  (changesInUpper.diff keptInTitles).union (.ofText "1c4 1c7 1ca 1f1")

/-- Characters without a lower case, or in lower case, that change all the same when
case is to be left out of account. -/
def foldedInLower : CharSet :=
  .ofText
    "b5 df 149 17f 345 3c2 3d0-3d1 3d5-3d6 3f0-3f1 3f5 587 13f8-13fd 1c80-1c88 1e9a-1e9b 1f80-1f87
    1f90-1f97 1fa0-1fa7 1fb2-1fb4 1fb7 1fc2-1fc4 1fc7 1ff2-1ff4 1ff7 ab70-abbf fb00-fb06 fb13-fb17"

/-- Characters that change when case is to be left out of account. -/
def changesInFolding : CharSet :=
  (changesInLower.diff (range 0x13A0 0x13F5)).union foldedInLower

/-! ## Form -/

/-- Signs and letters of mathematics. -/
def math : CharSet := (ofCategories [.sm]).union otherMath

/-- Characters that do not extend the one before them. -/
def graphemeBase : CharSet :=
  (ofCategories [.cc, .cf, .cs, .co, .cn, .zl, .zp]).complement.diff graphemeExtend

/-- Characters that are not shown where they are not known. -/
def defaultIgnorable : CharSet :=
  (unions [otherDefaultIgnorable, ofCategories [.cf], variationSelector]).diff
    (unions [blank, .ofText "fff9-fffb 13430-1343f", prependedMark])

end CharSet

open CharSet in
/-- The properties, each with its names and the characters that have it. -/
def properties : List (String × CharSet) :=
  [("ASCII_Hex_Digit AHex", asciiHexDigit),
   ("Alphabetic Alpha", alphabetic),
   ("Bidi_Control Bidi_C", bidiControl),
   ("Case_Ignorable CI", caseIgnorable),
   ("Cased", cased),
   ("Changes_When_Casefolded CWCF", changesInFolding),
   ("Changes_When_Casemapped CWCM", unions [changesInLower, changesInUpper, changesInTitle]),
   ("Changes_When_Lowercased CWL", changesInLower),
   ("Changes_When_Titlecased CWT", changesInTitle),
   ("Changes_When_Uppercased CWU", changesInUpper),
   ("Dash", dash),
   ("Default_Ignorable_Code_Point DI", defaultIgnorable),
   ("Deprecated Dep", deprecated),
   ("Diacritic Dia", diacritic),
   ("Emoji", emoji),
   ("Emoji_Component EComp", emojiComponent),
   ("Emoji_Modifier EMod", emojiModifier),
   ("Emoji_Modifier_Base EBase", emojiModifierBase),
   ("Emoji_Presentation EPres", emojiPresentation),
   ("Extended_Pictographic ExtPict", extendedPictographic),
   ("Extender Ext", extender),
   ("Grapheme_Base Gr_Base", graphemeBase),
   ("Grapheme_Extend Gr_Ext", graphemeExtend),
   ("Grapheme_Link Gr_Link", graphemeLink),
   ("Hex_Digit Hex", hexDigit),
   ("Hyphen", hyphen),
   ("ID_Compat_Math_Continue", mathIdContinue),
   ("ID_Compat_Math_Start", mathIdStart),
   ("ID_Continue IDC", idContinue),
   ("ID_Start IDS", idStart),
   ("IDS_Binary_Operator IDSB", idsBinary),
   ("IDS_Trinary_Operator IDST", idsTrinary),
   ("IDS_Unary_Operator IDSU", idsUnary),
   ("Ideographic Ideo", ideographic),
   ("Join_Control Join_C", joinControl),
   ("Logical_Order_Exception LOE", logicalOrderException),
   ("Lowercase Lower", lowercase),
   ("Math", math),
   ("Modifier_Combining_Mark MCM", modifierCombiningMark),
   ("Noncharacter_Code_Point NChar", noncharacter),
   ("Other_Alphabetic OAlpha", otherAlphabetic),
   ("Other_Default_Ignorable_Code_Point ODI", otherDefaultIgnorable),
   ("Other_Grapheme_Extend OGr_Ext", otherGraphemeExtend),
   ("Other_ID_Continue OIDC", otherIdContinue),
   ("Other_ID_Start OIDS", otherIdStart),
   ("Other_Lowercase OLower", otherLowercase),
   ("Other_Math OMath", otherMath),
   ("Other_Uppercase OUpper", otherUppercase),
   ("Pattern_Syntax Pat_Syn", patternSyntax),
   ("Pattern_White_Space Pat_WS", patternBlank),
   ("Prepended_Concatenation_Mark PCM", prependedMark),
   ("Quotation_Mark QMark", quotationMark),
   ("Radical", radical),
   ("Regional_Indicator RI", regionalIndicator),
   ("Sentence_Terminal STerm", sentenceTerminal),
   ("Soft_Dotted SD", softDotted),
   ("Terminal_Punctuation Term", terminalPunctuation),
   ("Unified_Ideograph UIdeo", unifiedIdeograph),
   ("Uppercase Upper", uppercase),
   ("Variation_Selector VS", variationSelector),
   ("White_Space WSpace space", blank),
   ("XID_Continue XIDC", xIdContinue),
   ("XID_Start XIDS", xIdStart)]

/-- The characters that have the property with a name. -/
def withProperty? (plain : String) : Option CharSet :=
  (properties.find? fun entry => isNamed entry.1 plain).map (·.2)

end ScriptEngine

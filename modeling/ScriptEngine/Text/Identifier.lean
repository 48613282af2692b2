import ScriptEngine.Text.Letter

/-!
# Identifiers

What a name in a program may start with and go on with, and the characters that
are set apart for the marks and blanks of programs.
-/

namespace ScriptEngine.CharSet

/-- Characters set apart for the marks of programs. -/
def patternSyntax : CharSet :=
  .ofText
    "21-2f 3a-40 5b-5e 60 7b-7e a1-a7 a9 ab-ac ae b0-b1 b6 bb bf d7 f7 2010-2027 2030-203e
    2041-2053 2055-205e 2190-245f 2500-2775 2794-2bff 2e00-2e7f 3001-3003 3008-3020 3030 fd3e-fd3f
    fe45-fe46"

/-- Characters set apart for the blanks of programs. -/
def patternBlank : CharSet :=
  .ofText "9-d 20 85 200e-200f 2028-2029"

/-- What may start a name beside letters and letter numbers. -/
def otherIdStart : CharSet :=
  .ofText "1885-1886 2118 212e 309b-309c"

/-- What may go on a name beside what may start it, marks, decimal digits and
connectors. -/
def otherIdContinue : CharSet :=
  .ofText "b7 387 1369-1371 19da 200c-200d 30fb ff65"

/-- What may start a name. -/
def idStart : CharSet :=
  ((ofCategories [.lu, .ll, .lt, .lm, .lo, .nl]).union otherIdStart).diff
    (patternSyntax.union patternBlank)

/-- What may go on a name. -/
def idContinue : CharSet :=
  (unions [idStart, ofCategories [.mn, .mc, .nd, .pc], otherIdContinue]).diff
    (patternSyntax.union patternBlank)

/-- What may go on a name only as long as it keeps its form.  Compatible forms of
these characters contain others that may not. -/
def notXIdContinue : CharSet :=
  .ofText "37a 309b-309c fc5e-fc63 fdfa-fdfb fe70 fe72 fe74 fe76 fe78 fe7a fe7c fe7e"

/-- What may start a name only as long as it keeps its form. -/
def notXIdStart : CharSet :=
  .ofText
    "37a e33 eb3 309b-309c fc5e-fc63 fdfa-fdfb fe70 fe72 fe74 fe76 fe78 fe7a fe7c fe7e ff9e-ff9f"

/-- What may start a name in whatever form the name is. -/
def xIdStart : CharSet := idStart.diff notXIdStart

/-- What may go on a name in whatever form the name is. -/
def xIdContinue : CharSet := idContinue.diff notXIdContinue

/-- Signs of mathematics that may start a name. -/
def mathIdStart : CharSet :=
  .ofText "2202 2207 221e 1d6c1 1d6db 1d6fb 1d715 1d735 1d74f 1d76f 1d789 1d7a9 1d7c3"

/-- Raised and lowered digits and signs. -/
def mathIdScript : CharSet :=
  .ofText "b2-b3 b9 2070 2074-207e 2080-208e"

/-- Signs of mathematics that may go on a name. -/
def mathIdContinue : CharSet := mathIdStart.union mathIdScript

end ScriptEngine.CharSet

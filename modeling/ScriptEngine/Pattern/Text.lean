import ScriptEngine.Pattern.Match
import ScriptEngine.Pattern.Meaning
import ScriptEngine.Pattern.Reader
import ScriptEngine.Pattern.Size

/-!
# Patterns from text

* `Pattern.ofText?` — the pattern that a text describes, if it is one and is not
  too large;
* `Pattern.wholeText?` — the same between the ends of the text matched, the form
  in which the language uses patterns.
-/

namespace ScriptEngine.Pattern

/-- The pattern that a text describes. -/
def ofText? (text : String) : Option Pattern := do
  let (pattern, _) ← (← Written.ofText? text).meaning .standard
  guard pattern.isSmall
  return pattern

/-- The pattern that has to match a text from end to end.  The text of the
pattern is only set between the two ends, so that an unmatched parenthesis in
it reaches beyond them. -/
def wholeText? (text : String) : Option Pattern := ofText? ("^(?:" ++ text ++ ")$")

end ScriptEngine.Pattern

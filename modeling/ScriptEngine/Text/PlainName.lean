import ScriptEngine.Text.CharSet

/-!
# Names of properties

Properties of characters, and the values of properties, go by long and short
names.  Case, spaces, `-` and `_` do not count in them, nor does a leading `is`.

* `plainName` — what counts of a name;
* `isNamed` — whether it is one of several names.
-/

namespace ScriptEngine

/-- What counts of a name.  A leading `is` is left out first, then all blanks,
hyphens, underscores and characters from `80` on.  Where `is` and nothing but the
letter `c` were written, that is the name `isc` and not `c`. -/
def plainName (name : String) : String :=
  let (isMarked, rest) : Bool × List Char :=
    match name.toList with
    | i :: s :: rest =>
      if i.toLower = 'i' && s.toLower = 's' then (true, rest) else (false, i :: s :: rest)
    | rest => (false, rest)
  let kept := rest.filter fun c => c.toNat < 0x80 && c ≠ ' ' && c ≠ '-' && c ≠ '_'
  let plain := kept.map Char.toLower
  if isMarked && plain = ['c'] then "isc" else String.ofList plain

/-- Whether one of the names that stand in a text, with blanks between them, comes
to the one given. -/
def isNamed (names plain : String) : Bool :=
  (tableItems names).any fun name => plainName name = plain

end ScriptEngine

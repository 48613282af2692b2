import ScriptEngine.Command

/-!
# The program

Reading a file and writing to the output streams; everything else is
`Command.run`.
-/

namespace ScriptEngine

/-- An error of the system in words, with its number, which may be
reported with either sign. -/
def systemReason : IO.Error → String
  | .inappropriateType _ code details | .invalidArgument _ code details
  | .resourceExhausted _ code details | .noSuchThing _ code details
  | .hardwareFault code details | .otherError code details =>
    details.capitalize ++ s!" (os error {code.toInt32.toInt.natAbs})"
  | e => toString e

/-- What can be read under a path. -/
def readFile (path : String) : IO (Except Command.FileFault String) := do
  try
    let bytes ← IO.FS.readBinFile path
    return match String.fromUTF8? bytes with
      | some text => .ok text
      | none => .error .notText
  catch
    | .noFileOrDirectory .. => return .error .missing
    | .permissionDenied .. => return .error .denied
    | e => return .error (.other (systemReason e))

/-- What the program can read: the one file that its arguments name. -/
def files (args : List String) : IO Command.Files := do
  match Command.wanted? args with
  | some path =>
    let content ← readFile path
    return fun _ => content
  | none => return fun _ => .error .missing

end ScriptEngine

open ScriptEngine in
def main (args : List String) : IO UInt32 := do
  let result := Command.run (← files args) args
  IO.print result.output
  IO.eprint result.errors
  return result.code.toUInt32

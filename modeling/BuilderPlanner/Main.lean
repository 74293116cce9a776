import BuilderPlanner.CommandLine

/-!
# The program

Runs the command line on the files of the machine.
-/

namespace BuilderPlanner

/-- The number and the text of an error. The last two kinds have no number, and come from no file. -/
def SystemError.ofError : IO.Error → SystemError
  | .alreadyExists _ number text | .interrupted _ number text | .noFileOrDirectory _ number text
  | .invalidArgument _ number text | .permissionDenied _ number text
  | .resourceExhausted _ number text | .inappropriateType _ number text
  | .noSuchThing _ number text | .otherError number text | .resourceBusy number text
  | .resourceVanished number text | .unsupportedOperation number text | .hardwareFault number text
  | .unsatisfiedConstraints number text | .illegalOperation number text
  | .protocolError number text | .timeExpired number text => ⟨number.toNat, text⟩
  | .unexpectedEof => ⟨0, "unexpected end of file"⟩
  | .userError text => ⟨0, text⟩

end BuilderPlanner

open BuilderPlanner

/-- Opens a file and reads it to its end. -/
def readFileContent (path : String) : IO FileContent := do
  try
    let file ← IO.FS.Handle.mk path .read
    return .ok (← file.readBinToEnd)
  catch error => return .error (.ofError error)

/-- Answers the arguments of the program. -/
def main (args : List String) : IO UInt32 := do
  let content ← match Request.ofArgs args with
    | .ok request => match request.file? with
      | some path => readFileContent path
      | none => pure (.error .missing)
    | .error _ => pure (.error .missing)
  let outcome := runCommand (fun _ => content) args
  IO.print outcome.stdout
  IO.eprint outcome.stderr
  return outcome.code

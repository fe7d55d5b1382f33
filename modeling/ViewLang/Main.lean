import ViewLang.Execution

/-!
# The program

Connects the program to its arguments, the file system and the standard streams.
-/

namespace ViewLang

/-- The reason why the system refuses a file. -/
def FileError.ofSystem : IO.Error → FileError
  | .alreadyExists _ code details | .otherError code details | .resourceBusy code details
  | .resourceVanished code details | .unsupportedOperation code details
  | .hardwareFault code details | .unsatisfiedConstraints code details
  | .illegalOperation code details | .protocolError code details | .timeExpired code details
  | .interrupted _ code details | .noFileOrDirectory _ code details
  | .invalidArgument _ code details | .permissionDenied _ code details
  | .resourceExhausted _ code details | .inappropriateType _ code details
  | .noSuchThing _ code details => .system details code
  | .unexpectedEof => .system "unexpected end of file" 0
  | .userError details => .system details 0

/-- Reads a file. -/
def readFile (name : String) : IO (Except FileError String) := do
  try
    return readText (← IO.FS.withFile name .read fun file => file.readBinToEnd)
  catch e =>
    return .error (.ofSystem e)

/-- Whether the environment lets diagnostics have styles. -/
def allowsStyles : IO Bool := do
  let terminal ← IO.getEnv "TERM"
  let refused ← IO.getEnv "NO_COLOR"
  return terminal.any (· != "dumb") && refused.isNone

/-- The outcome for the given arguments. -/
def outcome (args : List String) : IO Outcome := do
  match CommandLine.parse args with
  | .error usage => return usage.outcome
  | .ok invocation =>
    let source ← invocation.command.input.load readFile
    return invocation.perform (← allowsStyles) source

end ViewLang

/-- Runs the program. -/
def main (args : List String) : IO UInt32 := do
  let outcome ← ViewLang.outcome args
  (← IO.getStdout).write outcome.output
  IO.eprint outcome.errors
  return outcome.exitCode

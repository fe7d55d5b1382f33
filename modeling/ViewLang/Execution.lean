import ViewLang.CommandLine
import ViewLang.Diagnostic.Drawing
import ViewLang.Event.Encoding
import ViewLang.Event.Log
import ViewLang.Node.Printer
import ViewLang.Session
import ViewLang.Token.Listing

/-!
# Carrying out a command

A command works on a session and prints to a writer. If the source has an error, the session reports
it and the command fails before it has printed anything. Events in the form of text are printed
while the source runs, all else after that. Around a command stands the program as a whole: it
obtains the source, carries out the command, and ends with an exit code, what it printed, and what
it reported.
-/

namespace ViewLang

/-! ### Commands -/

/-- Why a command fails. -/
inductive Failure where
  /-- The source has an error, which has been reported. -/
  | reported
  /-- Writing the output fails. -/
  | output (error : WriteError)
  /-- Writing the output fails while it is JSON. -/
  | json (error : WriteError)
deriving DecidableEq, Repr

/-- The failure in words. -/
def Failure.message : Failure → String
  | reported => "errors while running"
  | output e => e.message
  | json e => "error writing json: " ++ e.message

/-- What a command leaves behind. -/
structure Execution where
  session : Session
  output : Writer
  failure : Option Failure := none

namespace Execution

/-- Goes on with the answer of a session, if there is one. -/
def after {α : Type} (output : Writer) (print : α → Option Failure × Writer) :
    Option α × Session → Execution
  | (none, s) => ⟨s, output, some .reported⟩
  | (some answer, s) =>
    let (failure, output) := print answer
    ⟨s, output, failure⟩

end Execution

/-- Closes the log at the end of a run. -/
def Log.close (log : Log) : Option Failure × Writer :=
  match log.finish with
  | .ok output => (none, output)
  | .error e => (some (.output e), log.writer)

/-- Prints events as JSON on lines of their own. -/
def Writer.printEvents (output : Writer) (events : Array Event) : Option Failure × Writer :=
  match output.print (Event.encode events.toList) with
  | (some e, output) => (some (.json e), output)
  | (none, output) => (output.print "\n").map (Option.map .output) id

/-- Carries out a command on the source of a session. -/
def Session.execute (s : Session) (output : Writer) : Command → Execution
  | .run _ config .text => .after output Log.close (s.evaluate { writer := output : Log } config)
  | .run _ config .json => .after output output.printEvents (s.evaluate (#[] : Array Event) config)
  | .tokens _ =>
    .after output (fun ts => (output.printAll (ts.map Token.row)).map (Option.map .output) id)
      s.tokens
  | .ast _ =>
    .after output (fun nodes => (output.print (Node.print Node.defaultIndent nodes)).map
      (Option.map .output) id) s.program

/-! ### Files -/

/-- Why a file gives no source. -/
inductive FileError where
  /-- The system does not let it be read, for a reason that has a number. -/
  | system (description : String) (code : UInt32)
  /-- Its bytes are no text. -/
  | notText
deriving DecidableEq, Repr

namespace FileError

/-- There is no such file. -/
def missing : FileError :=
  system "No such file or directory" 2

/-- The name is that of a directory. -/
def directory : FileError :=
  system "Is a directory" 21

/-- The error in words. -/
def message : FileError → String
  | system description code => description ++ " (os error " ++ toString code.toNat ++ ")"
  | notText => "stream did not contain valid UTF-8"

end FileError

/-- The text of a file with the given bytes. -/
def readText (bytes : ByteArray) : Except FileError String :=
  match String.fromUTF8? bytes with
  | some text => .ok text
  | none => .error .notText

/-- Obtains the source that a command works on. Text given in place of a file has a name of its
own. -/
def Input.load {m : Type → Type} [Monad m] (input : Input)
    (readFile : String → m (Except FileError String)) : m (Except FileError Source) := do
  if input.isSource then
    return .ok (.ofText "<source>" input.text)
  else
    return (← readFile input.text).map (.ofText input.text)

/-! ### The program as a whole -/

/-- How a run of the program ends. -/
structure Outcome where
  exitCode : UInt32
  output : ByteArray
  /-- What is reported apart from the output. -/
  errors : String

/-- Whether diagnostics have styles, where `terminal` says whether the place where they are shown
understands them. -/
def Colour.shows (terminal : Bool) : Colour → Bool
  | auto => terminal
  | always => true
  | never => false

/-- The diagnostics reported so far as text. -/
def Session.drawn (s : Session) (colour : Bool) : String :=
  s.diagnostics.foldl (fun out d => out ++ d.draw s.source {} colour) ""

/-- The outcome of a command that has been carried out. A failure that the diagnostics do not tell
of is reported after them. -/
def Execution.outcome (e : Execution) (colour : Bool) : Outcome :=
  let drawn := e.session.drawn colour
  match e.failure with
  | none => ⟨0, e.output.written, drawn⟩
  | some .reported => ⟨1, e.output.written, drawn⟩
  | some failure => ⟨1, e.output.written, drawn ++ failure.message ++ "\n"⟩

namespace Invocation

/-- Carries out the command on a source, or reports why there is none. -/
def perform (invocation : Invocation) (terminal : Bool) : Except FileError Source → Outcome
  | .error e => ⟨1, .empty, e.message ++ "\n"⟩
  | .ok source =>
    (Session.execute { source } {} invocation.command).outcome (invocation.colour.shows terminal)

end Invocation

/-! ### When there is no command -/

/-- How the program is called. -/
def helpText : String :=
  "\n".intercalate [
    "Run M- programs",
    "",
    "Usage: m [--color <auto|always|never>] <COMMAND>",
    "",
    "Commands:",
    "  run     Run a program and print the events it produces",
    "  tokens  Print the tokens of a program, one per line",
    "  ast     Print a program as parsed",
    "  help    Print this message",
    "",
    "Each command takes the name of a file, or with -s (--source) the program itself.",
    "The command run also takes --mode <reference|corrected>, --max-depth <NUMBER>",
    "and --format <text|json>.",
    ""]

/-- What the program says where its arguments lead to no command. -/
def Usage.message : Usage → String
  | help | nothingAsked => helpText
  | version => "m 0.1.0\n"
  | missingCommand => "error: a command is missing\n"
  | unknownCommand => "error: no such command\n"
  | missingInput => "error: the input is missing\n"
  | unknownArgument => "error: unexpected argument\n"
  | badChoice => "error: the value of an option is missing or not among its choices\n"
  | badNumber => "error: the value of an option is not a number in range\n"
  | repeated => "error: an option is given twice\n"
  | valueOfFlag => "error: an option that takes no value is given one\n"

/-- The outcome where the arguments lead to no command. What was asked for is output; everything
else is an error. -/
def Usage.outcome (usage : Usage) : Outcome :=
  if usage.exitCode = 0 then ⟨0, usage.message.toUTF8, ""⟩
  else ⟨usage.exitCode, .empty, usage.message⟩

end ViewLang

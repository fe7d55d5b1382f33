import ViewLang.Interpreter
import ViewLang.Text.Decimal

/-!
# The command line

The arguments of the program: settings, then a command, then settings, a flag and the input of that
command. Arguments are read from left to right and the first one that is wrong decides.

A setting takes a value, either in the same argument after an equals sign or as the next argument. A
value of its own is looked at only when the next argument is understood, or at the end, so an
argument that is not understood goes before a value that is wrong. The value of a setting before the
command is looked at after the whole command has been read. An argument of two dashes ends the
settings and flags.
-/

namespace ViewLang

/-- When diagnostics are shown with styles. -/
inductive Colour where
  | auto
  | always
  | never
deriving DecidableEq, Repr

/-- The form in which events are printed. -/
inductive Format where
  | text
  | json
deriving DecidableEq, Repr

/-- What a command works on: a file, or the text itself. -/
structure Input where
  /-- The name of the file, or the text. -/
  text : String
  /-- Whether it is the text itself. -/
  isSource : Bool
deriving DecidableEq, Repr

/-- What the program is asked to do. -/
inductive Command where
  /-- Run a program and print its events. -/
  | run (input : Input) (config : Config) (format : Format)
  /-- Print the tokens of a program. -/
  | tokens (input : Input)
  /-- Print a program as read. -/
  | ast (input : Input)
deriving DecidableEq, Repr

/-- What the command works on. -/
def Command.input : Command → Input
  | run input _ _ | tokens input | ast input => input

/-- A command with the settings that are common to all commands. -/
structure Invocation where
  command : Command
  colour : Colour
deriving DecidableEq, Repr

/-- Why the arguments lead to no command: what they ask for instead, or what is wrong with them. -/
inductive Usage where
  | help
  | version
  /-- There is no argument that asks for anything. -/
  | nothingAsked
  | missingCommand
  | unknownCommand
  | missingInput
  | unknownArgument
  /-- A setting has no value, or none of its choices. -/
  | badChoice
  | badNumber
  /-- A setting or a flag is given twice. -/
  | repeated
  /-- A flag is given a value. -/
  | valueOfFlag
deriving DecidableEq, Repr

/-- The exit code. It is an error to ask for nothing. -/
def Usage.exitCode : Usage → UInt32
  | help | version => 0
  | _ => 2

namespace CommandLine

/-! ### Settings -/

/-- The settings that take a value. -/
inductive Setting where
  | colour
  | mode
  | maxDepth
  | format
deriving DecidableEq, Repr

/-- The settings with the words by which they are given. -/
def Setting.all : List (String × Setting) :=
  [("color", .colour), ("mode", .mode), ("max-depth", .maxDepth), ("format", .format)]

/-- The commands. -/
inductive CommandName where
  | run
  | tokens
  | ast
deriving DecidableEq, Repr

/-- The commands with the words by which they are given. -/
def CommandName.all : List (String × CommandName) :=
  [("run", .run), ("tokens", .tokens), ("ast", .ast)]

/-- The values that have been given. -/
structure Values where
  colour : Option Colour := none
  mode : Option Mode := none
  maxDepth : Option Nat := none
  format : Option Format := none
deriving DecidableEq, Repr

/-- A value among choices. -/
def choose {α : Type} (choices : List (String × α)) (value : String) : Except Usage α :=
  match choices.lookup value with
  | some a => .ok a
  | none => .error .badChoice

/-- Whether a setting has been given a value. -/
def Values.has (v : Values) : Setting → Bool
  | .colour => v.colour.isSome
  | .mode => v.mode.isSome
  | .maxDepth => v.maxDepth.isSome
  | .format => v.format.isSome

/-- Gives a setting its value. A setting cannot be given twice, whatever the second value is. -/
def Values.give (v : Values) (setting : Setting) (value : String) : Except Usage Values := do
  if v.has setting then
    throw .repeated
  match setting with
  | .colour =>
    let c ← choose [("auto", .auto), ("always", .always), ("never", .never)] value
    return { v with colour := some c }
  | .mode =>
    let m ← choose [("reference", .reference), ("corrected", .corrected)] value
    return { v with mode := some m }
  | .format =>
    let f ← choose [("text", .text), ("json", .json)] value
    return { v with format := some f }
  | .maxDepth =>
    match readWord? value.toList with
    | some n => return { v with maxDepth := some n }
    | none => throw .badNumber

/-! ### Reading arguments -/

/-- Where an argument stands: before the command, or after it. -/
inductive Level where
  | top
  | command (name : CommandName)
deriving DecidableEq, Repr

/-- Whether a setting can be given at a level. -/
def Level.allows : Level → Setting → Bool
  | _, .colour => true
  | .command .run, _ => true
  | _, _ => false

/-- What the arguments of one level have said so far. -/
structure Progress where
  values : Values := {}
  /-- Whether the input is the text itself. -/
  isSource : Bool := false
  input : Option String := none
  /-- The latest setting, with its value once that has been seen, as long as the value has not been
  looked at. -/
  pending : Option (Setting × Option String) := none
deriving DecidableEq, Repr

namespace Progress

/-- Whether the next argument is the value of a setting. -/
def awaitsValue (p : Progress) : Option Setting :=
  match p.pending with
  | some (setting, none) => some setting
  | _ => none

/-- Looks at the value of the latest setting. -/
def settle (p : Progress) : Except Usage Progress :=
  match p.pending with
  | none => .ok p
  | some (_, none) => .error .badChoice
  | some (setting, some value) =>
    (p.values.give setting value).map fun values => { p with values, pending := none }

/-- The flag that the input is the text itself. -/
def markSource (p : Progress) : Except Usage Progress := do
  let p ← p.settle
  if p.isSource then throw .repeated
  return { p with isSource := true }

/-- The input, which is given once. -/
def setInput (p : Progress) (arg : String) : Except Usage Progress :=
  if p.input.isSome then .error .unknownArgument
  else p.settle.map fun p => { p with input := some arg }

/-- Ends the reading with an answer, unless the latest setting is wrong. -/
def answer (p : Progress) (usage : Usage) : Except Usage Progress :=
  p.settle.bind fun _ => .error usage

/-- A setting, with the value in the same argument or none yet. -/
def give (p : Progress) (setting : Setting) (value : Option String) : Except Usage Progress := do
  let p ← p.settle
  match value with
  | some value => return { p with values := ← p.values.give setting value }
  | none => return { p with pending := some (setting, none) }

/-- An argument of two dashes and a word, with what stands after an equals sign. -/
def long (p : Progress) (level : Level) (name : String) (value : Option String) :
    Except Usage Progress :=
  match Setting.all.lookup name with
  | some setting => if level.allows setting then p.give setting value else .error .unknownArgument
  | none =>
    let known := name == "help" || (name == "source" && level != .top) ||
      (name == "version" && level == .top)
    if !known then .error .unknownArgument
    else if value.isSome then .error .valueOfFlag
    else if name == "help" then p.answer .help
    else if name == "source" then p.markSource
    else p.answer .version

/-- An argument of one dash and letters, each of which is a flag. -/
def short (p : Progress) (level : Level) : List Char → Except Usage Progress
  | [] => .ok p
  | c :: cs =>
    if c = 'h' then p.answer .help
    else if c = 'V' ∧ level = .top then p.answer .version
    else if c = 's' ∧ level ≠ .top then p.markSource.bind (short · level cs)
    else .error .unknownArgument

/-- An argument that starts with a dash and is not just dashes; `none` for any other. -/
def dashed? (p : Progress) (level : Level) (arg : String) : Option (Except Usage Progress) :=
  match arg.toList with
  | '-' :: '-' :: [] => none
  | '-' :: '-' :: cs =>
    let name := String.ofList (cs.takeWhile (· != '='))
    let value := match cs.dropWhile (· != '=') with
      | _ :: value => some (String.ofList value)
      | [] => none
    some (p.long level name value)
  | '-' :: c :: cs => some (p.short level (c :: cs))
  | _ => none

/-- Reads the arguments that follow two dashes after a command: only the input can be among them. -/
def readInputs (p : Progress) : List String → Except Usage Progress
  | [] => p.settle
  | arg :: args => (p.setInput arg).bind (readInputs · args)

/-- Reads the arguments after a command. -/
def readCommand (p : Progress) (name : CommandName) : List String → Except Usage Progress
  | [] => p.settle
  | arg :: args =>
    if arg = "--" then p.readInputs args
    else
      match p.dashed? (.command name) arg with
      | some result => result.bind (readCommand · name args)
      | none =>
        match p.awaitsValue with
        | some setting => readCommand { p with pending := some (setting, some arg) } name args
        | none => (p.setInput arg).bind (readCommand · name args)

/-- The command that the arguments at both levels describe. What is said after the command goes
before what is said in front of it. -/
def invocation (top command : Progress) (name : CommandName) : Except Usage Invocation :=
  match command.input with
  | none => .error .missingInput
  | some text =>
    let input := { text, isSource := command.isSource }
    let values := command.values
    .ok {
      colour := (values.colour.or top.values.colour).getD .auto
      command := match name with
        | .run =>
          .run input
            { mode := values.mode.getD .reference, maxDepth := values.maxDepth.getD 10000 }
            (values.format.getD .text)
        | .tokens => .tokens input
        | .ast => .ast input }

/-- The answer to a request for help on a command. There are no commands below commands. -/
def helpOn : List String → Usage
  | [] => .help
  | [topic] =>
    if topic = "help" ∨ (CommandName.all.lookup topic).isSome then .help else .unknownCommand
  | _ => .unknownCommand

/-- The end of the arguments, without a command. -/
def withoutCommand (p : Progress) : Except Usage Invocation := do
  let p ← p.settle
  throw (if p.values.colour.isSome then .missingCommand else .nothingAsked)

/-- The arguments that follow two dashes in front of any command, where no command can follow. -/
def misplaced (p : Progress) : List String → Except Usage Invocation
  | [] => p.withoutCommand
  | arg :: _ =>
    if arg = "help" ∨ (CommandName.all.lookup arg).isSome then .error .unknownArgument
    else .error .unknownCommand

/-- Reads the arguments from the first one on. -/
def readTop (p : Progress) : List String → Except Usage Invocation
  | [] => p.withoutCommand
  | arg :: args =>
    match p.awaitsValue, arg, CommandName.all.lookup arg with
    | none, "help", _ => .error (helpOn args)
    | none, _, some name => do
      let command ← readCommand {} name args
      if command.input.isNone then throw .missingInput
      let p ← p.settle
      invocation p command name
    | awaited, _, _ =>
      if arg = "--" then p.misplaced args
      else
        match p.dashed? .top arg with
        | some result => result.bind (readTop · args)
        | none =>
          match awaited with
          | some setting => readTop { p with pending := some (setting, some arg) } args
          | none => .error .unknownCommand

end Progress

/-- The command that the arguments ask for. -/
def parse (args : List String) : Except Usage Invocation :=
  Progress.readTop {} args

end CommandLine

end ViewLang

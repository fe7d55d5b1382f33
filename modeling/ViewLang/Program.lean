import ViewLang.Interpreter
import ViewLang.Node.Parser
import ViewLang.Token.Lexer

/-!
# Programs from text

A program is text until it has been read: into tokens, and the tokens into statements. Then it can
be run.
-/

namespace ViewLang

/-- Why a text is no program. -/
inductive ProgramError where
  | lex (error : LexError)
  | parse (error : ParseError)
deriving DecidableEq, Repr

/-- The error as a diagnostic. -/
def ProgramError.diagnostic : ProgramError → Diagnostic
  | lex error => error.diagnostic
  | parse error => error.diagnostic

/-- Reads a text as a program. -/
def readProgram (text : String) : Except ProgramError (List Node) :=
  match tokenize text with
  | .error e => .error (.lex e)
  | .ok tokens =>
    match parse tokens with
    | .error e => .error (.parse e)
    | .ok program => .ok program

/-- Reads a text as a program and runs it: the events that it brings about. -/
def run (config : Config) (text : String) : Except ProgramError (List Event) :=
  match readProgram text with
  | .error e => .error e
  | .ok program => .ok (Interpreter.interpret config {} program).events.toList

end ViewLang

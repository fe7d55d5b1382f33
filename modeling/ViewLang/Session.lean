import ViewLang.Program
import ViewLang.Source

/-!
# Sessions

A session reads and runs one source, and collects the diagnostics of what goes wrong. Each stage
works on the answer of the one before it. A stage that fails adds one diagnostic and gives no
answer, and then no later stage is tried.
-/

namespace ViewLang

/-- A source, and the diagnostics reported so far, in order. -/
structure Session where
  source : Source
  diagnostics : List Diagnostic := []
deriving DecidableEq, Repr

namespace Session

variable (s : Session)

/-- Adds a diagnostic. -/
def report (d : Diagnostic) : Session :=
  { s with diagnostics := s.diagnostics ++ [d] }

/-- Replaces the text of the source, which keeps its name. -/
def setText (text : String) : Session :=
  { s with source := .ofText s.source.name text }

/-- The answer of a stage, after an error has been reported. -/
def check {ε α : Type} (diagnostic : ε → Diagnostic) : Except ε α → Option α × Session
  | .ok a => (some a, s)
  | .error e => (none, s.report (diagnostic e))

/-- The tokens of the source. -/
def tokens : Option (List Token) × Session :=
  s.check LexError.diagnostic (tokenize s.source.text)

/-- The source as a program. -/
def program : Option (List Node) × Session :=
  match s.tokens with
  | (none, s) => (none, s)
  | (some tokens, s) => s.check ParseError.diagnostic (parse tokens)

/-- Runs the source, with its events going to the sink: the sink afterwards. -/
def evaluate {σ : Type} [Sink σ] (sink : σ) (config : Config) : Option σ × Session :=
  match s.program with
  | (none, s) => (none, s)
  | (some program, s) => (some (Interpreter.interpretInto config sink program).events, s)

end Session

end ViewLang

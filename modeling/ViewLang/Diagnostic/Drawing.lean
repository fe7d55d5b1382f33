import ViewLang.Diagnostic.Layout

/-!
# Drawn diagnostics

A diagnostic as text: a header, the place, the lines of the source with their numbers, the
underlines, and a blank line. Some parts have a style. On a terminal a style is switched on and off
by escape sequences; elsewhere it is left out.
-/

namespace ViewLang

/-- How a part of a drawn diagnostic stands out. -/
inductive Style where
  /-- Bold and red. -/
  | error
  /-- Bold. -/
  | emphasis
  /-- Dimmed and italic. -/
  | subtle
deriving DecidableEq, Repr

/-- A part of a drawn diagnostic: text, or a change of the style of the text after it. -/
inductive Stroke where
  | text (text : String)
  | style (style : Style)
  | plain
deriving DecidableEq, Repr

/-- The form of a drawn diagnostic. -/
structure Drawing where
  /-- The lines of source shown before and after the marked ones. -/
  context : Nat := 1
  /-- What separates line numbers from lines. -/
  gutter : String := "│"
  /-- What each column of an underline is drawn with. -/
  underline : String := "^"
  /-- What stands between an underline and its label. -/
  afterUnderline : String := " "
deriving DecidableEq, Repr

namespace Drawing

/-- A text repeated. -/
def repeated (n : Nat) (s : String) : String :=
  n.fold (fun _ _ out => out ++ s) ""

/-- The start of a row, with a line number or without. -/
def gutterStrokes (form : Drawing) (width : Nat) (number : Option Nat) : List Stroke :=
  let digits := number.elim "" toString
  [.style .subtle, .text (repeated (width - digits.length) " " ++ digits),
    .text (" " ++ form.gutter ++ " "), .plain]

/-- A line with its tabs drawn as blanks. -/
def expandTabs (cs : List Char) : List Char :=
  cs.flatMap fun c => if c = '\t' then tabText else [c]

/-- The style of an underline. -/
def underlineStyle : Snippet.Kind → Style
  | .primary => .error
  | .secondary => .emphasis

/-- The strokes of a row. -/
def rowStrokes (form : Drawing) (width : Nat) : Row → List Stroke
  | .source number text =>
    form.gutterStrokes width (some number) ++ [.text (String.ofList (expandTabs text) ++ "\n")]
  | .underline kind blanks marks label =>
    form.gutterStrokes width none ++
      [.style (underlineStyle kind), .text (repeated blanks " "),
        .text (repeated marks form.underline),
        .text (form.afterUnderline ++ label ++ "\n"), .plain]

/-- The strokes of the header. -/
def headerStrokes (message : Option String) : List Stroke :=
  [.style .error, .text "error:", .plain, .text (message.elim "" (" " ++ ·) ++ "\n")]

/-- The strokes of the line that names the place of the error. -/
def locationStrokes (name : String) (location : Nat × Nat) : List Stroke :=
  [.style .subtle,
    .text ("In " ++ name ++ ":" ++ toString location.1 ++ ":" ++ toString location.2 ++ "\n"),
    .plain]

/-- The strokes of a diagnostic. -/
def strokes (form : Drawing) (source : Source) (d : Diagnostic) : List Stroke :=
  let body := match d.layout source form.context with
    | none => []
    | some layout =>
      locationStrokes source.name layout.location ++
        layout.rows.flatMap (form.rowStrokes layout.numberWidth)
  headerStrokes d.message ++ body ++ [.text "\n"]

end Drawing

/-! ### Strokes as text -/

/-- The escape sequences that switch a style on, after switching off what was on before. -/
def Style.escapes : Style → String
  | error => "\x1b[0m\x1b[1m\x1b[31m"
  | emphasis => "\x1b[0m\x1b[1m"
  | subtle => "\x1b[0m\x1b[2m\x1b[3m"

/-- A stroke where styles are shown. -/
def Stroke.coloured : Stroke → String
  | text s => s
  | style s => s.escapes
  | plain => "\x1b[0m"

/-- A stroke where styles are left out. -/
def Stroke.uncoloured : Stroke → String
  | text s => s
  | style _ | plain => ""

/-- A diagnostic as text, with styles shown or left out. -/
def Diagnostic.draw (d : Diagnostic) (source : Source) (form : Drawing) (colour : Bool) : String :=
  (form.strokes source d).foldl
    (fun out stroke => out ++ if colour then stroke.coloured else stroke.uncoloured) ""

end ViewLang

import ViewLang.Diagnostic
import ViewLang.Source
import ViewLang.Text.Width

/-!
# Layout of diagnostics

Which lines of its source a diagnostic shows, and what stands under them. The lines shown are those
from the first to the last line on which a snippet starts, and some lines of context around them.
Under each line come the snippets that start on it, in order of their starts. A snippet that goes on
to later lines is underlined up to the end of its first line.
-/

namespace ViewLang

/-- A snippet with its place in the text: its start lies in the text and not after its end. -/
structure Mark where
  kind : Snippet.Kind
  label : String
  start : Nat
  stop : Nat
  /-- The line on which it starts, counted from zero. -/
  line : Nat
deriving DecidableEq, Repr

/-- The place of a snippet: a start beyond the text is moved to its end, an end before the start to
the start. -/
def Snippet.mark (snippet : Snippet) (source : Source) : Mark :=
  let start := min snippet.span.start source.size
  { kind := snippet.kind
    label := snippet.label
    start := start
    stop := max snippet.span.stop start
    line := (source.lineOfByte? start).getD 0 }

/-- Four spaces, as which a tab is drawn. -/
def tabText : List Char :=
  [' ', ' ', ' ', ' ']

/-- The number of columns that an underline reserves for a part of a line: its display width, and
the length of the drawn form for each tab. -/
def columns (cs : List Char) : Nat :=
  displayWidth cs + cs.count '\t' * tabText.length

/-- A row of a drawn diagnostic. -/
inductive Row where
  /-- A line of the source, with its number counted from one. -/
  | source (number : Nat) (text : List Char)
  /-- A label under the line before, after so many blanks and so many marks. -/
  | underline (kind : Snippet.Kind) (blanks marks : Nat) (label : String)
deriving DecidableEq, Repr

/-- The row that underlines a snippet. At least one mark is drawn. -/
def Mark.row (mark : Mark) (source : Source) : Row :=
  let lineStart := (source.lineStart? mark.line).getD 0
  let lineStop := lineStart + (source.line? mark.line).elim 0 String.utf8ByteSize
  let before := (source.slice? lineStart mark.start).getD []
  let under := (source.slice? mark.start (min mark.stop lineStop)).getD []
  .underline mark.kind (columns before) (max 1 (columns under)) mark.label

/-- The parts of a drawn diagnostic that depend on its snippets. -/
structure Layout where
  /-- The line and column named as the place of the error, counted from one. -/
  location : Nat × Nat
  /-- The number of digits of the greatest line number. -/
  numberWidth : Nat
  rows : List Row
deriving DecidableEq, Repr

/-- The number of decimal digits of a number. -/
def digitCount (n : Nat) : Nat :=
  (Nat.toDigits 10 n).length

namespace Diagnostic

/-- The places of the snippets, in order of their starts. Snippets that start together keep their
order. -/
def marks (d : Diagnostic) (source : Source) : List Mark :=
  (d.snippets.map (·.mark source)).mergeSort fun a b => a.start ≤ b.start

/-- The rows of the lines from `start` up to `stop`. -/
def rows (source : Source) (marks : List Mark) (start stop : Nat) : List Row :=
  (List.range' start (stop - start)).flatMap fun line =>
    .source (line + 1) ((source.line? line).elim [] String.toList) ::
      (marks.filter (·.line == line)).map (·.row source)

/-- The layout of a diagnostic with so many lines of context; `none` if it has no snippets. -/
def layout (d : Diagnostic) (source : Source) (context : Nat) : Option Layout :=
  match d.marks source with
  | [] => none
  | mark :: others =>
    let first := others.foldl (fun line m => min line m.line) mark.line
    let last := others.foldl (fun line m => max line m.line) mark.line
    let start := first - context
    let stop := min (last + 1 + context) source.lineCount
    some {
      location := (source.lineColumn? mark.start).getD (mark.line + 1, 1)
      numberWidth := digitCount stop
      rows := rows source (mark :: others) start stop }

end Diagnostic

end ViewLang

import Mathlib
import ViewLang.Diagnostic.Drawing
import ViewLang.Proofs.Window

/-!
# Diagnostics line by line

What a diagnostic looks like where styles are left out, as a list of lines. Every row of its layout
is a line that starts with a margin, and all margins of a diagnostic have one width. If no part of
the diagnostic breaks its line, the lines of the drawn text are the lines of the rows between the
header and an empty line.

The main result is `Diagnostic.linesOf_draw`.
-/

namespace ViewLang

/-! ### Rows as lines -/

namespace Drawing

variable (form : Drawing) (width : ℕ)

/-- The start of a line: some text filled up with blanks on its left, and the gutter. -/
def margin (text : List Char) : List Char :=
  text.leftpad width ' ' ++ ' ' :: form.gutter.toList ++ [' ']

/-- A row as a line without styles. -/
def rowLine : Row → List Char
  | .source number text => form.margin width (Nat.toDigits 10 number) ++ expandTabs text
  | .underline _ blanks marks label =>
    form.margin width [] ++ List.replicate blanks ' ' ++
      (List.replicate marks form.underline.toList).flatten ++ form.afterUnderline.toList ++
      label.toList

/-- The first line of a diagnostic. -/
def headerLine (message : Option String) : List Char :=
  ("error:" ++ message.elim "" (" " ++ ·)).toList

/-- The line that names the place of a diagnostic. -/
def locationLine (name : String) (place : ℕ × ℕ) : List Char :=
  ("In " ++ name ++ ":" ++ place.1.repr ++ ":" ++ place.2.repr).toList

/-- Margins that hold their texts have one width. -/
theorem length_margin {text : List Char} (h : text.length ≤ width) :
    (form.margin width text).length = width + form.gutter.toList.length + 2 := by
  simp only [margin, List.length_append, List.length_leftpad, List.length_cons, List.length_nil]
  omega

theorem toList_repeated (n : ℕ) (s : String) :
    (repeated n s).toList = (List.replicate n s.toList).flatten := by
  induction n with
  | zero => rfl
  | succ n ih =>
    rw [repeated, Nat.fold_succ, String.toList_append, ← repeated, ih, List.replicate_succ']
    simp

/-- The strokes without their styles. -/
def plainText (strokes : List Stroke) : List Char :=
  strokes.flatMap (·.uncoloured.toList)

@[simp] theorem plainText_nil : plainText [] = [] := rfl

@[simp] theorem plainText_cons (stroke : Stroke) (strokes : List Stroke) :
    plainText (stroke :: strokes) = stroke.uncoloured.toList ++ plainText strokes :=
  List.flatMap_cons

@[simp] theorem plainText_append (strokes more : List Stroke) :
    plainText (strokes ++ more) = plainText strokes ++ plainText more :=
  List.flatMap_append

@[simp] theorem plainText_gutterStrokes (number : Option ℕ) :
    plainText (form.gutterStrokes width number) =
      form.margin width (number.elim [] (Nat.toDigits 10 ·)) := by
  cases number <;> simp [gutterStrokes, Stroke.uncoloured, margin, toList_repeated, List.leftpad,
    Nat.toList_repr, ← String.length_toList]

theorem plainText_rowStrokes (row : Row) :
    plainText (form.rowStrokes width row) = form.rowLine width row ++ ['\n'] := by
  cases row <;> simp [rowStrokes, rowLine, Stroke.uncoloured, toList_repeated]

theorem plainText_flatMap_rowStrokes (rows : List Row) :
    plainText (rows.flatMap (form.rowStrokes width)) =
      (rows.map (form.rowLine width)).flatMap (· ++ ['\n']) := by
  rw [List.flatMap_map, ← funext (plainText_rowStrokes form width)]
  exact List.flatMap_assoc

theorem plainText_headerStrokes (message : Option String) :
    plainText (headerStrokes message) = headerLine message ++ ['\n'] := by
  cases message <;> simp [headerStrokes, headerLine, Stroke.uncoloured]

theorem plainText_locationStrokes (name : String) (place : ℕ × ℕ) :
    plainText (locationStrokes name place) = locationLine name place ++ ['\n'] := by
  simp [locationStrokes, locationLine, Stroke.uncoloured]

end Drawing

open Drawing

variable {d : Diagnostic} {source : Source} {form : Drawing}

theorem toList_draw_plain (d : Diagnostic) (source : Source) (form : Drawing) :
    (d.draw source form false).toList = plainText (form.strokes source d) := by
  have hfold : ∀ (strokes : List Stroke) (out : String),
      (strokes.foldl (fun out stroke => out ++ stroke.uncoloured) out).toList =
        out.toList ++ plainText strokes := by
    intro strokes
    induction strokes with
    | nil => simp
    | cons stroke strokes ih => simp [ih]
  simpa [Diagnostic.draw] using hfold (form.strokes source d) ""

theorem toList_draw_of_layout {layout : Layout} (h : d.layout source form.context = some layout) :
    (d.draw source form false).toList =
      (headerLine d.message :: locationLine source.name layout.location ::
        layout.rows.map (form.rowLine layout.numberWidth) ++ [[]]).flatMap (· ++ ['\n']) := by
  simp [toList_draw_plain, strokes, h, plainText_headerStrokes, plainText_locationStrokes,
    plainText_flatMap_rowStrokes, Stroke.uncoloured]

/-! ### Texts on one line -/

/-- No text that is drawn around the lines of the source breaks its line. -/
structure Diagnostic.OnLines (d : Diagnostic) (source : Source) (form : Drawing) : Prop where
  message : ∀ message ∈ d.message, '\n' ∉ message.toList
  name : '\n' ∉ source.name.toList
  label : ∀ snippet ∈ d.snippets, '\n' ∉ snippet.label.toList
  gutter : '\n' ∉ form.gutter.toList
  underline : '\n' ∉ form.underline.toList
  afterUnderline : '\n' ∉ form.afterUnderline.toList

theorem Drawing.lineFeed_notMem_expandTabs {cs : List Char} (h : '\n' ∉ cs) :
    '\n' ∉ expandTabs cs := by
  rw [expandTabs, List.mem_flatMap]
  rintro ⟨c, hc, hmem⟩
  split at hmem
  · exact absurd hmem (by decide)
  · exact h (List.mem_singleton.mp hmem ▸ hc)

namespace Diagnostic.OnLines

variable (h : d.OnLines source form)

include h

theorem lineFeed_notMem_headerLine : '\n' ∉ headerLine d.message := by
  cases hmessage : d.message with
  | none => simp [Drawing.headerLine]
  | some message => simpa [Drawing.headerLine] using h.message message hmessage

theorem lineFeed_notMem_locationLine (place : ℕ × ℕ) : '\n' ∉ locationLine source.name place := by
  simp [Drawing.locationLine, h.name, Nat.toList_repr, lineFeed_notMem_toDigits]

theorem lineFeed_notMem_margin (width : ℕ) {text : List Char} (htext : '\n' ∉ text) :
    '\n' ∉ form.margin width text := by
  simp [Drawing.margin, List.leftpad, h.gutter, htext]

theorem lineFeed_notMem_rowLine (width : ℕ) {line : ℕ} {row : Row}
    (hrow : row ∈ d.lineRows source line) : '\n' ∉ form.rowLine width row := by
  rcases List.mem_cons.mp hrow with rfl | hrow
  · have hnumber := h.lineFeed_notMem_margin width (lineFeed_notMem_toDigits (line + 1))
    have htext := lineFeed_notMem_expandTabs (source.lineFeed_notMem_getD_shownLines line)
    simpa [Drawing.rowLine] using ⟨hnumber, htext⟩
  · obtain ⟨snippet, hsnippet, rfl⟩ := List.mem_map.mp hrow
    have hmem := mem_inOrder.mp (List.mem_of_mem_filter hsnippet)
    have hmargin := h.lineFeed_notMem_margin width List.not_mem_nil
    simp [Drawing.rowLine, Mark.row, hmargin, h.underline, h.afterUnderline, h.label snippet hmem]

end Diagnostic.OnLines

/-! ### The drawn lines -/

/-- A greater number has no fewer digits. -/
theorem length_toDigits_le {m n : ℕ} (h : m ≤ n) :
    (Nat.toDigits 10 m).length ≤ (Nat.toDigits 10 n).length := by
  have hpos : 0 < (Nat.toDigits 10 n).length := List.length_pos_iff.mpr Nat.toDigits_ne_nil
  have hlt := (Nat.length_toDigits_le_iff (by decide) hpos).mp le_rfl
  exact (Nat.length_toDigits_le_iff (by decide) hpos).mpr (h.trans_lt hlt)

namespace Diagnostic

theorem linesOf_draw_of_layout (h : d.OnLines source form) {layout : Layout} {lines : List ℕ}
    (hlayout : d.layout source form.context = some layout)
    (hrows : layout.rows = lines.flatMap (d.lineRows source)) :
    linesOf (d.draw source form false) =
      headerLine d.message :: locationLine source.name layout.location ::
        layout.rows.map (form.rowLine layout.numberWidth) ++ [[], []] := by
  rw [linesOf, toList_draw_of_layout hlayout, splitOn_flatMap_lineFeed, List.append_assoc]
  · rfl
  · intro line hline
    rw [List.mem_append, List.mem_cons, List.mem_cons, List.mem_map, List.mem_singleton] at hline
    rcases hline with (rfl | rfl | ⟨row, hrow, rfl⟩) | rfl
    · exact h.lineFeed_notMem_headerLine
    · exact h.lineFeed_notMem_locationLine layout.location
    · rw [hrows] at hrow
      obtain ⟨number, -, hrow⟩ := List.mem_flatMap.mp hrow
      exact h.lineFeed_notMem_rowLine layout.numberWidth hrow
    · exact List.not_mem_nil

/-- An underline has at least one mark, and the kind and the label of its snippet. -/
theorem exists_row_mark_eq (source : Source) (snippet : Snippet) :
    ∃ blanks marks, 1 ≤ marks ∧
      (snippet.mark source).row source = .underline snippet.kind blanks marks snippet.label :=
  ⟨_, _, Nat.le_max_left 1 _, rfl⟩

end Diagnostic

end ViewLang

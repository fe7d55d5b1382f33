import Mathlib
import ViewLang.Proofs.DisplayWidth
import ViewLang.Proofs.Window

/-!
# Underlines

An underline is drawn below the line on which its snippet starts. Its blanks are counted on the part
of the line before the snippet and its marks on the part that the snippet covers, while the line
itself is drawn with its tabs as blanks. So the marks stand below the covered text if both counts
are display widths of the drawn parts. They are, except for tabs: `Diagnostic.strokes_of_fitsLine`
gives the counts for any snippet whose ends are cuts between characters, and each tab adds one
column too many.
-/

namespace ViewLang

/-! ### The row of an underline -/

/-- A snippet fits into the line `text` behind the characters `before`: it starts on what is shown
of the line, and neither its start nor its end falls inside a character, where an end behind the
line is moved to the end of the line. -/
structure Snippet.FitsLine (snippet : Snippet) (source : Source) (before text : List Char) :
    Prop where
  le_start : byteLength before ≤ (snippet.mark source).start
  start_le : (snippet.mark source).start ≤ byteLength (before ++ dropTrailing '\r' text)
  start_boundary : source.IsBoundary (snippet.mark source).start
  stop_boundary : source.IsBoundary
    (min (snippet.mark source).stop (byteLength (before ++ dropTrailing '\r' text)))

section Row

variable {source : Source} {before text after : List Char}

theorem utf8ByteSize_ofList (cs : List Char) : (String.ofList cs).utf8ByteSize = byteLength cs := by
  induction cs with
  | nil => rfl
  | cons c cs ih =>
    rw [String.ofList_cons, String.utf8ByteSize_append, ih, String.utf8ByteSize_singleton,
      byteLength_cons]

theorem Source.LineBetween.elim_line? (hline : source.LineBetween before text after) :
    (source.line? (before.count '\n')).elim 0 String.utf8ByteSize =
      byteLength (dropTrailing '\r' text) := by
  rw [Source.line?_eq, Source.shownLines, List.getElem?_map, hline.getElem?_linesOf]
  simp [utf8ByteSize_ofList]

theorem Mark.row_eq (hline : source.LineBetween before text after) {mark : Mark}
    (hmark : mark.line = before.count '\n') {left under right : List Char}
    (hshown : dropTrailing '\r' text = left ++ under ++ right)
    (hstart : byteLength (before ++ left) = mark.start)
    (hstop : byteLength (before ++ left ++ under) =
      min mark.stop (byteLength (before ++ dropTrailing '\r' text))) :
    mark.row source = .underline mark.kind (columns left) (max 1 (columns under)) mark.label := by
  obtain ⟨rest, hrest⟩ := hline.exists_shown_append
  have hchars : source.chars = before ++ left ++ under ++ (right ++ rest) := by
    rw [hrest, hshown]
    simp
  have hleft := Source.slice?_of_append (hchars.trans (List.append_assoc _ _ _))
  have hunder := Source.slice?_of_append hchars
  simp only [Mark.row, hmark, hline.lineStart?_eq, Option.getD_some, hline.elim_line?,
    ← byteLength_append, ← hstop, ← hstart, hleft, hunder]

/-- A line into which a snippet fits is the one on which it is marked. -/
theorem Snippet.FitsLine.line_mark {snippet : Snippet}
    (hline : source.LineBetween before text after) (hfits : snippet.FitsLine source before text) :
    (snippet.mark source).line = before.count '\n' := by
  obtain ⟨dropped, hdropped⟩ := dropTrailing_isPrefix '\r' text
  have hlength := congrArg byteLength hdropped
  have hend := hfits.start_le
  rw [byteLength_append] at hlength hend
  have hfound := hline.lineOfByte?_eq hfits.le_start (by omega)
  exact Option.some.inj ((snippet.lineOfByte?_mark source).symm.trans hfound)

/-- A snippet that fits into a line cuts what is shown of it in three. -/
theorem Snippet.FitsLine.exists_cuts {snippet : Snippet}
    (hline : source.LineBetween before text after) (hfits : snippet.FitsLine source before text) :
    ∃ left under right, dropTrailing '\r' text = left ++ under ++ right ∧
      byteLength (before ++ left) = (snippet.mark source).start ∧
      byteLength (before ++ left ++ under) =
        min (snippet.mark source).stop (byteLength (before ++ dropTrailing '\r' text)) := by
  obtain ⟨behind, hchars⟩ := hline.exists_shown_append
  obtain ⟨left, rest, hshown, hstart⟩ :=
    hfits.start_boundary.exists_append hchars hfits.le_start hfits.start_le
  have hrest : source.chars = before ++ left ++ rest ++ behind := by
    rw [hchars, hshown, ← List.append_assoc before]
  have hle : byteLength (before ++ left) ≤
      min (snippet.mark source).stop (byteLength (before ++ dropTrailing '\r' text)) := by
    rw [hstart]
    exact le_min (Nat.le_max_right _ _) hfits.start_le
  obtain ⟨under, right, hunder, hstop⟩ := hfits.stop_boundary.exists_append hrest hle <| by
    rw [hshown, ← List.append_assoc]
    exact Nat.min_le_right _ _
  exact ⟨left, under, right, by rw [hshown, hunder, List.append_assoc], hstart, hstop⟩

end Row

/-! ### Drawn underlines -/

namespace Diagnostic

open Drawing

variable {d : Diagnostic} {source : Source} {snippet : Snippet} {before text after : List Char}

/-- **What an underline stands below.** Between the row of the line on which a snippet starts and
the row of its underline there are only other underlines, and both rows have gutters of one width.
The drawn line falls into the parts before, below and behind the snippet. Behind the gutter come as
many blanks as the part before the snippet has columns, and one more for each tab in it; then as
many marks as the covered part has columns, and one more for each tab in it, but at least one mark.
So the marks stand below what they mark as long as there is no tab. -/
theorem strokes_of_fitsLine (form : Drawing) (hsnippet : snippet ∈ d.snippets)
    (hline : source.LineBetween before text after) (hfits : snippet.FitsLine source before text) :
    ∃ (left under right : List Char) (blanks marks width : ℕ) (front back : List Stroke)
        (others : List Snippet),
      dropTrailing '\r' text = left ++ under ++ right ∧
      byteLength (before ++ left) = (snippet.mark source).start ∧
      byteLength (before ++ left ++ under) =
        min (snippet.mark source).stop (byteLength (before ++ dropTrailing '\r' text)) ∧
      form.strokes source d =
        front ++ form.gutterStrokes width (some (before.count '\n' + 1)) ++
          [Stroke.text (String.ofList
            (expandTabs left ++ expandTabs under ++ expandTabs right) ++ "\n")] ++
          others.flatMap (fun other => form.rowStrokes width ((other.mark source).row source)) ++
          form.gutterStrokes width none ++
          [Stroke.style (underlineStyle snippet.kind), .text (repeated blanks " "),
            .text (repeated marks form.underline),
            .text (form.afterUnderline ++ snippet.label ++ "\n"), .plain] ++ back ∧
      blanks = displayWidth (expandTabs left) + left.count '\t' ∧
      marks = max 1 (displayWidth (expandTabs under) + under.count '\t') ∧
      (blanks = displayWidth (expandTabs left) ↔ '\t' ∉ left) ∧
      (marks = max 1 (displayWidth (expandTabs under)) ↔ '\t' ∉ under) := by
  obtain ⟨left, under, right, hshown, hstart, hstop⟩ := hfits.exists_cuts hline
  obtain ⟨layout, front, others, back, hlayout, hrows⟩ :=
    exists_rows_append source form.context hsnippet
  have hmark := hfits.line_mark hline
  rw [hmark, hline.getD_shownLines, hshown, Mark.row_eq hline hmark hshown hstart hstop] at hrows
  refine ⟨left, under, right, columns left, max 1 (columns under), layout.numberWidth,
    headerStrokes d.message ++ locationStrokes source.name layout.location ++
      front.flatMap (form.rowStrokes layout.numberWidth),
    back.flatMap (form.rowStrokes layout.numberWidth) ++ [.text "\n"], others, hshown, hstart,
    hstop, ?_, columns_eq left, by rw [columns_eq], columns_eq_displayWidth_iff left,
    max_one_columns_eq_iff under⟩
  simp [strokes, hlayout, hrows, rowStrokes, List.flatMap_map]

/-- Behind a tab, which is drawn as four blanks, an underline is drawn behind five. -/
theorem strokes_of_fitsLine_behind_tab :
    let source := Source.ofText "main.m" "\tx"
    let snippet : Snippet := ⟨.primary, "here", ⟨1, 2⟩⟩
    snippet.FitsLine source [] ['\t', 'x'] ∧
      ∃ (width : ℕ) (front back : List Stroke) (others : List Snippet),
        ({} : Drawing).strokes source ⟨some "m", [snippet]⟩ =
          front ++ gutterStrokes {} width (some 1) ++ [Stroke.text "    x\n"] ++
            others.flatMap (fun other => rowStrokes {} width ((other.mark source).row source)) ++
            gutterStrokes {} width none ++
            [Stroke.style .error, .text (repeated 5 " "), .text (repeated 1 "^"),
              .text " here\n", .plain] ++ back := by
  intro source snippet
  have hline : source.LineBetween [] ['\t', 'x'] [] := ⟨by decide, by decide, .inl rfl, .inl rfl⟩
  have hfits : snippet.FitsLine source [] ['\t', 'x'] :=
    ⟨by decide, by decide, ⟨['\t'], ['x'], by decide⟩, ⟨['\t', 'x'], [], by decide⟩⟩
  refine ⟨hfits, ?_⟩
  obtain ⟨left, under, right, blanks, marks, width, front, back, others, hshown, hstart, hstop,
    hstrokes, rfl, rfl, -, -⟩ := strokes_of_fitsLine {} (d := ⟨some "m", [snippet]⟩)
      List.mem_cons_self hline hfits
  have hleft : byteLength left = 1 := hstart.trans (by decide)
  have hunder : byteLength (left ++ under) = 2 := hstop.trans (by decide)
  rw [byteLength_append, hleft] at hunder
  have hline : dropTrailing '\r' ['\t', 'x'] = ['\t'] ++ ['x'] := rfl
  rw [hline, List.append_assoc] at hshown
  obtain ⟨rfl, hrest⟩ := append_inj_of_byteLength_eq hshown hleft.symm
  obtain ⟨rfl, rfl⟩ := append_inj_of_byteLength_eq ((List.append_nil _).trans hrest)
    (Nat.add_left_cancel hunder).symm
  exact ⟨width, front, back, others, hstrokes⟩

end Diagnostic

end ViewLang

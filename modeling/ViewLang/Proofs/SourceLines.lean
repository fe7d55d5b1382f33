import ViewLang.Proofs.LineIndex
import ViewLang.Proofs.TextLines

/-!
# The lines of a source

A line of a source is a part of its text without a line feed that stands between line feeds or the
ends of the text. `Source.LineBetween` says so without the index, and the index is measured against
it: for the line with so many line feeds before it, it gives the byte at which the line starts
(`LineBetween.lineStart?_eq`), the same line for all bytes of it and for the line feed that ends it
(`LineBetween.lineOfByte?_eq`), and the characters that are shown (`Source.line?_eq`).

Every byte up to the end of the text belongs to exactly one line (`Source.lineHolds_iff`), also a
byte inside a character.
-/

namespace ViewLang

theorem dropTrailing_isPrefix (c : Char) (cs : List Char) : dropTrailing c cs <+: cs := by
  rw [dropTrailing]
  split
  · exact cs.dropLast_prefix
  · exact cs.prefix_rfl

namespace Source

/-- The characters `line` are a line of the source, and stand between the characters `before` and
`after`. -/
structure LineBetween (s : Source) (before line after : List Char) : Prop where
  chars_eq : s.chars = before ++ line ++ after
  no_lineFeed : '\n' ∉ line
  starts : before = [] ∨ ∃ front, before = front ++ ['\n']
  ends : after = [] ∨ ∃ rest, after = '\n' :: rest

/-- The byte belongs to the line with the given number, counted from zero. The line feed that ends a
line belongs to it, and the end of the text to the last line. -/
def LineHolds (s : Source) (line byte : ℕ) : Prop :=
  ∃ before text after, s.LineBetween before text after ∧ before.count '\n' = line ∧
    byteLength before ≤ byte ∧ byte ≤ byteLength before + byteLength text

/-- The lines of the source as they are shown. -/
def shownLines (s : Source) : List (List Char) :=
  (linesOf s.text).map (dropTrailing '\r')

namespace LineBetween

variable {s : Source} {before line after : List Char} {byte : ℕ}

theorem fullLines_eq (h : s.LineBetween before line after) : fullLines before = before := by
  rcases h.starts with rfl | ⟨front, rfl⟩
  · rfl
  · rw [fullLines, List.rdropWhile_concat_neg]
    simp

theorem lineStart?_eq (h : s.LineBetween before line after) :
    s.lineStart? (before.count '\n') = some (byteLength before) := by
  have hchars : s.chars = before ++ (line ++ after) := by rw [h.chars_eq, List.append_assoc]
  rw [lineStart?_of_append hchars, h.fullLines_eq]

/-- The line feeds behind the start of a line stand at its end or later. -/
theorem byteLength_le_of_mem_lineFeeds (h : s.LineBetween before line after) {n : ℕ}
    (hn : n ∈ (lineFeeds (line ++ after)).toList) : byteLength line ≤ n := by
  have hline : (lineFeeds line).toList = [] := by
    rw [← List.length_eq_zero_iff, length_toList_lineFeeds]
    exact List.count_eq_zero.mpr h.no_lineFeed
  rw [toList_lineFeeds_append, hline, List.nil_append] at hn
  obtain ⟨m, -, rfl⟩ := List.mem_map.mp hn
  exact Nat.le_add_right _ _

theorem lineOfByte?_eq (h : s.LineBetween before line after) (hle : byteLength before ≤ byte)
    (hend : byte ≤ byteLength before + byteLength line) :
    s.lineOfByte? byte = some (before.count '\n') := by
  have hchars : s.chars = before ++ (line ++ after) := by rw [h.chars_eq, List.append_assoc]
  refine lineOfByte?_of_append_of_le hchars ?_ hle fun n hn => ?_
  · rw [size, hchars, byteLength_append, byteLength_append]
    omega
  · have := h.byteLength_le_of_mem_lineFeeds hn
    omega

theorem count_lineFeed_eq_zero (h : s.LineBetween before line after) : line.count '\n' = 0 :=
  List.count_eq_zero.mpr h.no_lineFeed

theorem count_next (h : s.LineBetween before line after) :
    (before ++ line ++ ['\n']).count '\n' = before.count '\n' + 1 := by
  rw [List.count_append, List.count_append, h.count_lineFeed_eq_zero, List.count_singleton_self,
    Nat.add_zero]

end LineBetween

/-! ### Finding a line -/

section Existence

variable {s : Source} {before rest : List Char} {byte i : ℕ}

/-- Where a line starts, it goes up to the next line feed. -/
theorem lineBetween_takeWhile (hchars : s.chars = before ++ rest)
    (hstarts : before = [] ∨ ∃ front, before = front ++ ['\n']) :
    s.LineBetween before (rest.takeWhile (· != '\n')) (rest.dropWhile (· != '\n')) where
  chars_eq := by rw [List.append_assoc, List.takeWhile_append_dropWhile, hchars]
  no_lineFeed hmem := by simpa using List.mem_takeWhile_imp hmem
  starts := hstarts
  ends := by
    cases hafter : rest.dropWhile (· != '\n') with
    | nil => exact .inl rfl
    | cons c after =>
      have hc := List.head?_dropWhile_not (· != '\n') rest
      rw [hafter] at hc
      obtain rfl : c = '\n' := by simpa using hc
      exact .inr ⟨after, rfl⟩

theorem lineCount_eq (s : Source) : s.lineCount = s.chars.count '\n' + 1 := by
  rw [lineCount, s.lineBreaks_eq, ← Array.length_toList, length_toList_lineFeeds, chars,
    Nat.add_comm]

theorem exists_lineBetween_of_lt (h : i < s.lineCount) :
    ∃ before line after, s.LineBetween before line after ∧ before.count '\n' = i := by
  induction i with
  | zero => exact ⟨[], _, _, lineBetween_takeWhile (List.nil_append _).symm (.inl rfl), rfl⟩
  | succ i ih =>
    obtain ⟨before, line, after, hline, rfl⟩ := ih (by omega)
    have hchars := hline.chars_eq
    rcases hline.ends with rfl | ⟨rest, rfl⟩
    · -- The last line has all line feeds before it.
      have hcount := congrArg (List.count '\n') hchars
      rw [lineCount_eq, hcount, List.append_nil, List.count_append,
        hline.count_lineFeed_eq_zero] at h
      omega
    · rw [List.append_cons] at hchars
      exact ⟨_, _, _, lineBetween_takeWhile hchars (.inr ⟨_, rfl⟩), hline.count_next⟩

/-- The character that has a byte, and what stands before it. -/
private theorem exists_append_before_byte {cs : List Char} (h : byte ≤ byteLength cs) :
    ∃ front back, cs = front ++ back ∧ byteLength front ≤ byte ∧
      ∀ c ∈ back.head?, byte < byteLength front + c.utf8Size := by
  induction cs generalizing byte with
  | nil => exact ⟨[], [], rfl, Nat.zero_le _, by simp⟩
  | cons c cs ih =>
    rw [byteLength_cons] at h
    by_cases hc : byte < c.utf8Size
    · exact ⟨[], c :: cs, rfl, Nat.zero_le _, by simpa using hc⟩
    · obtain ⟨front, back, rfl, hfront, hback⟩ := @ih (byte - c.utf8Size) (by omega)
      refine ⟨c :: front, back, rfl, by rw [byteLength_cons]; omega, fun d hd => ?_⟩
      have := hback d hd
      rw [byteLength_cons]
      omega

theorem exists_lineHolds (h : byte ≤ s.size) : ∃ line, s.LineHolds line byte := by
  obtain ⟨front, back, hchars, hfront, hback⟩ := exists_append_before_byte h
  have hlast : ∀ c ∈ lastLine front, (c != '\n') = true :=
    fun c hc => List.mem_rtakeWhile_imp (p := (· != '\n')) hc
  have hsplit : s.chars = fullLines front ++ (lastLine front ++ back) := by
    rw [hchars, ← List.append_assoc, fullLines_append_lastLine]
  have hlength := congrArg byteLength (fullLines_append_lastLine front)
  have hline := lineBetween_takeWhile hsplit (fullLines_eq_nil_or_concat front)
  rw [List.takeWhile_append_of_pos hlast] at hline
  refine ⟨_, _, _, _, hline, rfl, ?_, ?_⟩
  · rw [byteLength_append] at hlength
    omega
  · rw [byteLength_append] at hlength ⊢
    cases back with
    | nil =>
      rw [size, hchars, List.append_nil] at h
      omega
    | cons c rest =>
      have hbyte := hback c rfl
      by_cases hc : c = '\n'
      · subst hc
        have hsize : '\n'.utf8Size = 1 := rfl
        omega
      · rw [List.takeWhile_cons_of_pos (by simpa using hc), byteLength_cons]
        omega

/-- Every byte of the text belongs to one line, which is the one that the index gives. -/
theorem lineHolds_iff {line : ℕ} (h : byte ≤ s.size) :
    s.LineHolds line byte ↔ s.lineOfByte? byte = some line := by
  have himp : ∀ {line}, s.LineHolds line byte → s.lineOfByte? byte = some line := by
    rintro _ ⟨before, text, after, hline, rfl, hle, hend⟩
    exact hline.lineOfByte?_eq hle hend
  refine ⟨himp, fun hfound => ?_⟩
  obtain ⟨other, hother⟩ := exists_lineHolds h
  rw [himp hother] at hfound
  obtain rfl := Option.some.inj hfound
  exact hother

theorem lineOfByte?_mono {other line next : ℕ} (hle : byte ≤ other)
    (hline : s.lineOfByte? byte = some line) (hnext : s.lineOfByte? other = some next) :
    line ≤ next := by
  have hsize : other ≤ s.size := by
    by_contra hlt
    rw [lineOfByte?, if_neg hlt] at hnext
    cases hnext
  rw [lineOfByte?_eq_countP (hle.trans hsize)] at hline
  rw [lineOfByte?_eq_countP hsize] at hnext
  obtain rfl := Option.some.inj hline
  obtain rfl := Option.some.inj hnext
  exact List.countP_mono_left fun n _ hn => by simp at hn ⊢; omega

end Existence

/-! ### Cuts between characters -/

section Cuts

variable {s : Source} {before left shown right after rest : List Char} {byte : ℕ}

/-- The byte does not fall inside a character. -/
def IsBoundary (s : Source) (byte : ℕ) : Prop :=
  ∃ before after, s.chars = before ++ after ∧ byteLength before = byte

theorem slice?_of_append (h : s.chars = left ++ shown ++ right) :
    s.slice? (byteLength left) (byteLength (left ++ shown)) = some shown := by
  rw [slice?, sliceBytes?_eq_some_iff]
  exact ⟨left, right, h, rfl, by rw [byteLength_append]⟩

/-- A cut between characters that falls on a part of the text cuts that part. -/
theorem IsBoundary.exists_append (h : s.IsBoundary byte)
    (hchars : s.chars = before ++ shown ++ rest) (hle : byteLength before ≤ byte)
    (hend : byte ≤ byteLength (before ++ shown)) :
    ∃ left right, shown = left ++ right ∧ byteLength (before ++ left) = byte := by
  obtain ⟨front, back, hcut, rfl⟩ := h
  rw [hchars] at hcut
  obtain ⟨right, hright, -⟩ := exists_append_of_byteLength_le hcut.symm hend
  obtain ⟨left, rfl, -⟩ := exists_append_of_byteLength_le hright hle
  rw [List.append_assoc] at hright
  exact ⟨left, right, List.append_cancel_left hright, rfl⟩

theorem isBoundary_of_lineColumn? {place : ℕ × ℕ} (h : s.lineColumn? byte = some place) :
    s.IsBoundary byte := by
  simp only [lineColumn?, Option.bind_eq_bind, Option.bind_eq_some_iff] at h
  obtain ⟨line, -, start, -, shown, hslice, -⟩ := h
  obtain ⟨front, rest, hchars, rfl, rfl⟩ := sliceBytes?_eq_some_iff.mp hslice
  exact ⟨front ++ shown, rest, hchars, byteLength_append _ _⟩

/-- The line and the column of a byte, counted from one. A byte that begins a character stands in
the column behind the characters before it on its line; any other byte is said to stand in the first
column. -/
inductive PlaceOf (s : Source) (byte : ℕ) : ℕ × ℕ → Prop where
  | boundary {before left right after : List Char}
    (line : s.LineBetween before (left ++ right) after)
    (start : byteLength (before ++ left) = byte) :
    PlaceOf s byte (before.count '\n' + 1, left.length + 1)
  | inside {line : ℕ} (inside : ¬s.IsBoundary byte) (holds : s.LineHolds line byte) :
    PlaceOf s byte (line + 1, 1)

theorem LineBetween.lineColumn?_eq (h : s.LineBetween before (left ++ right) after) :
    s.lineColumn? (byteLength (before ++ left)) =
      some (before.count '\n' + 1, left.length + 1) := by
  have hchars : s.chars = before ++ left ++ (right ++ after) := by rw [h.chars_eq]; simp
  have hline : s.lineOfByte? (byteLength (before ++ left)) = some (before.count '\n') := by
    refine h.lineOfByte?_eq ?_ ?_ <;> simp only [byteLength_append] <;> omega
  simp only [lineColumn?, hline, h.lineStart?_eq, slice?_of_append hchars, Option.bind_eq_bind,
    Option.bind_some, Option.pure_def]

theorem placeOf_lineColumn? {line : ℕ} (h : s.LineHolds line byte) :
    s.PlaceOf byte ((s.lineColumn? byte).getD (line + 1, 1)) := by
  by_cases hcut : s.IsBoundary byte
  · obtain ⟨before, text, after, hline, -, hle, hend⟩ := h
    obtain ⟨left, right, rfl, rfl⟩ :=
      hcut.exists_append hline.chars_eq hle (by rwa [byteLength_append])
    rw [hline.lineColumn?_eq, Option.getD_some]
    exact .boundary hline rfl
  · have hnone : s.lineColumn? byte = none := Option.eq_none_iff_forall_ne_some.mpr
      fun _ hplace => hcut (isBoundary_of_lineColumn? hplace)
    rw [hnone, Option.getD_none]
    exact .inside hcut h

end Cuts

/-! ### What a line shows -/

section Shown

variable {s : Source} {before line after : List Char}

theorem LineBetween.getElem?_linesOf (h : s.LineBetween before line after) :
    (linesOf s.text)[before.count '\n']? = some line := by
  have hfirst : ((line ++ after).splitOn '\n')[0]? = some line := by
    rcases h.ends with rfl | ⟨rest, rfl⟩
    · rw [List.append_nil, List.splitOn_eq_singleton h.no_lineFeed]
      rfl
    · rw [List.splitOn_append_cons_self, List.splitOn_eq_singleton h.no_lineFeed]
      rfl
  have hchars : s.text.toList = before ++ (line ++ after) := by
    rw [← List.append_assoc, ← h.chars_eq, chars]
  rcases h.starts with rfl | ⟨front, rfl⟩
  · rw [linesOf, hchars]
    exact hfirst
  · have hlength : (front.splitOn '\n').length = (front ++ ['\n']).count '\n' := by
      rw [List.count_append, List.count_singleton_self, length_splitOn_lineFeed]
    rw [linesOf, hchars, List.append_assoc, List.singleton_append, List.splitOn_append_cons_self,
      ← hlength, List.getElem?_append_right le_rfl, Nat.sub_self]
    exact hfirst

theorem LineBetween.getD_shownLines (h : s.LineBetween before line after) :
    s.shownLines.getD (before.count '\n') [] = dropTrailing '\r' line := by
  rw [List.getD_eq_getElem?_getD, shownLines, List.getElem?_map, h.getElem?_linesOf]
  rfl

/-- What is shown of a line stands behind what is before the line. -/
theorem LineBetween.exists_shown_append (h : s.LineBetween before line after) :
    ∃ rest, s.chars = before ++ dropTrailing '\r' line ++ rest := by
  obtain ⟨dropped, hdropped⟩ := dropTrailing_isPrefix '\r' line
  refine ⟨dropped ++ after, ?_⟩
  rw [h.chars_eq]
  nth_rewrite 1 [← hdropped]
  simp

theorem length_shownLines (s : Source) : s.shownLines.length = s.lineCount := by
  rw [shownLines, List.length_map, length_linesOf, lineCount_eq, lineFeedCount, chars]

theorem lineFeed_notMem_getD_shownLines (s : Source) (i : ℕ) : '\n' ∉ s.shownLines.getD i [] := by
  by_cases hi : i < s.lineCount
  · obtain ⟨before, line, after, hline, rfl⟩ := exists_lineBetween_of_lt hi
    rw [hline.getD_shownLines]
    exact fun hmem => hline.no_lineFeed ((dropTrailing_isPrefix '\r' line).mem hmem)
  · rw [List.getD_eq_default _ _ (by rw [length_shownLines]; omega)]
    exact List.not_mem_nil

theorem lineStart?_eq_none {i : ℕ} (h : s.lineCount ≤ i) : s.lineStart? i = none := by
  rw [lineCount] at h
  rw [lineStart?, if_neg (by omega), Array.getElem?_eq_none (by omega)]
  rfl

/-- What the index cuts out for a line is the line, and the line feed that ends it. -/
theorem LineBetween.slice?_eq (h : s.LineBetween before line after) :
    s.slice? (byteLength before) ((s.lineStart? (before.count '\n' + 1)).getD s.size) =
      some (line ++ after.take 1) := by
  have hchars := h.chars_eq
  rw [slice?, sliceBytes?_eq_some_iff]
  rcases h.ends with rfl | ⟨rest, rfl⟩
  · have hlast : s.lineCount ≤ before.count '\n' + 1 := by
      rw [lineCount_eq, hchars, List.append_nil, List.count_append, h.count_lineFeed_eq_zero,
        Nat.add_zero]
    refine ⟨before, [], by simpa using hchars, rfl, ?_⟩
    rw [lineStart?_eq_none hlast, Option.getD_none, size, hchars]
    simp
  · have hnext : s.chars = before ++ line ++ ['\n'] ++ rest := by rw [hchars, List.append_cons]
    refine ⟨before, rest, by simpa using hchars, rfl, ?_⟩
    rw [← h.count_next, (lineBetween_takeWhile hnext (.inr ⟨_, rfl⟩)).lineStart?_eq]
    simp

theorem LineBetween.shownLine_eq (h : s.LineBetween before line after) :
    shownLine (line ++ after.take 1) = dropTrailing '\r' line := by
  have hline : dropTrailing '\n' (line ++ after.take 1) = line := by
    rcases h.ends with rfl | ⟨rest, rfl⟩
    · have hlast : ¬line.getLast? = some '\n' := fun hlast =>
        h.no_lineFeed (List.mem_of_getLast? hlast)
      rw [List.take_nil, List.append_nil, dropTrailing, if_neg hlast]
    · rw [List.take_succ_cons, List.take_zero, dropTrailing, List.getLast?_concat, if_pos rfl,
        List.dropLast_concat]
  rw [shownLine, hline]

/-- **What a line shows.** For the numbers of lines, and for these only, the index has a line, which
is what stands between the line feeds except for a carriage return at the end. -/
theorem line?_eq (s : Source) (i : ℕ) : s.line? i = s.shownLines[i]?.map String.ofList := by
  by_cases hi : i < s.lineCount
  · obtain ⟨before, line, after, hline, rfl⟩ := exists_lineBetween_of_lt hi
    rw [shownLines, List.getElem?_map, hline.getElem?_linesOf, line?, hline.lineStart?_eq]
    simp [hline.slice?_eq, hline.shownLine_eq]
  · have hnone : s.shownLines[i]? = none := by
      rw [List.getElem?_eq_none_iff, length_shownLines]
      omega
    rw [hnone, line?, lineStart?_eq_none (by omega)]
    rfl

end Shown

end Source

end ViewLang

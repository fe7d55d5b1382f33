import Mathlib.Data.Prod.Lex
import ViewLang.Proofs.SourceLines

/-!
# Lines as pieces of a text

The index of a source answers two sorts of questions, and each answer can be checked against the
text alone.

* **Places.** A byte has a place exactly when it falls between two characters, and its place is
  counted from the characters before it (`placeBehind`). Every further character moves the place on,
  to the next column or to the next line (`placeBehind_lt_concat`), so places are in the order of
  their bytes and no two bytes share one.
* **Pieces.** The piece of a line goes from the start of the line to the start of the next one, or
  to the end of the text. The pieces before a line make up the text before it
  (`LineBetween.flatMap_piece`), so all of them make up the text.

The main result `Source.places_and_pieces` states both for all bytes and all lines of a source.
-/

namespace ViewLang

/-! ### Places in order -/

section Places

variable {before more : List Char}

/-- The line and the column, counted from one, of a byte that stands behind these characters. -/
def placeBehind (before : List Char) : ℕ × ℕ :=
  (1 + before.count '\n', 1 + (lastLine before).length)

/-- One more character moves the place on. -/
theorem placeBehind_lt_concat (before : List Char) (c : Char) :
    toLex (placeBehind before) < toLex (placeBehind (before ++ [c])) := by
  rw [Prod.Lex.toLex_lt_toLex]
  by_cases hc : c = '\n'
  · left
    simp [placeBehind, hc]
  · right
    have hlast : lastLine (before ++ [c]) = lastLine before ++ [c] :=
      List.rtakeWhile_concat_pos _ _ c (by simpa using hc)
    have hcount : (before ++ [c]).count '\n' = before.count '\n' := by
      rw [List.count_append, List.count_singleton, if_neg (by simpa using hc), Nat.add_zero]
    simp [placeBehind, hlast, hcount]

theorem placeBehind_lt_append (hmore : more ≠ []) :
    toLex (placeBehind before) < toLex (placeBehind (before ++ more)) := by
  induction more generalizing before with
  | nil => exact absurd rfl hmore
  | cons c more ih =>
    have hstep := placeBehind_lt_concat before c
    rw [List.append_cons]
    cases more with
    | nil => simpa using hstep
    | cons d more => exact hstep.trans (ih (List.cons_ne_nil d more))

end Places

/-- Without a final `c`, if there is one. -/
theorem dropTrailing_eq (c : Char) (cs : List Char) :
    dropTrailing c cs = (cs.dropSuffix? [c]).getD cs := by
  rw [dropTrailing]
  split
  · next h =>
    have hconcat : cs = cs.dropLast ++ [c] := (List.dropLast_append_getLast? c h).symm
    have hdrop : cs.dropSuffix? [c] = some cs.dropLast :=
      List.dropSuffix?_eq_some_iff.mpr ⟨[c], hconcat, beq_self_eq_true _⟩
    rw [hdrop, Option.getD_some]
  · next h =>
    have hkeep : cs.dropSuffix? [c] = none := Option.eq_none_iff_forall_ne_some.mpr
      fun front hfront => by
        obtain ⟨last, rfl, hlast⟩ := List.dropSuffix?_eq_some_iff.mp hfront
        rw [eq_of_beq hlast, List.getLast?_concat] at h
        exact h rfl
    rw [hkeep, Option.getD_none]

namespace Source

variable {s : Source}

section Order

variable {byte other : ℕ} {place next : ℕ × ℕ}

/-- A byte has a place if it falls between two characters, and what is before it tells which. -/
theorem lineColumn?_eq_some_iff :
    s.lineColumn? byte = some place ↔
      ∃ before after, s.chars = before ++ after ∧ byteLength before = byte ∧
        placeBehind before = place := by
  have hplace : ∀ {before after}, s.chars = before ++ after →
      s.lineColumn? (byteLength before) = some (placeBehind before) := fun h => by
    rw [lineColumn?_of_append h, placeBehind, Nat.add_comm 1, Nat.add_comm 1]
  constructor
  · intro h
    obtain ⟨before, after, hchars, rfl⟩ := isBoundary_of_lineColumn? h
    rw [hplace hchars] at h
    exact ⟨before, after, hchars, rfl, Option.some.inj h⟩
  · rintro ⟨before, after, hchars, rfl, rfl⟩
    exact hplace hchars

theorem IsBoundary.le_size (h : s.IsBoundary byte) : byte ≤ s.size := by
  obtain ⟨before, after, hchars, rfl⟩ := h
  rw [size, hchars, byteLength_append]
  exact Nat.le_add_right _ _

theorem lineColumn?_lt (h : s.lineColumn? byte = some place)
    (hother : s.lineColumn? other = some next) (hlt : byte < other) :
    toLex place < toLex next := by
  obtain ⟨before, after, hchars, rfl, rfl⟩ := lineColumn?_eq_some_iff.mp h
  obtain ⟨front, rest, hfront, rfl, rfl⟩ := lineColumn?_eq_some_iff.mp hother
  obtain ⟨more, rfl, -⟩ := exists_append_of_byteLength_le (hchars.symm.trans hfront) hlt.le
  refine placeBehind_lt_append ?_
  rintro rfl
  rw [List.append_nil] at hlt
  exact lt_irrefl _ hlt

/-- The order of places is the order of bytes. -/
theorem lineColumn?_lt_iff (h : s.lineColumn? byte = some place)
    (hother : s.lineColumn? other = some next) : byte < other ↔ toLex place < toLex next := by
  refine ⟨lineColumn?_lt h hother, fun hplaces => ?_⟩
  rcases lt_trichotomy byte other with hlt | rfl | hgt
  · exact hlt
  · rw [h] at hother
    rw [Option.some.inj hother] at hplaces
    exact absurd hplaces (lt_irrefl _)
  · exact absurd hplaces (lineColumn?_lt hother h hgt).asymm

theorem eq_of_lineColumn?_eq (h : s.lineColumn? byte = some place)
    (hother : s.lineColumn? other = some place) : byte = other := by
  rcases lt_trichotomy byte other with hlt | heq | hgt
  · exact absurd (lineColumn?_lt h hother hlt) (lt_irrefl _)
  · exact heq
  · exact absurd (lineColumn?_lt hother h hgt) (lt_irrefl _)

end Order

/-! ### Pieces -/

/-- The piece of a line, which goes from its start to the start of the next line, or to the end of
the text where there is none. -/
def piece? (s : Source) (line : ℕ) : Option (List Char) :=
  (s.lineStart? line).bind fun start =>
    s.slice? start ((s.lineStart? (line + 1)).getD s.size)

/-- The pieces of all lines, in order. -/
def pieces (s : Source) : List (List Char) :=
  (List.range s.lineCount).map fun line => (s.piece? line).getD []

section Pieces

variable {before line after : List Char} {i : ℕ}

theorem line?_eq_map_piece? (s : Source) (i : ℕ) :
    s.line? i = (s.piece? i).map fun piece => String.ofList (shownLine piece) := by
  rw [line?, piece?]
  cases s.lineStart? i with
  | none => rfl
  | some start => cases h : s.slice? start ((s.lineStart? (i + 1)).getD s.size) <;> simp [h]

theorem LineBetween.piece?_eq (h : s.LineBetween before line after) :
    s.piece? (before.count '\n') = some (line ++ after.take 1) := by
  rw [piece?, h.lineStart?_eq, Option.bind_some, h.slice?_eq]

/-- The line that ends right before a place where a line starts. -/
theorem LineBetween.previous {front : List Char} (h : s.LineBetween (front ++ ['\n']) line after) :
    s.LineBetween (fullLines front) (lastLine front) ('\n' :: (line ++ after)) where
  chars_eq := by rw [fullLines_append_lastLine, h.chars_eq]; simp
  no_lineFeed hmem := by simpa using List.mem_rtakeWhile_imp hmem
  starts := fullLines_eq_nil_or_concat front
  ends := .inr ⟨_, rfl⟩

/-- The pieces of the lines before a line are what stands before it. -/
theorem LineBetween.flatMap_piece (h : s.LineBetween before line after)
    (hi : before.count '\n' = i) :
    (List.range i).flatMap (fun n => (s.piece? n).getD []) = before := by
  induction i generalizing before line after with
  | zero =>
    rcases h.starts with rfl | ⟨front, rfl⟩
    · rfl
    · rw [List.count_append, List.count_singleton_self] at hi
      omega
  | succ i ih =>
    rcases h.starts with rfl | ⟨front, rfl⟩
    · rw [List.count_nil] at hi
      omega
    · have hlast := h.previous
      have hcount : (fullLines front).count '\n' = i := by
        rw [count_fullLines]
        rw [List.count_append, List.count_singleton_self] at hi
        omega
      have hpiece := hlast.piece?_eq
      rw [hcount] at hpiece
      rw [List.range_succ, List.flatMap_append, ih hlast hcount, List.flatMap_singleton, hpiece,
        Option.getD_some, List.take_succ_cons, List.take_zero, ← List.append_assoc,
        fullLines_append_lastLine]

/-- **The pieces of all lines make up the text.** -/
theorem flatten_pieces (s : Source) : s.pieces.flatten = s.chars := by
  obtain ⟨n, hn⟩ : ∃ n, s.lineCount = n + 1 := ⟨_, Nat.add_comm _ _⟩
  obtain ⟨before, line, after, hline, hcount⟩ :=
    exists_lineBetween_of_lt (s := s) (i := n) (by omega)
  have hchars := hline.chars_eq
  have hafter : after = [] := by
    rcases hline.ends with rfl | ⟨rest, rfl⟩
    · rfl
    · -- With another line feed, this would not be the last line.
      have htotal := lineCount_eq s
      rw [hchars, List.count_append, List.count_append, List.count_cons_self] at htotal
      omega
  have hpiece := hline.piece?_eq
  rw [hcount, hafter, List.take_nil, List.append_nil] at hpiece
  rw [pieces, ← List.flatMap_def, hn, List.range_succ, List.flatMap_append,
    hline.flatMap_piece hcount, List.flatMap_singleton, hpiece, Option.getD_some, hchars, hafter,
    List.append_nil]

theorem isSome_lineStart?_iff : (s.lineStart? i).isSome ↔ i < s.lineCount := by
  constructor
  · intro h
    by_contra hle
    rw [lineStart?_eq_none (by omega)] at h
    cases h
  · intro h
    obtain ⟨before, line, after, hline, rfl⟩ := exists_lineBetween_of_lt h
    rw [hline.lineStart?_eq]
    rfl

theorem isSome_line?_iff : (s.line? i).isSome ↔ i < s.lineCount := by
  rw [line?_eq, Option.isSome_map, ← length_shownLines, isSome_getElem?]

theorem length_pieces (s : Source) : s.pieces.length = s.lineCount := by
  rw [pieces, List.length_map, List.length_range]

/-- Every line has a piece, and there are no others. -/
theorem getElem?_pieces (s : Source) (i : ℕ) : s.pieces[i]? = s.piece? i := by
  by_cases hi : i < s.lineCount
  · obtain ⟨before, line, after, hline, rfl⟩ := exists_lineBetween_of_lt hi
    rw [pieces, List.getElem?_map, List.getElem?_range hi, Option.map_some, hline.piece?_eq,
      Option.getD_some]
  · rw [List.getElem?_eq_none (by rw [length_pieces]; omega), piece?,
      lineStart?_eq_none (by omega), Option.bind_none]

/-- The line of an existing piece starts on it, and is shown without what ends it. -/
theorem exists_start_of_piece? {piece : List Char} (h : s.piece? i = some piece) :
    ∃ start, s.lineStart? i = some start ∧ s.lineOfByte? start = some i ∧
      s.slice? start ((s.lineStart? (i + 1)).getD s.size) = some piece ∧
      ∃ line, line = (piece.dropSuffix? ['\n']).getD piece ∧
        s.line? i = some (String.ofList ((line.dropSuffix? ['\r']).getD line)) := by
  obtain ⟨start, hstart, hslice⟩ := Option.bind_eq_some_iff.mp h
  have hi : i < s.lineCount := isSome_lineStart?_iff.mp (by rw [hstart]; rfl)
  obtain ⟨before, text, after, hline, rfl⟩ := exists_lineBetween_of_lt hi
  obtain rfl : byteLength before = start := Option.some.inj (hline.lineStart?_eq.symm.trans hstart)
  refine ⟨_, hstart, hline.lineOfByte?_eq le_rfl (Nat.le_add_right _ _), hslice, _, rfl, ?_⟩
  rw [line?_eq_map_piece?, h, Option.map_some, shownLine, dropTrailing_eq, dropTrailing_eq]

end Pieces

/-- **Places and pieces.** A byte has a place exactly when it falls between two characters of the
text; the place is counted from the characters before it, places are in the order of their bytes,
and no two bytes have the same place. The lines of the source, and only these, have a start and a
form in which they are shown. They cut the text into pieces, which make up the text one after the
other: each piece starts on its line, and what is shown of the line is the piece without one line
feed at its end, and then without one carriage return. -/
theorem places_and_pieces (s : Source) :
    (∀ byte, (s.lineColumn? byte).isSome ↔ byte ≤ s.size ∧ s.IsBoundary byte) ∧
      (∀ before after, s.chars = before ++ after → s.lineColumn? (byteLength before) =
        some (1 + before.count '\n', 1 + (before.rtakeWhile (· != '\n')).length)) ∧
      (∀ byte other place next, s.lineColumn? byte = some place →
        s.lineColumn? other = some next →
          (byte < other ↔ toLex place < toLex next) ∧ (place = next → byte = other)) ∧
      (∀ i, ((s.lineStart? i).isSome ↔ i < s.lineCount) ∧
        ((s.line? i).isSome ↔ i < s.lineCount)) ∧
      ∃ pieces : List (List Char), pieces.length = s.lineCount ∧ pieces.flatten = s.chars ∧
        ∀ i piece, pieces[i]? = some piece →
          ∃ start, s.lineStart? i = some start ∧ s.lineOfByte? start = some i ∧
            s.slice? start ((s.lineStart? (i + 1)).getD s.size) = some piece ∧
            ∃ line, line = (piece.dropSuffix? ['\n']).getD piece ∧
              s.line? i = some (String.ofList ((line.dropSuffix? ['\r']).getD line)) := by
  refine ⟨fun byte => ?_, fun before after h => ?_, fun byte other place next h hother => ?_,
    fun i => ⟨isSome_lineStart?_iff, isSome_line?_iff⟩,
    s.pieces, length_pieces s, flatten_pieces s, ?_⟩
  · constructor
    · intro h
      obtain ⟨place, hplace⟩ := Option.isSome_iff_exists.mp h
      have hcut := isBoundary_of_lineColumn? hplace
      exact ⟨hcut.le_size, hcut⟩
    · rintro ⟨-, before, after, hchars, rfl⟩
      rw [lineColumn?_of_append hchars]
      rfl
  · exact lineColumn?_eq_some_iff.mpr ⟨before, after, h, rfl, rfl⟩
  · refine ⟨lineColumn?_lt_iff h hother, ?_⟩
    rintro rfl
    exact eq_of_lineColumn?_eq h hother
  · intro i piece hpiece
    exact exists_start_of_piece? (getElem?_pieces s i ▸ hpiece)

end Source

end ViewLang

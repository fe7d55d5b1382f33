import Mathlib
import ViewLang.Diagnostic.Layout
import ViewLang.Proofs.SourceLines

/-!
# The window of a diagnostic

A diagnostic draws its snippets in order of their starts (`Diagnostic.inOrder`). As later bytes
stand on later lines, this is also the order of the lines on which they start, so that taking the
snippets of one line after the other takes every snippet once (`flatMap_filter_range'`).

The lines shown are those from the first to the last one on which a snippet starts, and the lines of
context around them as far as the source has them. The main result is `Diagnostic.layout_eq`, which
gives the rows of a diagnostic in these terms.
-/

namespace ViewLang

/-! ### Items in groups -/

section Groups

variable {α : Type}

/-- The groups of sorted items, one after the other, are the items. -/
theorem flatMap_filter_range' (f : α → ℕ) {items : List α} {start count : ℕ}
    (hsorted : items.Pairwise fun a b => f a ≤ f b)
    (hrange : ∀ a ∈ items, start ≤ f a ∧ f a < start + count) :
    (List.range' start count).flatMap (fun n => items.filter (f · == n)) = items := by
  induction count generalizing start items with
  | zero =>
    have hnil : items = [] := List.eq_nil_iff_forall_not_mem.mpr fun a ha => by
      have := hrange a ha
      omega
    rw [hnil]
    rfl
  | succ count ih =>
    -- The items of the first key stand in front, and the others are grouped from the next key on.
    have hsplit := filter_append_filter_not (p := (f · == start)) <|
      hsorted.imp_of_mem fun ha _ hle hb => by
        have := (hrange _ ha).1
        simp only [beq_iff_eq] at hb ⊢
        omega
    have hlater : ∀ a ∈ items.filter (!f · == start), start + 1 ≤ f a ∧ f a < start + 1 + count :=
      fun a ha => by
        obtain ⟨ha, hne⟩ := List.mem_filter.mp ha
        have := hrange a ha
        simp only [Bool.not_eq_true', beq_eq_false_iff_ne] at hne
        omega
    have hgroup : ∀ n ∈ List.range' (start + 1) count,
        items.filter (f · == n) = (items.filter (!f · == start)).filter (f · == n) := by
      intro n hn
      have hlt := (List.mem_range'_1.mp hn).1
      rw [List.filter_filter]
      refine List.filter_congr fun a _ => ?_
      by_cases ha : f a = n
      · simp [ha, show n ≠ start by omega]
      · simp [ha]
    rw [List.range'_succ, List.flatMap_cons, List.flatMap_congr hgroup,
      ih (hsorted.sublist List.filter_sublist) hlater, hsplit]

private theorem key_le_trans (f : α → ℕ) (a b c : α) (hab : decide (f a ≤ f b) = true)
    (hbc : decide (f b ≤ f c) = true) : decide (f a ≤ f c) = true :=
  decide_eq_true ((of_decide_eq_true hab).trans (of_decide_eq_true hbc))

private theorem key_le_total (f : α → ℕ) (a b : α) :
    (decide (f a ≤ f b) || decide (f b ≤ f a)) = true := by
  simpa using Nat.le_total (f a) (f b)

theorem pairwise_mergeSort_key (f : α → ℕ) (items : List α) :
    (items.mergeSort fun a b => f a ≤ f b).Pairwise fun a b => f a ≤ f b :=
  (List.pairwise_mergeSort (key_le_trans f) (key_le_total f) items).imp of_decide_eq_true

/-- Sorting keeps the items of one key in their order. -/
theorem filter_mergeSort_key (f : α → ℕ) (items : List α) (n : ℕ) :
    (items.mergeSort fun a b => f a ≤ f b).filter (f · == n) = items.filter (f · == n) := by
  -- The items of one key are sorted as they stand, so they are found in this order, and there are
  -- no others with this key.
  have htogether : (items.filter (f · == n)).Pairwise fun a b => decide (f a ≤ f b) = true :=
    List.pairwise_of_forall_mem_list fun a ha b hb => by
      simp only [List.mem_filter, beq_iff_eq] at ha hb
      simp [ha.2, hb.2]
  have hsublist := (List.sublist_mergeSort (key_le_trans f) (key_le_total f) htogether
    List.filter_sublist).filter (f · == n)
  simp only [List.filter_filter, Bool.and_self] at hsublist
  exact (hsublist.eq_of_length ((List.mergeSort_perm items _).filter _).length_eq.symm).symm

theorem isLeast_foldl_min (f : α → ℕ) (a : α) (as : List α) :
    IsLeast {n | ∃ b ∈ a :: as, f b = n} (as.foldl (fun n b => min n (f b)) (f a)) := by
  have hmin : ((a :: as).map f).min? = some (as.foldl (fun n b => min n (f b)) (f a)) := by
    rw [List.map_cons, List.min?_cons', List.foldl_map]
  obtain ⟨hmem, hle⟩ := List.min?_eq_some_iff.mp hmin
  refine ⟨List.mem_map.mp hmem, ?_⟩
  rintro n ⟨b, hb, rfl⟩
  exact hle _ (List.mem_map_of_mem hb)

theorem isGreatest_foldl_max (f : α → ℕ) (a : α) (as : List α) :
    IsGreatest {n | ∃ b ∈ a :: as, f b = n} (as.foldl (fun n b => max n (f b)) (f a)) := by
  have hmax : ((a :: as).map f).max? = some (as.foldl (fun n b => max n (f b)) (f a)) := by
    rw [List.map_cons, List.max?_cons', List.foldl_map]
  obtain ⟨hmem, hle⟩ := List.max?_eq_some_iff.mp hmax
  refine ⟨List.mem_map.mp hmem, ?_⟩
  rintro n ⟨b, hb, rfl⟩
  exact hle _ (List.mem_map_of_mem hb)

end Groups

/-! ### Snippets in order -/

namespace Snippet

variable (snippet : Snippet) (source : Source)

@[simp] theorem kind_mark : (snippet.mark source).kind = snippet.kind := rfl

@[simp] theorem label_mark : (snippet.mark source).label = snippet.label := rfl

theorem start_mark_le : (snippet.mark source).start ≤ source.size :=
  Nat.min_le_right _ _

theorem lineOfByte?_mark :
    source.lineOfByte? (snippet.mark source).start = some (snippet.mark source).line := by
  obtain ⟨line, hline⟩ := Source.exists_lineHolds (snippet.start_mark_le source)
  have hfound := (Source.lineHolds_iff (snippet.start_mark_le source)).mp hline
  rw [mark] at hfound ⊢
  rw [hfound, Option.getD_some]

/-- Whether a snippet is marked on a line. -/
def startsOn (line : ℕ) : Bool :=
  (snippet.mark source).line == line

/-- A snippet is marked on the line that its start belongs to. -/
theorem startsOn_iff {line : ℕ} :
    snippet.startsOn source line ↔ source.LineHolds line (snippet.mark source).start := by
  rw [Source.lineHolds_iff (snippet.start_mark_le source), lineOfByte?_mark, Option.some_inj,
    startsOn, beq_iff_eq]

theorem lineHolds_mark :
    source.LineHolds (snippet.mark source).line (snippet.mark source).start :=
  (snippet.startsOn_iff source).mp (beq_self_eq_true _)

end Snippet

theorem Source.LineHolds.lt_lineCount {s : Source} {line byte : ℕ} (h : s.LineHolds line byte) :
    line < s.lineCount := by
  obtain ⟨before, text, after, hline, rfl, -, -⟩ := h
  rw [lineCount_eq, hline.chars_eq, List.count_append, List.count_append]
  omega

namespace Diagnostic

variable {d : Diagnostic} {source : Source}

/-- The snippets of a diagnostic in order of their starts; those that start together are in the
order in which they were added. -/
structure IsInOrder (d : Diagnostic) (source : Source) (order : List Snippet) : Prop where
  perm : order.Perm d.snippets
  sorted : order.Pairwise fun a b => (a.mark source).start ≤ (b.mark source).start
  stable : ∀ byte, order.filter (fun snippet => (snippet.mark source).start == byte) =
    d.snippets.filter (fun snippet => (snippet.mark source).start == byte)

/-- The snippets sorted by their starts. -/
def inOrder (d : Diagnostic) (source : Source) : List Snippet :=
  d.snippets.mergeSort fun a b => (a.mark source).start ≤ (b.mark source).start

theorem isInOrder_inOrder (d : Diagnostic) (source : Source) :
    d.IsInOrder source (d.inOrder source) where
  perm := List.mergeSort_perm _ _
  sorted := pairwise_mergeSort_key (fun snippet : Snippet => (snippet.mark source).start) _
  stable := filter_mergeSort_key (fun snippet : Snippet => (snippet.mark source).start) _

theorem marks_eq (d : Diagnostic) (source : Source) :
    d.marks source = (d.inOrder source).map (·.mark source) :=
  (List.map_mergeSort (f := fun snippet : Snippet => snippet.mark source) fun _ _ _ _ => rfl).symm

theorem mem_inOrder {snippet : Snippet} : snippet ∈ d.inOrder source ↔ snippet ∈ d.snippets :=
  (isInOrder_inOrder d source).perm.mem_iff

/-- Snippets in order of their starts are in order of the lines on which they start. -/
theorem pairwise_line_inOrder (d : Diagnostic) (source : Source) :
    (d.inOrder source).Pairwise fun a b => (a.mark source).line ≤ (b.mark source).line :=
  (isInOrder_inOrder d source).sorted.imp fun hle =>
    Source.lineOfByte?_mono hle (Snippet.lineOfByte?_mark _ source)
      (Snippet.lineOfByte?_mark _ source)

/-- The lines on which the snippets of a diagnostic start. -/
def markedLines (d : Diagnostic) (source : Source) : Set ℕ :=
  {line | ∃ snippet ∈ d.snippets, source.LineHolds line (snippet.mark source).start}

theorem setOf_line_inOrder (d : Diagnostic) (source : Source) :
    {line | ∃ snippet ∈ d.inOrder source, (snippet.mark source).line = line} =
      d.markedLines source := by
  ext line
  simp only [markedLines, Set.mem_ofPred_eq, mem_inOrder, ← Snippet.startsOn_iff,
    Snippet.startsOn, beq_iff_eq]

end Diagnostic

/-! ### The window -/

/-- The lines of a source from `first` to `last`, and so many lines around them as far as the source
has them. -/
def Source.linesAround (s : Source) (first last context : ℕ) : List ℕ :=
  List.Ico (first - context) (min (last + context) (s.lineCount - 1) + 1)

namespace Diagnostic

variable {d : Diagnostic} {source : Source} {first last : ℕ}

theorem lt_lineCount_of_mem_linesAround {context line : ℕ}
    (h : line ∈ source.linesAround first last context) : line < source.lineCount := by
  rw [Source.linesAround, List.Ico.mem] at h
  have : 0 < source.lineCount := by rw [Source.lineCount]; omega
  omega

theorem line_mem_linesAround (context : ℕ) (hfirst : IsLeast (d.markedLines source) first)
    (hlast : IsGreatest (d.markedLines source) last) {snippet : Snippet}
    (h : snippet ∈ d.snippets) :
    (snippet.mark source).line ∈ source.linesAround first last context := by
  have hline := snippet.lineHolds_mark source
  have hge := hfirst.2 ⟨snippet, h, hline⟩
  have hle := hlast.2 ⟨snippet, h, hline⟩
  have hlt := hline.lt_lineCount
  rw [Source.linesAround, List.Ico.mem]
  omega

/-- Taken line by line, the snippets are those of the diagnostic in their order. -/
theorem flatMap_filter_line_inOrder (context : ℕ) (hfirst : IsLeast (d.markedLines source) first)
    (hlast : IsGreatest (d.markedLines source) last) :
    (source.linesAround first last context).flatMap
      (fun line => (d.inOrder source).filter (·.startsOn source line)) = d.inOrder source := by
  refine flatMap_filter_range' (fun snippet : Snippet => (snippet.mark source).line)
    (pairwise_line_inOrder d source) fun snippet hsnippet => ?_
  have hline := line_mem_linesAround context hfirst hlast (mem_inOrder.mp hsnippet)
  rw [Source.linesAround, List.Ico.mem] at hline
  omega

/-- The rows of a line: the line itself, and the underlines of the snippets that start on it. -/
def lineRows (d : Diagnostic) (source : Source) (line : ℕ) : List Row :=
  .source (line + 1) (source.shownLines.getD line []) ::
    ((d.inOrder source).filter (·.startsOn source line)).map
      fun snippet => (snippet.mark source).row source

theorem rows_eq (d : Diagnostic) (source : Source) (start stop : ℕ) :
    rows source (d.marks source) start stop =
      (List.range' start (stop - start)).flatMap (d.lineRows source) := by
  have hline : ∀ line, (source.line? line).elim [] String.toList =
      source.shownLines.getD line [] := fun line => by
    rw [Source.line?_eq, List.getD_eq_getElem?_getD]
    cases source.shownLines[line]? <;> simp
  simp only [rows, hline, marks_eq, List.filter_map, List.map_map]
  rfl

/-- The lines up to the end of the context or of the source. -/
theorem linesAround_eq (context : ℕ) (hlast : last ∈ d.markedLines source) :
    source.linesAround first last context =
      List.range' (first - context)
        (min (last + 1 + context) source.lineCount - (first - context)) := by
  obtain ⟨snippet, -, hline⟩ := hlast
  have hlt := hline.lt_lineCount
  rw [Source.linesAround, List.Ico]
  congr 2
  omega

/-- **The rows of a diagnostic.** A diagnostic with snippets shows the lines around the first and
the last one on which a snippet starts. Under each line stand the snippets that start on it, and the
place named is that of the snippet that starts first. -/
theorem layout_eq (source : Source) (context : ℕ) (hne : d.snippets ≠ []) :
    ∃ snippet first last, (d.inOrder source).head? = some snippet ∧
      IsLeast (d.markedLines source) first ∧ IsGreatest (d.markedLines source) last ∧
      d.layout source context = some
        { location := (source.lineColumn? (snippet.mark source).start).getD
            ((snippet.mark source).line + 1, 1)
          numberWidth := digitCount (min (last + 1 + context) source.lineCount)
          rows := (source.linesAround first last context).flatMap (d.lineRows source) } := by
  have hmarked := setOf_line_inOrder d source
  have horder : d.inOrder source ≠ [] := fun hnil => by
    have hperm := (isInOrder_inOrder d source).perm
    rw [hnil, List.nil_perm] at hperm
    exact hne hperm
  obtain ⟨snippet, others, hsnippets⟩ := List.exists_cons_of_ne_nil horder
  have hmarks : d.marks source = snippet.mark source :: others.map (·.mark source) := by
    rw [marks_eq, hsnippets, List.map_cons]
  rw [hsnippets] at hmarked
  have hfirst := isLeast_foldl_min (fun snippet : Snippet => (snippet.mark source).line)
    snippet others
  have hlast := isGreatest_foldl_max (fun snippet : Snippet => (snippet.mark source).line)
    snippet others
  rw [hmarked] at hfirst hlast
  refine ⟨snippet, _, _, by rw [hsnippets, List.head?_cons], hfirst, hlast, ?_⟩
  rw [linesAround_eq context hlast.1, ← rows_eq, layout, hmarks]
  simp only [List.foldl_map]

/-- Every snippet is underlined, with only other underlines between it and its line. -/
theorem exists_rows_append (source : Source) (context : ℕ) {snippet : Snippet}
    (h : snippet ∈ d.snippets) :
    ∃ layout front, ∃ others : List Snippet, ∃ back, d.layout source context = some layout ∧
      layout.rows = front ++
        .source ((snippet.mark source).line + 1)
          (source.shownLines.getD (snippet.mark source).line []) ::
        others.map (fun other => (other.mark source).row source) ++
        (snippet.mark source).row source :: back := by
  obtain ⟨_, first, last, -, hfirst, hlast, hlayout⟩ :=
    layout_eq source context (List.ne_nil_of_mem h)
  obtain ⟨lines, more, hlines⟩ :=
    List.append_of_mem (line_mem_linesAround context hfirst hlast h)
  have hfilter : snippet ∈ (d.inOrder source).filter
      (·.startsOn source (snippet.mark source).line) :=
    List.mem_filter.mpr ⟨mem_inOrder.mpr h, beq_self_eq_true _⟩
  obtain ⟨others, rest, hothers⟩ := List.append_of_mem hfilter
  refine ⟨_, lines.flatMap (d.lineRows source), others,
    rest.map (fun other => (other.mark source).row source) ++ more.flatMap (d.lineRows source),
    hlayout, ?_⟩
  simp [hlines, lineRows, hothers]

end Diagnostic

end ViewLang

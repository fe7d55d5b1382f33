import Mathlib
import ViewLang.Diagnostic.Drawing

/-!
# Display width of drawn lines

The width of a text is summed up from its end, and the sum can go down again: some characters that
have been counted take no column behind others. A shape to the right records what may still be taken
back (`Width.Shape.owed`), and no step takes back more (`Width.owed_step_le`), so the sum is never
negative.

A tab is drawn as four blanks. Tabs and blanks take one column each and keep their neighbours apart,
so drawing a line adds three columns for each of its tabs (`displayWidth_expandTabs`).
-/

namespace ViewLang

namespace Width

/-- The width of a text as a sum that may go down, and what the text is to a character before it. -/
def scan (cs : List Char) : ℤ × Right :=
  cs.foldr (fun c (width, right) =>
    let (more, right) := step c right
    (width + more, right)) (0, {})

theorem displayWidth_eq (cs : List Char) : displayWidth cs = (scan cs).1.toNat := rfl

theorem scan_cons (c : Char) (cs : List Char) :
    scan (c :: cs) = ((scan cs).1 + (step c (scan cs).2).1, (step c (scan cs).2).2) := rfl

/-! ### What may be taken back -/

/-- The columns that the characters before a shape may take back. -/
def Shape.owed : Shape → ℤ
  | khmerLetter | tifinaghJoiner | joinedFlagLetter | joinedFlagLettersOdd => 1
  | _ => 0

section Steps

variable (c : Char) (r : Right)

theorem Shape.owed_nonneg (shape : Shape) : 0 ≤ shape.owed := by
  cases shape <;> simp [owed]

/-- A choice owes no more than a bound that holds on both sides. -/
private theorem owed_ite_le {p : Prop} [Decidable p] {a b : Right} {n : ℤ}
    (ha : p → a.shape.owed ≤ n) (hb : ¬p → b.shape.owed ≤ n) :
    (if p then a else b).shape.owed ≤ n := by
  split
  · exact ha ‹_›
  · exact hb ‹_›

theorem owed_selectEmoji_le : r.selectEmoji.shape.owed ≤ r.shape.owed :=
  owed_ite_le (fun _ => le_rfl) fun _ => r.shape.owed_nonneg

theorem owed_selectText_le : r.selectText.shape.owed ≤ r.shape.owed :=
  owed_ite_le (fun _ => le_rfl) fun _ => r.shape.owed_nonneg

theorem owed_dropSelector_le : r.dropSelector.shape.owed ≤ r.shape.owed :=
  owed_ite_le (fun _ => le_rfl) fun _ => r.shape.owed_nonneg

variable {c} in
theorem hidden_eq_false_of_isKhmerLetter (h : isKhmerLetter c = true) :
    CharSet.hidden.contains c = false := by
  rw [Bool.eq_false_iff]
  intro hidden
  obtain ⟨range, hrange, hlo, hhi⟩ := CharSet.exists_range_of_contains hidden
  have hall : CharSet.hidden.ranges.all (fun r => decide (r.2 < 0x1780 ∨ 0x17AF < r.1)) = true := by
    decide +kernel
  have hapart := List.all_eq_true.mp hall range hrange
  simp only [decide_eq_true_eq] at hapart
  simp only [isKhmerLetter, within, Bool.or_eq_true, Bool.and_eq_true, decide_eq_true_eq] at h
  omega

variable {c} in
theorem one_le_ofChar_of_isKhmerLetter (h : isKhmerLetter c = true) : 1 ≤ ofChar c := by
  rw [ofChar, hidden_eq_false_of_isKhmerLetter h, if_neg Bool.false_ne_true]
  split
  · decide
  split
  · decide
  · exact le_rfl

theorem owed_rightOf_le : (rightOf c).shape.owed ≤ ofChar c := by
  have hnonneg : (0 : ℤ) ≤ ofChar c := Int.natCast_nonneg _
  rw [rightOf]
  -- Of all shapes that start with a character alone, only a Khmer letter owes anything.
  iterate 11 refine owed_ite_le (fun _ => hnonneg) fun _ => ?_
  exact owed_ite_le (fun h => Int.ofNat_le.mpr (one_le_ofChar_of_isKhmerLetter h)) fun _ => hnonneg

variable {c} in
theorem owed_together_le {more : ℤ} {right : Right} {shape : Shape} {joined : Bool}
    (h : together? c shape joined = some (more, right)) : right.shape.owed ≤ more + shape.owed := by
  cases shape
  all_goals
    simp only [together?] at h
    repeat' split at h
  all_goals
    cases h
    try simp [Shape.owed]

theorem owed_stepUnselected_le :
    (stepUnselected c r).2.shape.owed ≤ (stepUnselected c r).1 + r.shape.owed := by
  rw [stepUnselected]
  split
  · simp
  split
  · simp
  cases htogether : together? c r.shape r.joined with
  | some next => exact owed_together_le htogether
  | none =>
    have hright := owed_rightOf_le c
    have hshape := r.shape.owed_nonneg
    rw [Option.getD_none]
    exact hright.trans (le_add_of_nonneg_right hshape)

/-- A step takes back no more than is owed. -/
theorem owed_step_le : (step c r).2.shape.owed ≤ (step c r).1 + r.shape.owed := by
  have howed := r.shape.owed_nonneg
  have hemoji : Shape.emoji.owed = 0 := rfl
  have hother : Shape.other.owed = 0 := rfl
  rw [step]
  split
  · split <;> simp only [hemoji] <;> omega
  -- A selector that the character has no use for is dropped first.
  generalize hr : (if r.selector == some .emoji then r.dropSelector else r) = r'
  have hle : r'.shape.owed ≤ r.shape.owed := by
    rw [← hr]
    exact owed_ite_le (fun _ => owed_dropSelector_le r) fun _ => le_rfl
  simp only []
  split
  · simp only [hother]
    omega
  split
  · have := owed_selectEmoji_le r'
    simp only []
    omega
  split
  · have := owed_selectText_le r'
    simp only []
    omega
  split
  · simp only [hother]
    omega
  split
  · have := owed_dropSelector_le r'
    have := owed_stepUnselected_le c r'.dropSelector
    omega
  · have := owed_stepUnselected_le c r'
    omega

end Steps

/-- What is owed has been counted. -/
theorem owed_scan_le (cs : List Char) : (scan cs).2.shape.owed ≤ (scan cs).1 := by
  induction cs with
  | nil => exact le_rfl
  | cons c cs ih =>
    have hstep := owed_step_le c (scan cs).2
    rw [scan_cons]
    exact hstep.trans (by rw [add_comm]; exact Int.add_le_add_right ih _)

theorem scan_nonneg (cs : List Char) : 0 ≤ (scan cs).1 :=
  (Shape.owed_nonneg _).trans (owed_scan_le cs)

/-! ### Tabs -/

theorem step_of_toNat_le {c : Char} (hc : c.toNat ≤ 0xA0)
    (hbase : CharSet.emojiVariationBase.contains c = false) (r : Right) : step c r = (1, {}) := by
  rw [step, hbase, Bool.and_false, if_neg Bool.false_ne_true]
  simp only [hc, if_true]

/-- A tab takes one column, whatever stands next to it. -/
theorem step_tab (r : Right) : step '\t' r = (1, {}) :=
  step_of_toNat_le (by decide) (by decide) r

/-- A blank takes one column, whatever stands next to it. -/
theorem step_blank (r : Right) : step ' ' r = (1, {}) :=
  step_of_toNat_le (by decide) (by decide) r

end Width

namespace Drawing

@[simp] theorem expandTabs_nil : expandTabs [] = [] := rfl

theorem expandTabs_tab_cons (cs : List Char) :
    expandTabs ('\t' :: cs) = ' ' :: ' ' :: ' ' :: ' ' :: expandTabs cs := rfl

theorem expandTabs_cons_of_ne {c : Char} (hc : c ≠ '\t') (cs : List Char) :
    expandTabs (c :: cs) = c :: expandTabs cs := by
  rw [expandTabs, List.flatMap_cons, if_neg hc, List.singleton_append, expandTabs]

@[simp] theorem expandTabs_append (cs ds : List Char) :
    expandTabs (cs ++ ds) = expandTabs cs ++ expandTabs ds :=
  List.flatMap_append

end Drawing

open Drawing (expandTabs expandTabs_tab_cons expandTabs_cons_of_ne)

theorem Width.scan_expandTabs (cs : List Char) :
    scan (expandTabs cs) = ((scan cs).1 + 3 * cs.count '\t', (scan cs).2) := by
  induction cs with
  | nil => rfl
  | cons c cs ih =>
    by_cases hc : c = '\t'
    · subst hc
      simp only [expandTabs_tab_cons, scan_cons, step_blank, step_tab, ih, List.count_cons_self]
      congr 1
      push_cast
      ring
    · rw [expandTabs_cons_of_ne hc, scan_cons, scan_cons, ih, List.count_cons_of_ne hc]
      congr 1
      ring

/-- Drawing the tabs of a text adds three columns for each. -/
theorem displayWidth_expandTabs (cs : List Char) :
    displayWidth (expandTabs cs) = displayWidth cs + 3 * cs.count '\t' := by
  have hnonneg := Width.scan_nonneg cs
  rw [Width.displayWidth_eq, Width.displayWidth_eq, Width.scan_expandTabs]
  simp only []
  omega

/-- The columns reserved for a text are those of its drawn form, and one more for each tab. -/
theorem columns_eq (cs : List Char) :
    columns cs = displayWidth (expandTabs cs) + cs.count '\t' := by
  have htab : tabText.length = 4 := rfl
  rw [columns, displayWidth_expandTabs, htab]
  ring

/-- The reserved columns are those of the drawn form for the texts without tabs only. -/
theorem columns_eq_displayWidth_iff (cs : List Char) :
    columns cs = displayWidth (expandTabs cs) ↔ '\t' ∉ cs := by
  rw [columns_eq, ← List.count_eq_zero, Nat.add_eq_left]

/-- That at least one column is reserved does not hide the difference, as a drawn tab is wider. -/
theorem max_one_columns_eq_iff (cs : List Char) :
    max 1 (columns cs) = max 1 (displayWidth (expandTabs cs)) ↔ '\t' ∉ cs := by
  rw [columns_eq, displayWidth_expandTabs, ← List.count_eq_zero]
  omega

end ViewLang

import Mathlib

/-!
# Texts and their lines

A text is cut into lines at its line feeds. A text that ends with a line feed has an empty last
line, so there is always one more line than there are line feeds.
-/

namespace ViewLang

/-- The number of line feeds in a text. -/
def lineFeedCount (text : String) : ℕ :=
  text.toList.count '\n'

/-- The lines of a text, without their line feeds. Behind the last line feed there is one more line,
which may be empty. -/
def linesOf (text : String) : List (List Char) :=
  text.toList.splitOn '\n'

section Texts

variable {text more : String}

@[simp] theorem lineFeedCount_append :
    lineFeedCount (text ++ more) = lineFeedCount text + lineFeedCount more := by
  simp [lineFeedCount]

theorem lineFeedCount_eq_zero_iff : lineFeedCount text = 0 ↔ '\n' ∉ text.toList :=
  List.count_eq_zero

theorem linesOf_eq_singleton (h : lineFeedCount text = 0) : linesOf text = [text.toList] :=
  List.splitOn_eq_singleton (lineFeedCount_eq_zero_iff.mp h)

theorem linesOf_append_lineFeed :
    linesOf (text ++ "\n" ++ more) = linesOf text ++ linesOf more := by
  have hchars : (text ++ "\n" ++ more).toList = text.toList ++ '\n' :: more.toList := by simp
  rw [linesOf, hchars]
  exact List.splitOn_append_cons_self text.toList more.toList

/-- Lines that each end with a line feed are the lines of the text that they make up, before an
empty one. -/
theorem splitOn_flatMap_lineFeed {lines : List (List Char)} (h : ∀ line ∈ lines, '\n' ∉ line) :
    (lines.flatMap (· ++ ['\n'])).splitOn '\n' = lines ++ [[]] := by
  induction lines with
  | nil => rfl
  | cons line lines ih =>
    obtain ⟨hline, hlines⟩ := List.forall_mem_cons.mp h
    rw [List.flatMap_cons, List.append_assoc, List.singleton_append,
      List.splitOn_append_cons_self, List.splitOn_eq_singleton hline, ih hlines]
    rfl

theorem length_splitOn_lineFeed (cs : List Char) :
    (cs.splitOn '\n').length = cs.count '\n' + 1 := by
  induction cs with
  | nil => rfl
  | cons c cs ih =>
    rw [List.splitOn_cons_eq_if_modifyHead, List.count_cons]
    split <;> simp [ih]

theorem length_linesOf : (linesOf text).length = lineFeedCount text + 1 :=
  length_splitOn_lineFeed text.toList

/-- A numeral has no line feed. -/
theorem lineFeed_notMem_toDigits (n : ℕ) : '\n' ∉ Nat.toDigits 10 n := fun hmem =>
  absurd (Nat.isDigit_of_mem_toDigits (by decide) (by decide) hmem) (by decide)

theorem lineFeedCount_natRepr (n : ℕ) : lineFeedCount n.repr = 0 := by
  rw [lineFeedCount_eq_zero_iff, Nat.toList_repr]
  exact lineFeed_notMem_toDigits n

theorem lineFeedCount_intRepr (i : ℤ) : lineFeedCount i.repr = 0 := by
  cases i with
  | ofNat n => exact lineFeedCount_natRepr n
  | negSucc n =>
    have hsign : (Int.negSucc n).repr = "-" ++ (n + 1).repr := rfl
    rw [hsign, lineFeedCount_append, lineFeedCount_natRepr]
    rfl

end Texts

end ViewLang

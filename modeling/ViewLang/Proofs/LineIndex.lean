import Mathlib.Data.List.DropRight
import ViewLang.Source

/-!
# Lines and columns

The index of a source records where its line feeds stand. The line feeds before a byte are the front
of that record, which the search splits off, and their number is the line of the byte; the last of
them is the entry from which the start of the line is taken. So line and column are a matter of the
characters before the byte.

The main result is `Source.lineColumn?_of_append`.
-/

namespace ViewLang

/-- What is true of the smaller ones of ascending items is true of those at the front. -/
theorem filter_append_filter_not {α : Type} {p : α → Bool} {items : List α}
    (h : items.Pairwise fun a b => p b = true → p a = true) :
    items.filter p ++ items.filter (!p ·) = items := by
  induction h with
  | nil => rfl
  | @cons a items hfirst _ ih =>
    cases ha : p a with
    | true =>
      rw [List.filter_cons_of_pos ha, List.filter_cons_of_neg (by simp [ha]), List.cons_append, ih]
    | false =>
      have hnone : items.filter p = [] := List.filter_eq_nil_iff.mpr fun b hb hpb => by
        rw [hfirst b hb hpb] at ha
        cases ha
      rw [hnone, List.nil_append] at ih
      rw [List.filter_cons_of_neg (by simp [ha]), hnone, List.nil_append,
        List.filter_cons_of_pos (by simp [ha]), ih]

/-! ### The recorded line feeds -/

section Record

variable {offset n : Nat} {cs before after : List Char}

private theorem toList_lineFeeds_go (offset : Nat) (found : Array Nat) (cs : List Char) :
    (lineFeeds.go offset found cs).toList =
      found.toList ++ (lineFeeds cs).toList.map (offset + ·) := by
  induction cs generalizing offset found with
  | nil => simp [lineFeeds, lineFeeds.go]
  | cons c cs ih =>
    have hcons : (lineFeeds (c :: cs)).toList =
        (if c = '\n' then #[].push 0 else #[] : Array Nat).toList ++
          (lineFeeds cs).toList.map (0 + c.utf8Size + ·) := ih _ _
    rw [lineFeeds.go, ih, hcons]
    split <;> simp [Nat.add_assoc, Function.comp_def]

theorem toList_lineFeeds_cons (c : Char) (cs : List Char) :
    (lineFeeds (c :: cs)).toList =
      (if c = '\n' then [0] else []) ++ (lineFeeds cs).toList.map (c.utf8Size + ·) := by
  rw [lineFeeds, lineFeeds.go, toList_lineFeeds_go]
  split <;> simp

/-- The line feeds of a text are those of its front, and those of the rest behind it. -/
theorem toList_lineFeeds_append (before after : List Char) :
    (lineFeeds (before ++ after)).toList =
      (lineFeeds before).toList ++ (lineFeeds after).toList.map (byteLength before + ·) := by
  induction before with
  | nil => simp [lineFeeds, lineFeeds.go]
  | cons c before ih =>
    rw [List.cons_append, toList_lineFeeds_cons, toList_lineFeeds_cons, ih]
    simp [Nat.add_assoc, Function.comp_def]

theorem length_toList_lineFeeds (cs : List Char) :
    (lineFeeds cs).toList.length = cs.count '\n' := by
  induction cs with
  | nil => rfl
  | cons c cs ih =>
    rw [toList_lineFeeds_cons, List.length_append, List.length_map, ih, List.count_cons]
    by_cases hc : c = '\n' <;> simp [hc, Nat.add_comm]

/-- A line feed is recorded where it stands, and nothing else is. -/
theorem mem_lineFeeds_iff :
    n ∈ (lineFeeds cs).toList ↔
      ∃ before after, cs = before ++ '\n' :: after ∧ byteLength before = n := by
  constructor
  · intro h
    induction cs generalizing n with
    | nil => simp [lineFeeds, lineFeeds.go] at h
    | cons c cs ih =>
      rw [toList_lineFeeds_cons, List.mem_append, List.mem_map] at h
      rcases h with h | ⟨m, hm, rfl⟩
      · split at h
        · next hc =>
          obtain rfl := List.mem_singleton.mp h
          exact ⟨[], cs, by rw [hc, List.nil_append], rfl⟩
        · cases h
      · obtain ⟨before, after, rfl, rfl⟩ := ih hm
        exact ⟨c :: before, after, rfl, rfl⟩
  · rintro ⟨before, after, rfl, rfl⟩
    simp [toList_lineFeeds_append, toList_lineFeeds_cons]

theorem lt_of_mem_lineFeeds (h : n ∈ (lineFeeds cs).toList) : n < byteLength cs := by
  obtain ⟨before, after, rfl, rfl⟩ := mem_lineFeeds_iff.mp h
  have := Char.utf8Size_pos '\n'
  simp only [byteLength_append, byteLength_cons]
  omega

theorem pairwise_lineFeeds (cs : List Char) : (lineFeeds cs).toList.Pairwise (· < ·) := by
  induction cs with
  | nil => exact .nil
  | cons c cs ih =>
    rw [toList_lineFeeds_cons, List.pairwise_append, List.pairwise_map]
    refine ⟨by split <;> simp, ih.imp fun h => by omega, fun a ha b hb => ?_⟩
    obtain ⟨m, -, rfl⟩ := List.mem_map.mp hb
    have := c.utf8Size_pos
    split at ha
    · obtain rfl := List.mem_singleton.mp ha
      omega
    · cases ha

end Record

/-! ### The last line of the characters before a byte -/

section LastLine

variable {before : List Char}

/-- The characters up to and including the last line feed. -/
def fullLines (before : List Char) : List Char :=
  before.rdropWhile (· != '\n')

/-- The characters behind the last line feed. -/
def lastLine (before : List Char) : List Char :=
  before.rtakeWhile (· != '\n')

theorem fullLines_append_lastLine (before : List Char) :
    fullLines before ++ lastLine before = before :=
  List.rdropWhile_append_rtakeWhile

theorem count_fullLines (before : List Char) :
    (fullLines before).count '\n' = before.count '\n' := by
  have hlast : (lastLine before).count '\n' = 0 :=
    List.count_eq_zero.mpr fun h => by simpa using List.mem_rtakeWhile_imp h
  conv_rhs => rw [← fullLines_append_lastLine before, List.count_append, hlast, Nat.add_zero]

theorem fullLines_eq_nil_or_concat (before : List Char) :
    fullLines before = [] ∨ ∃ front, fullLines before = front ++ ['\n'] := by
  by_cases h : fullLines before = []
  · exact .inl h
  · have hlast := List.rdropWhile_last_not (· != '\n') before h
    rw [bne_iff_ne, not_not] at hlast
    exact .inr ⟨_, hlast ▸ (List.dropLast_append_getLast h).symm⟩

end LastLine

/-! ### The index -/

namespace Source

variable {s : Source} {before after : List Char}

/-- The line of a byte is the number of line feeds that are recorded before it. -/
theorem lineOfByte?_eq_countP {byte : ℕ} (h : byte ≤ s.size) :
    s.lineOfByte? byte = some ((lineFeeds s.chars).toList.countP (· < byte)) := by
  have hascending : s.lineBreaks.toList.Pairwise (· < ·) := by
    rw [s.lineBreaks_eq]
    exact pairwise_lineFeeds _
  have hsplit := filter_append_filter_not (p := (· < byte))
    (hascending.imp fun hlt hb => by simpa using hlt.trans (of_decide_eq_true hb))
  have hsearch := binarySearch_of_append hsplit.symm hascending
    (fun n hn => by simpa using (List.mem_filter.mp hn).2)
    (fun n hn => by simpa using (List.mem_filter.mp hn).2)
  rw [← List.countP_eq_length_filter, s.lineBreaks_eq] at hsearch
  rw [lineOfByte?, if_pos h, s.lineBreaks_eq]
  rcases hsearch with hfound | hmissing
  · rw [hfound]
    rfl
  · rw [hmissing]
    rfl

/-- A byte stands on the line after as many line feeds as there are in the characters before it,
also if there are more characters before it, as long as none of these is a line feed. -/
theorem lineOfByte?_of_append_of_le {byte : ℕ} (h : s.chars = before ++ after)
    (hsize : byte ≤ s.size) (hbefore : byteLength before ≤ byte)
    (hafter : ∀ n ∈ (lineFeeds after).toList, byte ≤ byteLength before + n) :
    s.lineOfByte? byte = some (before.count '\n') := by
  have hfront : (lineFeeds before).toList.countP (· < byte) = before.count '\n' := by
    rw [← length_toList_lineFeeds, List.countP_eq_length]
    intro n hn
    simpa using (lt_of_mem_lineFeeds hn).trans_le hbefore
  have hback : ((lineFeeds after).toList.map (byteLength before + ·)).countP (· < byte) = 0 := by
    rw [List.countP_eq_zero]
    intro n hn
    obtain ⟨m, hm, rfl⟩ := List.mem_map.mp hn
    simpa using hafter m hm
  rw [lineOfByte?_eq_countP hsize, h, toList_lineFeeds_append, List.countP_append, hfront, hback,
    Nat.add_zero]

theorem lineOfByte?_of_append (h : s.chars = before ++ after) :
    s.lineOfByte? (byteLength before) = some (before.count '\n') := by
  refine lineOfByte?_of_append_of_le h ?_ le_rfl fun n _ => Nat.le_add_right _ _
  rw [size, h, byteLength_append]
  exact Nat.le_add_right _ _

theorem lineStart?_of_append (h : s.chars = before ++ after) :
    s.lineStart? (before.count '\n') = some (byteLength (fullLines before)) := by
  rw [lineStart?, ← count_fullLines]
  rcases fullLines_eq_nil_or_concat before with hnil | ⟨front, hfront⟩
  · rw [hnil]
    rfl
  · -- The line starts behind the line feed that has as many before it as there are in `front`.
    have hchars : s.text.toList = front ++ '\n' :: (lastLine before ++ after) := by
      have hbefore := fullLines_append_lastLine before
      rw [hfront] at hbefore
      rw [← chars, h]
      nth_rewrite 1 [← hbefore]
      simp
    have hbreak : s.lineBreaks[front.count '\n']? = some (byteLength front) := by
      rw [← Array.getElem?_toList, s.lineBreaks_eq, hchars, toList_lineFeeds_append,
        List.getElem?_append_right (by rw [length_toList_lineFeeds]), length_toList_lineFeeds,
        toList_lineFeeds_cons]
      simp
    have hcount : (front ++ ['\n']).count '\n' = front.count '\n' + 1 := by simp
    rw [hfront, hcount, if_neg (Nat.succ_ne_zero _), Nat.add_sub_cancel, hbreak]
    simp [Char.utf8Size]

/-- **The place of a byte.** A byte that begins a character, or that ends the text, stands on the
line after as many line feeds as there are before it, and in the column after as many characters as
there are before it behind the last of them. -/
theorem lineColumn?_of_append (h : s.chars = before ++ after) :
    s.lineColumn? (byteLength before) =
      some (before.count '\n' + 1, (lastLine before).length + 1) := by
  have hslice : s.slice? (byteLength (fullLines before)) (byteLength before) =
      some (lastLine before) := by
    rw [slice?, h, sliceBytes?_eq_some_iff]
    refine ⟨fullLines before, after, by rw [fullLines_append_lastLine], rfl, ?_⟩
    rw [← byteLength_append, fullLines_append_lastLine]
  simp [lineColumn?, lineOfByte?_of_append h, lineStart?_of_append h, hslice]

end Source

end ViewLang

/-!
# Sets of characters

A property of characters is given as a table: the ranges of code points that have it, in ascending
order.
-/

namespace ViewLang

/-- A set of characters, as ranges of code points with both ends included. The ranges are in
ascending order and do not overlap. -/
structure CharSet where
  ranges : List (Nat × Nat)

/-- Whether the character is in the set: the first range that does not end before it decides. -/
def CharSet.contains (s : CharSet) (c : Char) : Bool :=
  (s.ranges.find? fun r => c.toNat ≤ r.2).any fun r => r.1 ≤ c.toNat

/-- A character of the set lies in one of its ranges. -/
theorem CharSet.exists_range_of_contains {s : CharSet} {c : Char} (h : s.contains c = true) :
    ∃ r ∈ s.ranges, r.1 ≤ c.toNat ∧ c.toNat ≤ r.2 := by
  obtain ⟨r, hr, hlo⟩ := (Option.any_eq_true _ _).1 h
  exact ⟨r, List.mem_of_find?_eq_some hr, by simpa using hlo, by simpa using List.find?_some hr⟩

/-- Where no range of the set has a code point from `lo` to `hi`, no such character is in it. -/
theorem CharSet.contains_eq_false_of_gap {s : CharSet} {c : Char} {lo hi : Nat}
    (hgap : s.ranges.all (fun r => r.2 < lo || hi < r.1) = true) (hlo : lo ≤ c.toNat)
    (hhi : c.toNat ≤ hi) : s.contains c = false := by
  rw [Bool.eq_false_iff]
  intro hc
  obtain ⟨r, hr, hstart, hstop⟩ := exists_range_of_contains hc
  have houtside : r.2 < lo ∨ hi < r.1 := by simpa using List.all_eq_true.mp hgap r hr
  omega

end ViewLang

/-!
# Searching ascending numbers

A number is searched among ascending ones by halving the range in which it can stand. Where it is
missing, the search still tells where it would have to be put in.
-/

namespace ViewLang

/-- Searches ascending numbers for `x`. The answer is the index at which it stands, or, as an error,
the index at which it could be put in. -/
def binarySearch (xs : Array Nat) (x : Nat) : Except Nat Nat :=
  go 0 xs.size (Nat.le_refl _)
where
  /-- Searches from index `low` up to but not including `high`. -/
  go (low high : Nat) (h : high ≤ xs.size) : Except Nat Nat :=
    if hlow : low < high then
      let middle := (low + high) / 2
      have hmiddle : middle < xs.size := by omega
      match compare xs[middle] x with
      | .lt => go (middle + 1) high h
      | .eq => .ok middle
      | .gt => go low middle (Nat.le_of_lt hmiddle)
    else
      .error low
  termination_by high - low

section Cut

variable {xs : Array Nat} {x cut : Nat}

/-- Where the numbers below `x` are those before index `cut`, and `x` can stand nowhere else, the
search ends there. -/
private theorem binarySearch_go_of_cut
    (hbelow : ∀ (i : Nat) (hi : i < xs.size), xs[i] < x ↔ i < cut)
    (hat : ∀ (i : Nat) (hi : i < xs.size), xs[i] = x → i = cut) (low high : Nat)
    (h : high ≤ xs.size) (hlow : low ≤ cut) (hhigh : cut ≤ high) :
    binarySearch.go xs x low high h = .ok cut ∨ binarySearch.go xs x low high h = .error cut := by
  fun_induction binarySearch.go xs x low high h with
  | case1 low high h hrange middle hmiddle hcompare ih =>
    have := (hbelow middle hmiddle).mp (Nat.compare_eq_lt.mp hcompare)
    exact ih (by omega) hhigh
  | case2 low high h hrange middle hmiddle hcompare =>
    exact .inl (by rw [hat middle hmiddle (Nat.compare_eq_eq.mp hcompare)])
  | case3 low high h hrange middle hmiddle hcompare ih =>
    have hgt := Nat.compare_eq_gt.mp hcompare
    have := (not_congr (hbelow middle hmiddle)).mp (Nat.lt_asymm hgt)
    exact ih hlow (by omega)
  | case4 low high h hrange =>
    exact .inr (by rw [show low = cut by omega])

/-- **The search finds the cut.** If `front` are the ascending numbers below `x`, then their number
is the answer, whether `x` stands behind them or not. -/
theorem binarySearch_of_append {front back : List Nat} (hxs : xs.toList = front ++ back)
    (hascending : xs.toList.Pairwise (· < ·)) (hfront : ∀ n ∈ front, n < x)
    (hback : ∀ n ∈ back, x ≤ n) :
    binarySearch xs x = .ok front.length ∨ binarySearch xs x = .error front.length := by
  have hbelow : ∀ (i : Nat) (hi : i < xs.size), xs[i] < x ↔ i < front.length := by
    intro i hi
    have hget : (front ++ back)[i]? = some xs[i] := by
      rw [← hxs, Array.getElem?_toList, Array.getElem?_eq_getElem hi]
    rw [List.getElem?_append] at hget
    split at hget
    · next h => exact iff_of_true (hfront _ (List.mem_of_getElem? hget)) h
    · next h => exact iff_of_false (Nat.not_lt.mpr (hback _ (List.mem_of_getElem? hget))) h
  refine binarySearch_go_of_cut hbelow (fun i hi hx => ?_) 0 xs.size (Nat.le_refl _)
    (Nat.zero_le _) ?_
  · -- A number between the cut and `x` would be below `x`.
    have hle : front.length ≤ i :=
      Nat.not_lt.mp fun hlt => absurd ((hbelow i hi).mpr hlt) (by omega)
    refine (Nat.eq_or_lt_of_le hle).elim Eq.symm fun hlt => ?_
    have hless := List.pairwise_iff_getElem.mp hascending front.length i (by simp; omega)
      (by simpa using hi) hlt
    simp only [Array.getElem_toList, hx] at hless
    exact absurd ((hbelow _ (by omega)).mp hless) (Nat.lt_irrefl _)
  · rw [← Array.length_toList, hxs, List.length_append]
    omega

end Cut

end ViewLang

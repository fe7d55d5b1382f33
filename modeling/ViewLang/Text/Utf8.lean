/-!
# Texts measured in bytes

Offsets into a text count the bytes of its UTF-8 form, while the text itself is read as a list of
characters. This module measures characters in bytes and cuts a text at byte offsets. A cut that
falls inside a character, or beyond the end, gives `none`.
-/

namespace ViewLang

/-- The number of bytes that the characters take in UTF-8. -/
def byteLength (cs : List Char) : Nat :=
  cs.foldr (fun c n => c.utf8Size + n) 0

@[simp] theorem byteLength_nil : byteLength [] = 0 := rfl

@[simp] theorem byteLength_cons (c : Char) (cs : List Char) :
    byteLength (c :: cs) = c.utf8Size + byteLength cs := rfl

@[simp] theorem byteLength_append (cs ds : List Char) :
    byteLength (cs ++ ds) = byteLength cs + byteLength ds := by
  induction cs with
  | nil => simp
  | cons c cs ih => rw [List.cons_append, byteLength_cons, byteLength_cons, ih, Nat.add_assoc]

theorem byteLength_pos_iff {cs : List Char} : 0 < byteLength cs ↔ cs ≠ [] := by
  cases cs with
  | nil => simp
  | cons c cs => have := c.utf8Size_pos; simp; omega

/-- Of two starts of a text, the longer one goes on from the shorter one. -/
theorem exists_append_of_byteLength_le {cs ds front back : List Char}
    (h : cs ++ ds = front ++ back) (hle : byteLength cs ≤ byteLength front) :
    ∃ mid, front = cs ++ mid ∧ ds = mid ++ back := by
  rcases List.append_eq_append_iff.mp h with ⟨mid, hfront, hds⟩ | ⟨mid, hcs, hback⟩
  · exact ⟨mid, hfront, hds⟩
  · have hmid : mid = [] := by
      rw [hcs, byteLength_append] at hle
      refine Decidable.byContradiction fun hne => ?_
      have := byteLength_pos_iff.mpr hne
      omega
    subst hmid
    exact ⟨[], by simpa using hcs.symm, by simpa using hback.symm⟩

/-- Of two starts of a text of one length, each is the other. -/
theorem append_inj_of_byteLength_eq {cs ds front back : List Char} (h : cs ++ ds = front ++ back)
    (heq : byteLength cs = byteLength front) : cs = front ∧ ds = back := by
  obtain ⟨mid, rfl, rfl⟩ := exists_append_of_byteLength_le h (Nat.le_of_eq heq)
  have hmid : mid = [] := by
    refine Decidable.byContradiction fun hne => ?_
    have := byteLength_pos_iff.mpr hne
    rw [byteLength_append] at heq
    omega
  subst hmid
  exact ⟨(List.append_nil cs).symm, rfl⟩

/-- The characters after the first `n` bytes. -/
def dropBytes? : Nat → List Char → Option (List Char)
  | 0, cs => some cs
  | _ + 1, [] => none
  | n + 1, c :: cs => if c.utf8Size ≤ n + 1 then dropBytes? (n + 1 - c.utf8Size) cs else none

/-- The characters that make up the first `n` bytes. -/
def takeBytes? (n : Nat) (cs : List Char) : Option (List Char) :=
  go [] n cs
where
  /-- Moves characters onto `taken`, newest first, until `n` bytes are used up. -/
  go (taken : List Char) : Nat → List Char → Option (List Char)
    | 0, _ => some taken.reverse
    | _ + 1, [] => none
    | n + 1, c :: cs =>
      if c.utf8Size ≤ n + 1 then go (c :: taken) (n + 1 - c.utf8Size) cs else none

/-- The characters from byte `start` up to byte `stop`. Both have to be character boundaries, in
order and inside the text. -/
def sliceBytes? (cs : List Char) (start stop : Nat) : Option (List Char) :=
  if start ≤ stop then (dropBytes? start cs).bind (takeBytes? (stop - start)) else none

/-! ### Cuts are exactly the character boundaries -/

theorem dropBytes?_eq_some_iff {n : Nat} {cs rest : List Char} :
    dropBytes? n cs = some rest ↔ ∃ front, cs = front ++ rest ∧ byteLength front = n := by
  fun_induction dropBytes? n cs with
  | case1 cs =>
    refine ⟨fun h => ⟨[], by simp_all, rfl⟩, ?_⟩
    rintro ⟨front, rfl, h⟩
    cases front with
    | nil => rfl
    | cons c front => have := c.utf8Size_pos; simp at h; omega
  | case2 n =>
    refine ⟨by simp, ?_⟩
    rintro ⟨front, h, hn⟩
    simp_all
  | case3 n c cs hc ih =>
    rw [ih]
    clear ih
    constructor
    · rintro ⟨front, rfl, hn⟩
      refine ⟨c :: front, rfl, ?_⟩
      rw [byteLength_cons, hn]
      omega
    · rintro ⟨front, h, hn⟩
      cases front with
      | nil => simp at hn
      | cons d front =>
        obtain ⟨rfl, rfl⟩ := List.cons.inj h
        refine ⟨front, rfl, ?_⟩
        rw [byteLength_cons] at hn
        omega
  | case4 n c cs hc =>
    refine ⟨by simp, ?_⟩
    rintro ⟨front, h, hn⟩
    cases front with
    | nil => simp at hn
    | cons d front =>
      obtain ⟨rfl, rfl⟩ := List.cons.inj h
      rw [byteLength_cons] at hn
      omega

private theorem takeBytes?_go_eq_some_iff {taken cs front : List Char} {n : Nat} :
    takeBytes?.go taken n cs = some front ↔
      ∃ mid rest, front = taken.reverse ++ mid ∧ cs = mid ++ rest ∧ byteLength mid = n := by
  fun_induction takeBytes?.go taken n cs with
  | case1 taken cs =>
    constructor
    · intro h
      exact ⟨[], cs, by simp_all, rfl, rfl⟩
    · rintro ⟨mid, rest, rfl, rfl, h⟩
      cases mid with
      | nil => simp
      | cons c mid => have := c.utf8Size_pos; simp at h; omega
  | case2 taken n =>
    refine ⟨by simp, ?_⟩
    rintro ⟨mid, rest, rfl, h, hn⟩
    simp_all
  | case3 taken n c cs hc ih =>
    rw [ih]
    clear ih
    constructor
    · rintro ⟨mid, rest, rfl, rfl, hn⟩
      refine ⟨c :: mid, rest, by simp, rfl, ?_⟩
      rw [byteLength_cons, hn]
      omega
    · rintro ⟨mid, rest, rfl, h, hn⟩
      cases mid with
      | nil => simp at hn
      | cons d mid =>
        obtain ⟨rfl, rfl⟩ := List.cons.inj h
        refine ⟨mid, rest, by simp, rfl, ?_⟩
        rw [byteLength_cons] at hn
        omega
  | case4 taken n c cs hc =>
    refine ⟨by simp, ?_⟩
    rintro ⟨mid, rest, rfl, h, hn⟩
    cases mid with
    | nil => simp at hn
    | cons d mid =>
      obtain ⟨rfl, rfl⟩ := List.cons.inj h
      rw [byteLength_cons] at hn
      omega

theorem takeBytes?_eq_some_iff {n : Nat} {cs front : List Char} :
    takeBytes? n cs = some front ↔ ∃ rest, cs = front ++ rest ∧ byteLength front = n := by
  rw [takeBytes?, takeBytes?_go_eq_some_iff]
  constructor
  · rintro ⟨mid, rest, rfl, h⟩
    exact ⟨rest, h⟩
  · rintro ⟨rest, h⟩
    exact ⟨front, rest, rfl, h⟩

/-- A slice is present exactly when both offsets are boundaries in order, and then it is what lies
between them. -/
theorem sliceBytes?_eq_some_iff {cs mid : List Char} {start stop : Nat} :
    sliceBytes? cs start stop = some mid ↔
      ∃ front rest, cs = front ++ mid ++ rest ∧ byteLength front = start ∧
        start + byteLength mid = stop := by
  simp only [sliceBytes?]
  split
  · rw [Option.bind_eq_some_iff]
    constructor
    · rintro ⟨tail, hd, ht⟩
      obtain ⟨front, rfl, hf⟩ := dropBytes?_eq_some_iff.1 hd
      obtain ⟨rest, rfl, hm⟩ := takeBytes?_eq_some_iff.1 ht
      exact ⟨front, rest, by simp, hf, by omega⟩
    · rintro ⟨front, rest, rfl, hf, hm⟩
      exact ⟨mid ++ rest, dropBytes?_eq_some_iff.2 ⟨front, by simp, hf⟩,
        takeBytes?_eq_some_iff.2 ⟨rest, rfl, by omega⟩⟩
  · refine ⟨by simp, ?_⟩
    rintro ⟨front, rest, -, hf, hm⟩
    omega

example : sliceBytes? ['a', 'é', 'b'] 1 3 = some ['é'] := by decide

example : sliceBytes? ['a', 'é', 'b'] 2 3 = none := by decide

end ViewLang

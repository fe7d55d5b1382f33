import ViewLang.Execution
import ViewLang.Proofs.Lexing
import ViewLang.Proofs.Streaming

/-!
# JSON text is unambiguous

Two values with the same text are the same value, and so are two lists of events. Nothing in the
text says how long its parts are, so the argument goes from left to right: of two texts that agree,
each starting with the form of some value and going on in any way, the two forms are those of the
same value, and what is left agrees again.

* **Strings.** An escape tells which character it stands for and where it ends (`unescape?_append`).
  A quote ends the string, since no escape starts with one.
* **Numbers.** The digits of a number are as many as there are, so what follows must not go on with
  a digit (`Stops Char.isDigit`). Behind a value there is a comma, a line feed or nothing.
* **Arrays and objects.** The first character tells the sort of a value, the second whether an array
  or an object is empty. Another item follows exactly where there is a comma, and a line feed ends
  the list. The blanks at the start of a line depend on the depth alone, which is known at each
  place.
-/

namespace ViewLang

open Lookahead (Stops)

namespace Json

/-! ### Strings -/

section Strings

variable {c d : Char} {cs ds rest more : List Char}

/-- The value of a hexadecimal digit. -/
def hexValue (c : Char) : ℕ :=
  if c.isDigit then c.toNat - '0'.toNat else c.toNat - 'a'.toNat + 10

/-- The character whose escape goes on like this behind the backslash, and what follows the escape.
-/
def escaped? : List Char → Option (Char × List Char)
  | 'u' :: '0' :: '0' :: high :: low :: rest =>
    some (Char.ofNat (16 * hexValue high + hexValue low), rest)
  | 'b' :: rest => some ('\x08', rest)
  | 'f' :: rest => some ('\x0c', rest)
  | 'n' :: rest => some ('\n', rest)
  | 'r' :: rest => some ('\r', rest)
  | 't' :: rest => some ('\t', rest)
  | c :: rest => some (c, rest)
  | [] => none

/-- The first character of a string, and what follows its written form. -/
def unescape? : List Char → Option (Char × List Char)
  | [] => none
  | c :: rest => if c = '\\' then escaped? rest else some (c, rest)

theorem hexValue_digitChar {n : ℕ} (h : n < 16) : hexValue (Nat.digitChar n) = n := by
  revert n
  decide

/-- An escape tells which character it stands for, whatever follows it. -/
theorem unescape?_append (c : Char) (rest : List Char) :
    unescape? (escape c ++ rest) = some (c, rest) := by
  rw [escape]
  split
  · next h => rcases h with rfl | rfl <;> rfl
  -- Five control characters have escapes of their own.
  iterate 5
    split
    · next h => subst h; rfl
  split
  · have hcode : 16 * (c.toNat / 16) + c.toNat % 16 = c.toNat := Nat.div_add_mod _ _
    simp only [controlEscape, List.cons_append, List.nil_append, unescape?, escaped?, if_true,
      hexValue_digitChar (show c.toNat / 16 < 16 by omega),
      hexValue_digitChar (Nat.mod_lt c.toNat (by decide)), hcode, Char.ofNat_toNat]
  · next h _ _ _ _ _ _ =>
    rw [List.singleton_append, unescape?, if_neg fun hc => h (.inr hc)]

theorem head?_escape_append_ne (c : Char) (rest : List Char) :
    (escape c ++ rest).head? ≠ some '"' := by
  rw [escape]
  repeat' split
  all_goals simp_all [controlEscape]

/-- A string is told from what follows it by the first quote that is not escaped. -/
theorem flatMap_escape_append_inj
    (h : cs.flatMap escape ++ '"' :: rest = ds.flatMap escape ++ '"' :: more) :
    cs = ds ∧ rest = more := by
  induction cs generalizing ds with
  | nil =>
    cases ds with
    | nil => exact ⟨rfl, (List.cons.inj h).2⟩
    | cons d ds =>
      rw [List.flatMap_cons, List.append_assoc] at h
      exact absurd (congrArg List.head? h).symm (head?_escape_append_ne d _)
  | cons c cs ih =>
    cases ds with
    | nil =>
      rw [List.flatMap_cons, List.append_assoc] at h
      exact absurd (congrArg List.head? h) (head?_escape_append_ne c _)
    | cons d ds =>
      rw [List.flatMap_cons, List.flatMap_cons, List.append_assoc, List.append_assoc] at h
      have hread := congrArg unescape? h
      rw [unescape?_append, unescape?_append] at hread
      obtain ⟨rfl, hrest⟩ := Prod.mk.inj (Option.some.inj hread)
      obtain ⟨rfl, rfl⟩ := ih hrest
      exact ⟨rfl, rfl⟩

theorem quote_append_inj {s t : String}
    (h : (quote s).toList ++ rest = (quote t).toList ++ more) : s = t ∧ rest = more := by
  simp only [quote, String.toList_ofList, List.cons_append, List.append_assoc,
    List.cons.injEq, true_and, List.nil_append] at h
  obtain ⟨hchars, hrest⟩ := flatMap_escape_append_inj h
  exact ⟨String.toList_inj.mp hchars, hrest⟩

end Strings

/-! ### Numbers -/

section Numbers

variable {rest more : List Char}

/-- A number is told from what follows it by the first character that is no digit. -/
theorem repr_append_inj {m n : ℕ} (hrest : Stops Char.isDigit rest)
    (hmore : Stops Char.isDigit more) (h : m.repr.toList ++ rest = n.repr.toList ++ more) :
    m = n ∧ rest = more := by
  have hdigits : ∀ k : ℕ, ∀ c ∈ k.repr.toList, c.isDigit = true := by
    intro k c hc
    rw [Nat.toList_repr] at hc
    exact Nat.isDigit_of_mem_toDigits (by decide) (by decide) hc
  obtain ⟨hrepr, hrest⟩ :=
    Lookahead.append_inj_of_stops (hdigits m) (hdigits n) hrest hmore h
  exact ⟨Nat.repr_inj.mp (String.toList_inj.mp hrepr), hrest⟩

theorem toList_toString_ofNat (n : ℕ) :
    (toString (Int.ofNat n)).toList = n.repr.toList := rfl

theorem toList_toString_negSucc (n : ℕ) :
    (toString (Int.negSucc n)).toList = '-' :: (n + 1).repr.toList := by
  simp [toString, Int.repr]

theorem exists_isDigit_repr (n : ℕ) : ∃ c cs, n.repr.toList = c :: cs ∧ c.isDigit = true := by
  obtain ⟨c, cs, hcs⟩ := List.exists_cons_of_ne_nil (Nat.toDigits_ne_nil (b := 10) (n := n))
  have hc : c ∈ Nat.toDigits 10 n := by simp [hcs]
  exact ⟨c, cs, by rw [Nat.toList_repr, hcs],
    Nat.isDigit_of_mem_toDigits (by decide) (by decide) hc⟩

/-- A numeral starts with a digit, or with a sign. -/
theorem exists_head_toString (i : ℤ) :
    ∃ c cs, (toString i).toList = c :: cs ∧ (c.isDigit = true ∨ c = '-') := by
  cases i with
  | ofNat n =>
    obtain ⟨c, cs, hcs, hc⟩ := exists_isDigit_repr n
    exact ⟨c, cs, by rw [toList_toString_ofNat, hcs], .inl hc⟩
  | negSucc n => exact ⟨_, _, toList_toString_negSucc n, .inr rfl⟩

/-- A sign is no digit, so it tells the negative numbers from the others. -/
private theorem repr_append_ne (m : ℕ) (h : m.repr.toList ++ rest = '-' :: more) : False := by
  obtain ⟨c, cs, hcs, hc⟩ := exists_isDigit_repr m
  rw [hcs, List.cons_append] at h
  obtain ⟨rfl, -⟩ := List.cons.inj h
  cases hc

theorem toString_append_inj {i j : ℤ} (hrest : Stops Char.isDigit rest)
    (hmore : Stops Char.isDigit more)
    (h : (toString i).toList ++ rest = (toString j).toList ++ more) : i = j ∧ rest = more := by
  cases i with
  | ofNat m =>
    cases j with
    | ofNat n =>
      obtain ⟨rfl, hrest⟩ := repr_append_inj hrest hmore h
      exact ⟨rfl, hrest⟩
    | negSucc n =>
      rw [toList_toString_ofNat, toList_toString_negSucc] at h
      exact (repr_append_ne m h).elim
  | negSucc m =>
    rw [toList_toString_negSucc] at h
    cases j with
    | ofNat n =>
      rw [toList_toString_ofNat] at h
      exact (repr_append_ne n h.symm).elim
    | negSucc n =>
      rw [toList_toString_negSucc] at h
      obtain ⟨hnat, hrest⟩ := repr_append_inj hrest hmore (List.cons.inj h).2
      obtain rfl := Nat.succ.inj hnat
      exact ⟨rfl, hrest⟩

end Numbers

/-! ### Values -/

mutual

/-- What has been written before stands in front. -/
theorem write_eq (depth : ℕ) (out : String) :
    ∀ j : Json, j.write depth out = out ++ j.write depth ""
  | string value => by simp [write]
  | number value => by simp [write]
  | array [] => by simp [write]
  | array (item :: items) => by
    rw [write, writeItems_eq, write_eq, write, writeItems_eq _ (write _ _ _), write_eq _ (_ ++ _)]
    simp [String.append_assoc]
  | object [] => by simp [write]
  | object ((name, value) :: fields) => by
    rw [write, writeFields_eq, write_eq, write, writeFields_eq _ (write _ _ _),
      write_eq _ (_ ++ _)]
    simp [String.append_assoc]

theorem writeItems_eq (depth : ℕ) (out : String) :
    ∀ items, writeItems depth out items = out ++ writeItems depth "" items
  | [] => by simp [writeItems]
  | item :: items => by
    rw [writeItems, writeItems_eq, write_eq, writeItems, writeItems_eq _ (write _ _ _),
      write_eq _ (_ ++ _)]
    simp [String.append_assoc]

theorem writeFields_eq (depth : ℕ) (out : String) :
    ∀ fields, writeFields depth out fields = out ++ writeFields depth "" fields
  | [] => by simp [writeFields]
  | (name, value) :: fields => by
    rw [writeFields, writeFields_eq, write_eq, writeFields, writeFields_eq _ (write _ _ _),
      write_eq _ (_ ++ _)]
    simp [String.append_assoc]

end

/-- The characters of a value that stands `depth` levels deep. -/
def charsAt (depth : ℕ) (j : Json) : List Char :=
  (j.write depth "").toList

/-- The characters of the items of an array after the first. -/
def itemCharsAt (depth : ℕ) (items : List Json) : List Char :=
  (writeItems depth "" items).toList

/-- The characters of the fields of an object after the first. -/
def fieldCharsAt (depth : ℕ) (fields : List (String × Json)) : List Char :=
  (writeFields depth "" fields).toList

section Forms

variable (depth : ℕ) (out : String)

@[simp] theorem toList_write (j : Json) :
    (j.write depth out).toList = out.toList ++ charsAt depth j := by
  rw [write_eq, String.toList_append, charsAt]

@[simp] theorem toList_writeItems (items : List Json) :
    (writeItems depth out items).toList = out.toList ++ itemCharsAt depth items := by
  rw [writeItems_eq, String.toList_append, itemCharsAt]

@[simp] theorem toList_writeFields (fields : List (String × Json)) :
    (writeFields depth out fields).toList = out.toList ++ fieldCharsAt depth fields := by
  rw [writeFields_eq, String.toList_append, fieldCharsAt]

theorem charsAt_string (value : String) :
    charsAt depth (string value) = (quote value).toList := by
  simp [charsAt, write]

theorem charsAt_number (value : ℤ) :
    charsAt depth (number value) = (toString value).toList := by
  simp [charsAt, write]

theorem charsAt_array_nil : charsAt depth (array []) = ['[', ']'] := by
  simp [charsAt, write]

theorem charsAt_array_cons (item : Json) (items : List Json) :
    charsAt depth (array (item :: items)) =
      '[' :: ((newLine (depth + 1)).toList ++ (charsAt (depth + 1) item ++
        (itemCharsAt (depth + 1) items ++ ((newLine depth).toList ++ [']'])))) := by
  rw [charsAt, write]
  simp

theorem charsAt_object_nil : charsAt depth (object []) = ['\x7b', '\x7d'] := by
  simp [charsAt, write]

theorem charsAt_object_cons (name : String) (value : Json) (fields : List (String × Json)) :
    charsAt depth (object ((name, value) :: fields)) =
      '\x7b' :: ((newLine (depth + 1)).toList ++ ((quote name).toList ++ (':' :: ' ' ::
        (charsAt (depth + 1) value ++ (fieldCharsAt (depth + 1) fields ++
          ((newLine depth).toList ++ ['\x7d'])))))) := by
  rw [charsAt, write]
  simp

theorem itemCharsAt_nil : itemCharsAt depth [] = [] := by
  simp [itemCharsAt, writeItems]

theorem itemCharsAt_cons (item : Json) (items : List Json) :
    itemCharsAt depth (item :: items) =
      ',' :: ((newLine depth).toList ++ (charsAt depth item ++ itemCharsAt depth items)) := by
  rw [itemCharsAt, writeItems]
  simp

theorem fieldCharsAt_nil : fieldCharsAt depth [] = [] := by
  simp [fieldCharsAt, writeFields]

theorem fieldCharsAt_cons (name : String) (value : Json) (fields : List (String × Json)) :
    fieldCharsAt depth ((name, value) :: fields) =
      ',' :: ((newLine depth).toList ++ ((quote name).toList ++ (':' :: ' ' ::
        (charsAt depth value ++ fieldCharsAt depth fields)))) := by
  rw [fieldCharsAt, writeFields]
  simp

theorem exists_newLine_eq : ∃ blanks, (newLine depth).toList = '\n' :: blanks := by
  induction depth with
  | zero => exact ⟨[], rfl⟩
  | succ depth ih =>
    obtain ⟨blanks, hblanks⟩ := ih
    refine ⟨blanks ++ [' ', ' '], ?_⟩
    have hsucc : newLine (depth + 1) = newLine depth ++ "  " := Nat.fold_succ ..
    rw [hsucc, String.toList_append, hblanks]
    rfl

end Forms

/-! ### What a value starts with -/

/-- The sorts of values. -/
inductive Variety where
  | string
  | number
  | array
  | object
deriving DecidableEq

/-- The sort of a value. -/
def variety : Json → Variety
  | string _ => .string
  | number _ => .number
  | array _ => .array
  | object _ => .object

/-- The sort of the values that start with a character. -/
def varietyOf (c : Char) : Variety :=
  if c = '"' then .string else if c = '[' then .array else if c = '\x7b' then .object else .number

theorem exists_head_charsAt (depth : ℕ) (j : Json) :
    ∃ c cs, charsAt depth j = c :: cs ∧ varietyOf c = j.variety := by
  cases j with
  | string value => exact ⟨'"', _, by rw [charsAt_string, quote, String.toList_ofList], rfl⟩
  | number value =>
    obtain ⟨c, cs, hcs, hc⟩ := exists_head_toString value
    refine ⟨c, cs, by rw [charsAt_number, hcs], ?_⟩
    rcases hc with hc | rfl
    · have hother : c ≠ '"' ∧ c ≠ '[' ∧ c ≠ '\x7b' := by
        refine ⟨?_, ?_, ?_⟩ <;> rintro rfl <;> cases hc
      rw [varietyOf, if_neg hother.1, if_neg hother.2.1, if_neg hother.2.2, variety]
    · rfl
  | array items =>
    cases items with
    | nil => exact ⟨_, _, charsAt_array_nil depth, rfl⟩
    | cons item items => exact ⟨_, _, charsAt_array_cons depth item items, rfl⟩
  | object fields =>
    cases fields with
    | nil => exact ⟨_, _, charsAt_object_nil depth, rfl⟩
    | cons field fields => exact ⟨_, _, charsAt_object_cons depth field.1 field.2 fields, rfl⟩

section Reading

variable {depth : ℕ} {i j : Json} {rest more : List Char}

/-- The first character tells the sort of a value. -/
theorem variety_eq_of_append_eq (h : charsAt depth i ++ rest = charsAt depth j ++ more) :
    i.variety = j.variety := by
  obtain ⟨c, cs, hi, hc⟩ := exists_head_charsAt depth i
  obtain ⟨d, ds, hj, hd⟩ := exists_head_charsAt depth j
  rw [hi, hj, List.cons_append, List.cons_append] at h
  rw [← hc, ← hd, (List.cons.inj h).1]

/-- Behind a value there is a comma or a line feed. -/
theorem stops_itemCharsAt (items : List Json) :
    Stops Char.isDigit (itemCharsAt depth items ++ '\n' :: rest) := by
  cases items with
  | nil =>
    rw [itemCharsAt_nil, List.nil_append, Lookahead.stops_cons]
    decide
  | cons item items =>
    rw [itemCharsAt_cons, List.cons_append, Lookahead.stops_cons]
    decide

theorem stops_fieldCharsAt (fields : List (String × Json)) :
    Stops Char.isDigit (fieldCharsAt depth fields ++ '\n' :: rest) := by
  cases fields with
  | nil =>
    rw [fieldCharsAt_nil, List.nil_append, Lookahead.stops_cons]
    decide
  | cons field fields =>
    rw [fieldCharsAt_cons, List.cons_append, Lookahead.stops_cons]
    decide

end Reading

mutual

/-- **A value is told from what follows it**, as long as that is no further digit. -/
theorem charsAt_append_inj (depth : ℕ) : ∀ (i j : Json) {rest more : List Char},
    Stops Char.isDigit rest → Stops Char.isDigit more →
      charsAt depth i ++ rest = charsAt depth j ++ more → i = j ∧ rest = more
  | string s, j, rest, more, _, _, h => by
    cases j with
    | string t =>
      rw [charsAt_string, charsAt_string] at h
      obtain ⟨rfl, hrest⟩ := quote_append_inj h
      exact ⟨rfl, hrest⟩
    | number | array | object => cases variety_eq_of_append_eq h
  | number m, j, rest, more, hrest, hmore, h => by
    cases j with
    | number n =>
      rw [charsAt_number, charsAt_number] at h
      obtain ⟨rfl, hrest⟩ := toString_append_inj hrest hmore h
      exact ⟨rfl, hrest⟩
    | string | array | object => cases variety_eq_of_append_eq h
  | array [], j, rest, more, _, _, h => by
    obtain ⟨blanks, hblanks⟩ := exists_newLine_eq (depth + 1)
    cases j with
    | array others =>
      cases others with
      | nil => exact ⟨rfl, by simpa [charsAt_array_nil] using h⟩
      | cons => simp [charsAt_array_nil, charsAt_array_cons, hblanks] at h
    | string | number | object => cases variety_eq_of_append_eq h
  | array (i :: items), j, rest, more, _, _, h => by
    obtain ⟨blanks, hblanks⟩ := exists_newLine_eq (depth + 1)
    obtain ⟨outer, houter⟩ := exists_newLine_eq depth
    cases j with
    | array others =>
      cases others with
      | nil => simp [charsAt_array_nil, charsAt_array_cons, hblanks] at h
      | cons j others =>
        simp only [charsAt_array_cons, houter, List.cons_append, List.append_assoc,
          List.cons.injEq, true_and, List.append_cancel_left_eq] at h
        obtain ⟨rfl, hitems⟩ := charsAt_append_inj (depth + 1) i j (stops_itemCharsAt items)
          (stops_itemCharsAt others) h
        obtain ⟨rfl, hrest⟩ := itemCharsAt_append_inj (depth + 1) items others hitems
        exact ⟨rfl, by simpa using hrest⟩
    | string | number | object => cases variety_eq_of_append_eq h
  | object [], j, rest, more, _, _, h => by
    obtain ⟨blanks, hblanks⟩ := exists_newLine_eq (depth + 1)
    cases j with
    | object others =>
      cases others with
      | nil => exact ⟨rfl, by simpa [charsAt_object_nil] using h⟩
      | cons field =>
        obtain ⟨name, value⟩ := field
        simp [charsAt_object_nil, charsAt_object_cons, hblanks] at h
    | string | number | array => cases variety_eq_of_append_eq h
  | object ((name, i) :: fields), j, rest, more, _, _, h => by
    obtain ⟨blanks, hblanks⟩ := exists_newLine_eq (depth + 1)
    obtain ⟨outer, houter⟩ := exists_newLine_eq depth
    cases j with
    | object others =>
      cases others with
      | nil => simp [charsAt_object_nil, charsAt_object_cons, hblanks] at h
      | cons field others =>
        obtain ⟨other, j⟩ := field
        simp only [charsAt_object_cons, houter, List.cons_append, List.append_assoc,
          List.cons.injEq, true_and, List.append_cancel_left_eq] at h
        obtain ⟨rfl, hvalue⟩ := quote_append_inj h
        simp only [List.cons.injEq, true_and] at hvalue
        obtain ⟨rfl, hfields⟩ := charsAt_append_inj (depth + 1) i j (stops_fieldCharsAt fields)
          (stops_fieldCharsAt others) hvalue
        obtain ⟨rfl, hrest⟩ := fieldCharsAt_append_inj (depth + 1) fields others hfields
        exact ⟨rfl, by simpa using hrest⟩
    | string | number | array => cases variety_eq_of_append_eq h

/-- The items of an array go on as long as there are commas, up to a line feed. -/
theorem itemCharsAt_append_inj (depth : ℕ) : ∀ (items others : List Json) {rest more : List Char},
    itemCharsAt depth items ++ '\n' :: rest = itemCharsAt depth others ++ '\n' :: more →
      items = others ∧ rest = more
  | [], [], rest, more, h => ⟨rfl, by simpa using h⟩
  | [], _ :: _, rest, more, h => by simp [itemCharsAt_nil, itemCharsAt_cons] at h
  | _ :: _, [], rest, more, h => by simp [itemCharsAt_nil, itemCharsAt_cons] at h
  | i :: items, j :: others, rest, more, h => by
    simp only [itemCharsAt_cons, List.cons_append, List.append_assoc, List.cons.injEq, true_and,
      List.append_cancel_left_eq] at h
    obtain ⟨rfl, hitems⟩ := charsAt_append_inj depth i j (stops_itemCharsAt items)
      (stops_itemCharsAt others) h
    obtain ⟨rfl, hrest⟩ := itemCharsAt_append_inj depth items others hitems
    exact ⟨rfl, hrest⟩

/-- The fields of an object likewise. -/
theorem fieldCharsAt_append_inj (depth : ℕ) :
    ∀ (fields others : List (String × Json)) {rest more : List Char},
    fieldCharsAt depth fields ++ '\n' :: rest = fieldCharsAt depth others ++ '\n' :: more →
      fields = others ∧ rest = more
  | [], [], rest, more, h => ⟨rfl, by simpa using h⟩
  | [], (_, _) :: _, rest, more, h => by simp [fieldCharsAt_nil, fieldCharsAt_cons] at h
  | (_, _) :: _, [], rest, more, h => by simp [fieldCharsAt_nil, fieldCharsAt_cons] at h
  | (name, i) :: fields, (other, j) :: others, rest, more, h => by
    simp only [fieldCharsAt_cons, List.cons_append, List.append_assoc, List.cons.injEq, true_and,
      List.append_cancel_left_eq] at h
    obtain ⟨rfl, hvalue⟩ := quote_append_inj h
    simp only [List.cons.injEq, true_and] at hvalue
    obtain ⟨rfl, hfields⟩ := charsAt_append_inj depth i j (stops_fieldCharsAt fields)
      (stops_fieldCharsAt others) hvalue
    obtain ⟨rfl, hrest⟩ := fieldCharsAt_append_inj depth fields others hfields
    exact ⟨rfl, hrest⟩

end

/-- **A text is the form of at most one value.** -/
theorem pretty_injective : Function.Injective pretty := by
  intro i j h
  have hchars : charsAt 0 i ++ [] = charsAt 0 j ++ [] := by
    rw [List.append_nil, List.append_nil]
    exact congrArg String.toList h
  exact (charsAt_append_inj 0 i j (by simp [Stops]) (by simp [Stops]) hchars).1

end Json

/-! ### Events -/

theorem Literal.toJson_injective : Function.Injective Literal.toJson := by
  intro a b h
  cases a with
  | string s =>
    cases b with
    | string t => simpa [toJson] using h
    | number => simp [toJson] at h
  | number m =>
    cases b with
    | string => simp [toJson] at h
    | number n =>
      have hint : m.toInt = n.toInt := by simpa only [toJson, Json.object.injEq, List.cons.injEq,
        Prod.mk.injEq, Json.number.injEq, true_and, and_true] using h
      rw [Int64.toInt_inj.mp hint]

namespace Node

mutual

private theorem eq_of_toJson_eq : ∀ m n : Node, m.toJson = n.toJson → m = n
  | view xs, n, h => by
    cases n with
    | view ys => rw [eq_of_toJsonAll_eq xs ys (by simpa [toJson] using h)]
    | _ => simp [toJson] at h
  | assignment a v, n, h => by
    cases n with
    | assignment b w => simpa [toJson, Literal.toJson_injective.eq_iff] using h
    | _ => simp [toJson] at h
  | function a xs, n, h => by
    cases n with
    | function b ys =>
      obtain ⟨rfl, hbody⟩ : a = b ∧ toJsonAll xs = toJsonAll ys := by simpa [toJson] using h
      rw [eq_of_toJsonAll_eq xs ys hbody]
    | _ => simp [toJson] at h
  | component a xs, n, h => by
    cases n with
    | component b ys =>
      obtain ⟨rfl, hbody⟩ : a = b ∧ toJsonAll xs = toJsonAll ys := by simpa [toJson] using h
      rw [eq_of_toJsonAll_eq xs ys hbody]
    | _ => simp [toJson] at h
  | call a, n, h => by
    cases n with
    | call b => simpa [toJson] using h
    | _ => simp [toJson] at h
  | text a, n, h => by
    cases n with
    | text b => simpa [toJson] using h
    | _ => simp [toJson] at h
  | button a, n, h => by
    cases n with
    | button b => simpa [toJson] using h
    | _ => simp [toJson] at h

private theorem eq_of_toJsonAll_eq :
    ∀ xs ys : List Node, toJsonAll xs = toJsonAll ys → xs = ys
  | [], [], _ => rfl
  | [], _ :: _, h => by simp [toJsonAll] at h
  | _ :: _, [], h => by simp [toJsonAll] at h
  | x :: xs, y :: ys, h => by
    obtain ⟨hnode, hnodes⟩ := List.cons.inj h
    rw [eq_of_toJson_eq x y hnode, eq_of_toJsonAll_eq xs ys hnodes]

end

theorem toJsonAll_injective : Function.Injective toJsonAll :=
  eq_of_toJsonAll_eq

end Node

namespace Event

/-- The first field tells what happened, and the others are all that the event carries. -/
theorem toJson_injective : Function.Injective toJson := by
  intro e f h
  obtain ⟨htag, hpayload⟩ : e.tag = f.tag ∧ e.payload = f.payload := by simpa [toJson] using h
  cases e <;> cases f <;>
    simp_all [tag, payload, Literal.toJson_injective.eq_iff, Node.toJsonAll_injective.eq_iff]

theorem encode_injective : Function.Injective encode := by
  intro events more h
  have hitems := Json.array.inj (Json.pretty_injective h)
  exact List.map_injective_iff.mpr toJson_injective hitems

end Event

/-! ### Output -/

theorem Writer.printEvents_eq {w : Writer} (h : w.room = none) (events : Array Event) :
    w.printEvents events = (none, w.add (Event.encode events.toList ++ "\n")) := by
  have hroom : (w.add (Event.encode events.toList)).room = none := h
  simp only [printEvents, print_eq h, print_eq hroom, add_add, Prod.map, Option.map_none, id]

/-- **JSON output loses nothing.** Whatever has been written before, printing two lists of events as
JSON leaves the same bytes only if the lists are the same. -/
theorem Writer.written_printEvents_eq_iff (written : ByteArray) (events more : List Event) :
    (({ written } : Writer).printEvents events.toArray).2.written =
        (({ written } : Writer).printEvents more.toArray).2.written ↔ events = more := by
  constructor
  · intro h
    rw [printEvents_eq rfl, printEvents_eq rfl] at h
    have hbytes : written ++ (Event.encode events ++ "\n").toUTF8 =
        written ++ (Event.encode more ++ "\n").toUTF8 := h
    have htext := String.toByteArray_inj.mp ((ByteArray.append_right_inj written).mp hbytes)
    exact Event.encode_injective ((String.append_left_inj "\n").mp htext)
  · rintro rfl
    rfl

end ViewLang

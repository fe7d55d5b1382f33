import Mathlib
import ViewLang.Token.Lexer

/-!
# What a source is read as

Reading a source is a function on its characters; this module describes its result without one.

* **Shape.** `Token.Shaped whole after kind text` says what the text of a token of each kind looks
  like before the characters `after`. Words and numbers are as long as they can be, and a reserved
  word is a keyword if it is whole. The token that is taken from the front is the one of this shape,
  where a word is whole if no character of a word in any script touches it (`first?_of_shaped`).
* **Spelling.** `Token.Spelled before after kind text` asks for less: a reserved word is a keyword
  unless an ASCII digit stands directly before it. In a source that is read this is the same
  (`Token.shaped_iff_spelled`). No token starts with a letter of another script, so none follows a
  word, and what stands before a word ends with a number or with nothing that belongs to a word.
* **Reading.** `Lexed before cs ts` says that the characters `cs`, which follow the characters
  `before`, are blanks and the spelled tokens `ts`.

The main result `tokenize_eq_ok_iff_lexed` is that reading a source succeeds with `ts` exactly when
`ts` is related to its characters. So a source has at most one reading, which is found whenever
there is one.
-/

namespace ViewLang

/-! ### Maximal runs -/

namespace Lookahead

variable {α : Type} {p : α → Bool} {items run rest : List α}

/-- A run of items that satisfy `p` cannot go on into `rest`. -/
def Stops (p : α → Bool) (rest : List α) : Prop :=
  ∀ x ∈ rest.head?, p x = false

@[simp] theorem stops_cons {x : α} : Stops p (x :: rest) ↔ p x = false := by
  simp [Stops]

theorem forall_mem_fst_eatWhile : ∀ x ∈ (eatWhile p items).1, p x = true :=
  fun _ hx => List.mem_takeWhile_imp hx

theorem stops_snd_eatWhile : Stops p (eatWhile p items).2 := by
  intro x hx
  have h := List.head?_dropWhile_not p items
  rw [eatWhile] at hx
  rw [hx] at h
  exact h

/-- A run that cannot go on is taken whole, and nothing after it. -/
theorem eatWhile_append_of_stops (hrun : ∀ x ∈ run, p x = true) (hrest : Stops p rest) :
    eatWhile p (run ++ rest) = (run, rest) := by
  have hnil : rest.takeWhile p = [] ∧ rest.dropWhile p = rest := by
    cases rest with
    | nil => simp
    | cons x rest => simp [stops_cons.mp hrest]
  rw [eatWhile, List.takeWhile_append_of_pos hrun, List.dropWhile_append_of_pos hrun, hnil.1,
    hnil.2, List.append_nil]

/-- A run that cannot go on is told from what follows it. -/
theorem append_inj_of_stops {other more : List α} (hrun : ∀ x ∈ run, p x = true)
    (hother : ∀ x ∈ other, p x = true) (hrest : Stops p rest) (hmore : Stops p more)
    (h : run ++ rest = other ++ more) : run = other ∧ rest = more := by
  have heat := congrArg (eatWhile p) h
  rw [eatWhile_append_of_stops hrun hrest, eatWhile_append_of_stops hother hmore] at heat
  exact Prod.mk.inj heat

end Lookahead

open Lookahead (Stops)

namespace Token

/-! ### Character classes are disjoint -/

section Classes

variable {c : Char}

theorem isWordStart_iff_toNat :
    isWordStart c = true ↔
      65 ≤ c.toNat ∧ c.toNat ≤ 90 ∨ 97 ≤ c.toNat ∧ c.toNat ≤ 122 ∨ c.toNat = 95 := by
  have hunder : c = '_' ↔ c.toNat = 95 := by rw [← Char.toNat_inj]; rfl
  simp only [isWordStart, Char.isAlpha, Char.isUpper, Char.isLower, Bool.or_eq_true,
    Bool.and_eq_true, decide_eq_true_eq, UInt32.le_iff_toNat_le, ge_iff_le, beq_iff_eq, hunder,
    Char.toNat_val, or_assoc]
  rfl

theorem isDigit_iff_toNat : c.isDigit = true ↔ 48 ≤ c.toNat ∧ c.toNat ≤ 57 :=
  Char.isDigit_iff_toNat

theorem isWordChar_iff : isWordChar c = true ↔ isWordStart c = true ∨ c.isDigit = true := by
  simp only [isWordChar, isWordStart, Char.isAlphanum, Bool.or_eq_true]
  exact or_right_comm

theorem isWordStart_eq_false_of_isDigit (h : c.isDigit = true) : isWordStart c = false := by
  rw [Bool.eq_false_iff, ne_eq, isWordStart_iff_toNat]
  rw [isDigit_iff_toNat] at h
  omega

theorem isBlank_eq_false_of_isWordChar (h : isWordChar c = true) : isBlank c = false := by
  rw [isWordChar_iff, isWordStart_iff_toNat, isDigit_iff_toNat] at h
  rw [Bool.eq_false_iff]
  simp only [isBlank, ne_eq, Bool.or_eq_true, Bool.and_eq_true, decide_eq_true_eq, beq_iff_eq]
  omega

theorem isWordChar_eq_false_of_isBlank (h : isBlank c = true) : isWordChar c = false := by
  rw [Bool.eq_false_iff]
  intro hword
  rw [isBlank_eq_false_of_isWordChar hword] at h
  cases h

/-- In ASCII the words of every script are those of names. -/
theorem isScriptChar_eq_isWordChar (hascii : c.toNat < 0x80) : isScriptChar c = isWordChar c := by
  rw [isScriptChar, isAlphanumeric, if_pos hascii, isWordChar]

theorem isScriptChar_of_isWordChar (h : isWordChar c = true) : isScriptChar c = true := by
  have hascii : c.toNat < 0x80 := by
    rw [isWordChar_iff, isWordStart_iff_toNat, isDigit_iff_toNat] at h
    omega
  rw [isScriptChar_eq_isWordChar hascii, h]

/-- The code points of blanks. -/
def blankRanges : List (ℕ × ℕ) :=
  [(0x9, 0xD), (0x20, 0x20), (0x85, 0x85), (0xA0, 0xA0), (0x1680, 0x1680), (0x2000, 0x200A),
    (0x2028, 0x2029), (0x202F, 0x202F), (0x205F, 0x205F), (0x3000, 0x3000)]

theorem exists_blankRange (h : isBlank c = true) :
    ∃ range ∈ blankRanges, range.1 ≤ c.toNat ∧ c.toNat ≤ range.2 := by
  simp only [isBlank, Bool.or_eq_true, Bool.and_eq_true, decide_eq_true_eq, beq_iff_eq] at h
  simp only [blankRanges, List.exists_mem_cons_iff, List.not_mem_nil, false_and, exists_false,
    or_false]
  omega

/-- A blank belongs to no word of any script. -/
theorem isScriptChar_eq_false_of_isBlank (h : isBlank c = true) : isScriptChar c = false := by
  by_cases hascii : c.toNat < 0x80
  · rw [isScriptChar_eq_isWordChar hascii, isWordChar_eq_false_of_isBlank h]
  · have hgaps : blankRanges.all (fun range => CharSet.alphanumeric.ranges.all fun r =>
        r.2 < range.1 || range.2 < r.1) = true := by
      decide +kernel
    have hunder : c ≠ '_' := by
      rintro rfl
      cases h
    obtain ⟨range, hrange, hlo, hhi⟩ := exists_blankRange h
    have hgap := List.all_eq_true.mp hgaps range hrange
    rw [isScriptChar, isAlphanumeric, if_neg hascii, CharSet.contains_eq_false_of_gap hgap hlo hhi,
      Bool.false_or, beq_eq_false_iff_ne]
    exact hunder

/-- The symbols. -/
def symbols : List Char := ['(', ')', '{', '}', '[', ']', '.', ',']

/-- The operators. -/
def operators : List Char := ['+', '-', '*', '/', '=', '<', '>', '!', '&', '|']

theorem isSymbol_iff : isSymbol c = true ↔ c ∈ symbols := by
  rw [isSymbol, List.contains_iff_mem, symbols]

theorem isOperator_iff : isOperator c = true ↔ c ∈ operators := by
  rw [isOperator, List.contains_iff_mem, operators]

/-- The characters that open a string or are tokens of their own are no word characters. -/
theorem isWordChar_eq_false_of_mem (h : c ∈ '"' :: (symbols ++ operators)) :
    isWordChar c = false := by
  have hall : ('"' :: (symbols ++ operators)).all (!isWordChar ·) = true := by decide
  simpa using List.all_eq_true.mp hall c h

theorem isScriptChar_eq_false_of_mem (h : c ∈ '"' :: (symbols ++ operators)) :
    isScriptChar c = false := by
  have hall : ('"' :: (symbols ++ operators)).all (!isScriptChar ·) = true := by decide
  simpa using List.all_eq_true.mp hall c h

theorem isBlank_eq_false_of_mem (h : c ∈ '"' :: (symbols ++ operators)) : isBlank c = false := by
  have hall : ('"' :: (symbols ++ operators)).all (!isBlank ·) = true := by decide
  simpa using List.all_eq_true.mp hall c h

theorem ne_quote_of_mem (h : c ∈ symbols ++ operators) : c ≠ '"' := by
  have hall : (symbols ++ operators).all (· != '"') = true := by decide
  simpa using List.all_eq_true.mp hall c h

theorem not_mem_symbols_of_mem_operators (h : c ∈ operators) : c ∉ symbols := by
  have hall : operators.all (!symbols.contains ·) = true := by decide
  simpa using List.all_eq_true.mp hall c h

theorem isWordStart_eq_false (h : isWordChar c = false) : isWordStart c = false := by
  rw [Bool.eq_false_iff] at h ⊢
  exact fun hc => h (isWordChar_iff.mpr (.inl hc))

theorem isDigit_eq_false (h : isWordChar c = false) : c.isDigit = false := by
  rw [Bool.eq_false_iff] at h ⊢
  exact fun hc => h (isWordChar_iff.mpr (.inr hc))

end Classes

/-! ### How tokens are spelled -/

/-- A name: a letter or an underscore, and after it letters, digits and underscores. -/
def IsName (cs : List Char) : Prop :=
  ∃ c rest, cs = c :: rest ∧ isWordStart c = true ∧ ∀ d ∈ rest, isWordChar d = true

instance : DecidablePred IsName
  | [] => isFalse fun h => by obtain ⟨_, _, hnil, _⟩ := h; cases hnil
  | c :: rest =>
    decidable_of_iff (isWordStart c && rest.all isWordChar) (by simp [IsName])

theorem IsName.isWordChar {cs : List Char} (h : IsName cs) {c : Char} (hc : c ∈ cs) :
    Token.isWordChar c = true := by
  obtain ⟨first, rest, rfl, hfirst, hrest⟩ := h
  rcases List.mem_cons.mp hc with rfl | hc
  · exact isWordChar_iff.mpr (.inl hfirst)
  · exact hrest c hc

/-- A reserved word. -/
def IsReserved (cs : List Char) : Prop :=
  ∃ k : Keyword, k.toString.toList = cs

/-- No digit stands directly behind the characters `before`. -/
def NoDigitBehind (before : List Char) : Prop :=
  ∀ c ∈ before.getLast?, c.isDigit = false

/-- The form of a token of each kind before the characters `after`. Words are alike in their form,
so `whole` says of a word whether it is one by itself. -/
inductive Shaped (whole : Prop) (after : List Char) : Kind → List Char → Prop where
  | keyword {text : List Char} : IsName text → Stops isWordChar after → IsReserved text → whole →
      Shaped whole after .keyword text
  | identifier {text : List Char} : IsName text → Stops isWordChar after →
      ¬(IsReserved text ∧ whole) → Shaped whole after .identifier text
  | number {text : List Char} : text ≠ [] → (∀ c ∈ text, c.isDigit = true) →
      Stops Char.isDigit after → Shaped whole after .number text
  | string {body : List Char} : '"' ∉ body → Shaped whole after .string ('"' :: (body ++ ['"']))
  | symbol {c : Char} : c ∈ symbols → Shaped whole after .symbol [c]
  | operator {c : Char} : c ∈ operators → Shaped whole after .operator [c]

/-- The form of a token of each kind between the characters `before` and `after` of a source that is
read: there a word is whole unless a digit stands directly before it. -/
def Spelled (before after : List Char) (kind : Kind) (text : List Char) : Prop :=
  Shaped (NoDigitBehind before) after kind text

section Shapes

variable {before after : Option Char} {whole whole' : Prop} {text cs rest : List Char} {kind : Kind}

theorem isReserved_iff : IsReserved text ↔ (Keyword.ofString? (String.ofList text)).isSome := by
  rw [Option.isSome_iff_exists]
  refine exists_congr fun k => ?_
  rw [Keyword.ofString?_eq_some_iff, ← String.toList_inj, String.toList_ofList]

instance : DecidablePred IsReserved :=
  fun _ => decidable_of_iff _ isReserved_iff.symm

theorem wordKind_eq_keyword_iff : wordKind before after text = .keyword ↔
    IsReserved text ∧ isWhole before after = true := by
  rw [wordKind, isReserved_iff]
  cases Keyword.ofString? (String.ofList text) <;> simp

theorem wordKind_eq_identifier_iff : wordKind before after text = .identifier ↔
    ¬(IsReserved text ∧ isWhole before after = true) := by
  rw [wordKind, isReserved_iff]
  cases Keyword.ofString? (String.ofList text) <;> simp

/-- Words share their form; whether one is a keyword is a matter of what it says and where. -/
theorem shaped_wordKind (hwhole : isWhole before after = true ↔ whole) (hname : IsName text)
    (hrest : Stops isWordChar rest) : Shaped whole rest (wordKind before after text) text := by
  by_cases h : IsReserved text ∧ isWhole before after = true
  · rw [wordKind_eq_keyword_iff.mpr h]
    exact .keyword hname hrest h.1 (hwhole.mp h.2)
  · rw [wordKind_eq_identifier_iff.mpr h]
    rw [hwhole] at h
    exact .identifier hname hrest h

/-- Only of words it matters what whole means. -/
theorem Shaped.imp (hwhole : IsName text → Stops isWordChar rest → (whole ↔ whole'))
    (h : Shaped whole rest kind text) : Shaped whole' rest kind text := by
  cases h with
  | keyword hname hrest hreserved h =>
    exact .keyword hname hrest hreserved ((hwhole hname hrest).mp h)
  | identifier hname hrest hother =>
    rw [hwhole hname hrest] at hother
    exact .identifier hname hrest hother
  | number hne hdigits hrest => exact .number hne hdigits hrest
  | string hbody => exact .string hbody
  | symbol hc => exact .symbol hc
  | operator hc => exact .operator hc

/-- Whatever whole means, what is a token is one, although a word may be of another kind. -/
theorem Shaped.exists_kind (h : Shaped whole rest kind text) (whole' : Prop) :
    ∃ kind', Shaped whole' rest kind' text := by
  cases h with
  | keyword hname hrest | identifier hname hrest =>
    by_cases hkeyword : IsReserved text ∧ whole'
    · exact ⟨_, .keyword hname hrest hkeyword.1 hkeyword.2⟩
    · exact ⟨_, .identifier hname hrest hkeyword⟩
  | number hne hdigits hrest => exact ⟨_, .number hne hdigits hrest⟩
  | string hbody => exact ⟨_, .string hbody⟩
  | symbol hc => exact ⟨_, .symbol hc⟩
  | operator hc => exact ⟨_, .operator hc⟩

/-- The characters that tokens start with. -/
theorem Shaped.exists_first (h : Shaped whole rest kind text) :
    ∃ c cs, text = c :: cs ∧ (isWordChar c = true ∨ c ∈ '"' :: (symbols ++ operators)) := by
  cases h with
  | keyword hname | identifier hname =>
    obtain ⟨c, cs, rfl, hc, -⟩ := hname
    exact ⟨c, cs, rfl, .inl (isWordChar_iff.mpr (.inl hc))⟩
  | number hne hdigits =>
    obtain ⟨c, cs, rfl⟩ := List.exists_cons_of_ne_nil hne
    exact ⟨c, cs, rfl, .inl (isWordChar_iff.mpr (.inr (hdigits c List.mem_cons_self)))⟩
  | string hbody => exact ⟨_, _, rfl, .inr List.mem_cons_self⟩
  | symbol hc => exact ⟨_, _, rfl, .inr (by simp [hc])⟩
  | operator hc => exact ⟨_, _, rfl, .inr (by simp [hc])⟩

/-- A token starts with a character that is no blank. -/
theorem Shaped.exists_head (h : Shaped whole rest kind text) :
    ∃ c cs, text = c :: cs ∧ isBlank c = false := by
  obtain ⟨c, cs, rfl, hword | hother⟩ := h.exists_first
  · exact ⟨c, cs, rfl, isBlank_eq_false_of_isWordChar hword⟩
  · exact ⟨c, cs, rfl, isBlank_eq_false_of_mem hother⟩

theorem Shaped.ne_nil (h : Shaped whole rest kind text) : text ≠ [] := by
  obtain ⟨c, cs, rfl, -⟩ := h.exists_head
  exact List.cons_ne_nil c cs

/-! ### The first token has its shape -/

/-- **Soundness**: a token that is taken from the front has the shape of its kind there. -/
theorem shaped_of_first? (h : first? before cs = some (kind, text, rest)) :
    Shaped (isWhole before rest.head? = true) rest kind text := by
  cases cs with
  | nil => simp [first?] at h
  | cons c cs =>
    simp only [first?] at h
    split at h
    · next hc =>
      obtain ⟨rfl, rfl, rfl⟩ := by simpa using h
      exact shaped_wordKind Iff.rfl ⟨c, _, rfl, hc, Lookahead.forall_mem_fst_eatWhile⟩
        Lookahead.stops_snd_eatWhile
    split at h
    · next hc =>
      obtain ⟨rfl, rfl, rfl⟩ := by simpa using h
      exact .number (List.cons_ne_nil _ _)
        (List.forall_mem_cons.mpr ⟨hc, Lookahead.forall_mem_fst_eatWhile⟩)
        Lookahead.stops_snd_eatWhile
    split at h
    · next hc =>
      split at h
      · next quote rest' hrest' =>
        obtain ⟨rfl, rfl, rfl⟩ := by simpa using h
        have hstop : Stops (· != '"') (Lookahead.eatWhile (· != '"') cs).2 :=
          Lookahead.stops_snd_eatWhile
        rw [hrest', Lookahead.stops_cons] at hstop
        obtain rfl : quote = '"' := by simpa using hstop
        subst hc
        refine .string fun hmem => ?_
        simpa using Lookahead.forall_mem_fst_eatWhile _ hmem
      · simp at h
    split at h
    · next hc =>
      obtain ⟨rfl, rfl, rfl⟩ := by simpa using h
      exact .symbol (isSymbol_iff.mp hc)
    split at h
    · next hc =>
      obtain ⟨rfl, rfl, rfl⟩ := by simpa using h
      exact .operator (isOperator_iff.mp hc)
    · simp at h

/-- The branch for words is taken by every name that cannot go on. -/
private theorem first?_of_isName (hname : IsName text) (hrest : Stops isWordChar rest) :
    first? before (text ++ rest) = some (wordKind before rest.head? text, text, rest) := by
  obtain ⟨c, cs, rfl, hc, hcs⟩ := hname
  simp only [List.cons_append, first?, hc, if_true,
    Lookahead.eatWhile_append_of_stops hcs hrest, Lookahead.peek]

/-- **Completeness**: a token that has its shape at the front is the one taken. -/
theorem first?_of_shaped (h : Shaped (isWhole before rest.head? = true) rest kind text) :
    first? before (text ++ rest) = some (kind, text, rest) := by
  cases h with
  | keyword hname hrest hreserved hwhole =>
    rw [first?_of_isName hname hrest, wordKind_eq_keyword_iff.mpr ⟨hreserved, hwhole⟩]
  | identifier hname hrest hother =>
    rw [first?_of_isName hname hrest, wordKind_eq_identifier_iff.mpr hother]
  -- The other branches are reached because no class before them has the first character.
  | number hne hdigits hrest =>
    obtain ⟨c, cs, rfl⟩ := List.exists_cons_of_ne_nil hne
    obtain ⟨hc, hcs⟩ := List.forall_mem_cons.mp hdigits
    simp only [List.cons_append, first?, isWordStart_eq_false_of_isDigit hc, hc, if_true,
      Bool.false_eq_true, if_false, Lookahead.eatWhile_append_of_stops hcs hrest]
  | @string body hbody =>
    have hrun : ∀ c ∈ body, (c != '"') = true := by
      intro c hc
      rw [bne_iff_ne]
      rintro rfl
      exact hbody hc
    have hstop : Stops (· != '"') ('"' :: rest) := by simp
    have hquote : isWordStart '"' = false ∧ '"'.isDigit = false := by decide
    rw [List.cons_append, List.append_assoc, List.singleton_append]
    simp only [first?, hquote, Bool.false_eq_true, if_false, if_true,
      Lookahead.eatWhile_append_of_stops hrun hstop]
  | @symbol c hc =>
    have hclass := isWordChar_eq_false_of_mem (c := c) (by simp [hc])
    have hquote : c ≠ '"' := ne_quote_of_mem (by simp [hc])
    simp only [List.singleton_append, first?, isWordStart_eq_false hclass, isDigit_eq_false hclass,
      hquote, isSymbol_iff.mpr hc, Bool.false_eq_true, if_false, if_true]
  | @operator c hc =>
    have hclass := isWordChar_eq_false_of_mem (c := c) (by simp [hc])
    have hquote : c ≠ '"' := ne_quote_of_mem (by simp [hc])
    have hsymbol : ¬isSymbol c = true := fun h =>
      not_mem_symbols_of_mem_operators hc (isSymbol_iff.mp h)
    simp only [List.singleton_append, first?, isWordStart_eq_false hclass, isDigit_eq_false hclass,
      hquote, hsymbol, isOperator_iff.mpr hc, Bool.false_eq_true, if_false, if_true]

example : first? none "Viewé".toList = some (.identifier, "View".toList, ['é']) := by decide

/-- Which characters the first token takes does not depend on what whole means. -/
theorem exists_first?_of_shaped (before : Option Char) (h : Shaped whole rest kind text) :
    ∃ kind', first? before (text ++ rest) = some (kind', text, rest) := by
  obtain ⟨kind', hshaped⟩ := h.exists_kind (isWhole before rest.head? = true)
  exact ⟨kind', first?_of_shaped hshaped⟩

end Shapes

/-! ### Whole words in sources that are read -/

section Whole

variable {whole : Prop} {before text cs rest : List Char} {c : Char} {kind : Kind}

/-- No word goes on from the characters `before` into the characters `cs`: where `before` ends with
a character of a word, this is a digit, or no name starts with `cs`. -/
def NoWordAcross (before cs : List Char) : Prop :=
  ∀ c ∈ before.getLast?, isScriptChar c = true → c.isDigit = true ∨ Stops isWordStart cs

theorem noWordAcross_nil : NoWordAcross [] cs := by
  simp [NoWordAcross]

/-- No word goes on behind blanks. -/
theorem noWordAcross_append_of_isBlank {blanks : List Char} (hne : blanks ≠ [])
    (h : ∀ c ∈ blanks, isBlank c = true) : NoWordAcross (before ++ blanks) cs := by
  intro c hc hscript
  rw [List.getLast?_append_of_ne_nil _ hne] at hc
  rw [isScriptChar_eq_false_of_isBlank (h c (List.mem_of_getLast? hc))] at hscript
  cases hscript

/-- No word goes on behind a token. -/
theorem Shaped.noWordAcross (h : Shaped whole rest kind text) (before : List Char) :
    NoWordAcross (before ++ text) rest := by
  intro c hc hscript
  have hlast : c ∈ text.getLast? := by rwa [List.getLast?_append_of_ne_nil _ h.ne_nil] at hc
  have hpunctuation : c ∉ '"' :: (symbols ++ operators) := by
    intro hmem
    rw [isScriptChar_eq_false_of_mem hmem] at hscript
    cases hscript
  cases h with
  | keyword _ hrest | identifier _ hrest =>
    exact .inr fun d hd => isWordStart_eq_false (hrest d hd)
  | number _ hdigits => exact .inl (hdigits c (List.mem_of_getLast? hlast))
  | string =>
    rw [← List.cons_append, List.getLast?_concat, Option.mem_some_iff] at hlast
    exact absurd (hlast ▸ List.mem_cons_self) hpunctuation
  | symbol hmem | operator hmem =>
    obtain rfl : _ = c := by simpa using hlast
    exact absurd (by simp [hmem]) hpunctuation

theorem isWhole_iff : isWhole before.getLast? rest.head? = true ↔
    (∀ c ∈ before.getLast?, isScriptChar c = false) ∧ Stops isScriptChar rest := by
  cases before.getLast? <;> cases rest <;> simp [isWhole, Stops]

/-- **Whole words.** Where no word goes on into a name, and no character of a word in any script
follows it, the name is whole exactly if no digit stands directly before it. -/
theorem isWhole_iff_noDigitBehind (hacross : NoWordAcross before (text ++ rest))
    (hname : IsName text) (hrest : Stops isScriptChar rest) :
    isWhole before.getLast? rest.head? = true ↔ NoDigitBehind before := by
  obtain ⟨d, ds, rfl, hd, -⟩ := hname
  rw [isWhole_iff, and_iff_left hrest]
  refine forall₂_congr fun c hc => ⟨fun hscript => ?_, fun hdigit => ?_⟩
  · rw [Bool.eq_false_iff] at hscript ⊢
    exact fun hdigit => hscript (isScriptChar_of_isWordChar (isWordChar_iff.mpr (.inr hdigit)))
  · rw [Bool.eq_false_iff]
    intro hscript
    rcases hacross c hc hscript with hc | hstart
    · rw [hdigit] at hc
      cases hc
    · rw [List.cons_append, Lookahead.stops_cons, hd] at hstart
      cases hstart

/-- **The test for whole words comes down to a digit** for a token where no word goes on into it,
and none in another script follows it. -/
theorem shaped_iff_spelled (hacross : NoWordAcross before (text ++ rest))
    (hrest : Stops isWordChar rest → Stops isScriptChar rest) :
    Shaped (isWhole before.getLast? rest.head? = true) rest kind text ↔
      Spelled before rest kind text := by
  have hwhole (hname : IsName text) (hstop : Stops isWordChar rest) :=
    isWhole_iff_noDigitBehind hacross hname (hrest hstop)
  exact ⟨.imp hwhole, .imp fun hname hstop => (hwhole hname hstop).symm⟩

end Whole

end Token

/-! ### How sources are read -/

namespace Place

/-- The place behind the characters `before`, which start the source. -/
def behind (before : List Char) : Place :=
  ({} : Place).after before

@[simp] theorem kind_token (p : Place) (kind : Token.Kind) (text : List Char) :
    (p.token kind text).kind = kind := rfl

@[simp] theorem toList_text_token (p : Place) (kind : Token.Kind) (text : List Char) :
    (p.token kind text).text.toList = text :=
  String.toList_ofList

@[simp] theorem behind_nil : behind [] = {} := by
  simp [behind, after]

theorem after_behind (before cs : List Char) :
    (behind before).after cs = behind (before ++ cs) := by
  simp only [behind, after, List.getLast?_append, byteLength_append, List.count_append,
    UInt32.ofNat_add, Option.or_none, Nat.add_assoc, UInt32.add_assoc]

@[simp] theorem before_behind (before : List Char) : (behind before).before = before.getLast? := by
  simp [behind, after]

end Place

/-- The characters `cs`, which follow the characters `before`, are blanks and the tokens `ts`. -/
inductive Lexed : List Char → List Char → List Token → Prop where
  | nil {before : List Char} : Lexed before [] []
  | blank {before cs : List Char} {c : Char} {ts : List Token} : isBlank c = true →
      Lexed (before ++ [c]) cs ts → Lexed before (c :: cs) ts
  | token {before text rest : List Char} {kind : Token.Kind} {ts : List Token} :
      Token.Spelled before rest kind text → Lexed (before ++ text) rest ts →
      Lexed before (text ++ rest) ((Place.behind before).token kind text :: ts)

section Reading

variable {before cs text rest : List Char} {c : Char} {kind : Token.Kind} {ts : List Token}

theorem Lexed.exists_spelled (h : Lexed before cs ts) {t : Token} (ht : t ∈ ts) :
    ∃ front after, Token.Spelled front after t.kind t.text.toList := by
  induction h with
  | nil => cases ht
  | blank _ _ ih => exact ih ht
  | @token before text rest kind ts hspelled _ ih =>
    rcases List.mem_cons.mp ht with rfl | ht
    · refine ⟨before, rest, ?_⟩
      rwa [Place.kind_token, Place.toList_text_token]
    · exact ih ht

theorem lexed_nil_iff : Lexed before [] ts ↔ ts = [] := by
  constructor
  · intro h
    generalize hcs : ([] : List Char) = cs at h
    cases h with
    | nil => rfl
    | blank => cases hcs
    | token hspelled => exact absurd (List.append_eq_nil_iff.mp hcs.symm).1 hspelled.ne_nil
  · rintro rfl
    exact .nil

theorem lexed_cons_iff_of_isBlank (hc : isBlank c = true) :
    Lexed before (c :: cs) ts ↔ Lexed (before ++ [c]) cs ts := by
  constructor
  · intro h
    generalize hcs : c :: cs = ds at h
    cases h with
    | nil => cases hcs
    | blank _ h =>
      obtain ⟨rfl, rfl⟩ := List.cons.inj hcs
      exact h
    | token hspelled =>
      obtain ⟨d, ds, rfl, hd⟩ := hspelled.exists_head
      obtain ⟨rfl, -⟩ := List.cons.inj hcs
      rw [hc] at hd
      cases hd
  · exact .blank hc

theorem lexed_append_iff_of_isBlank {blanks : List Char} (h : ∀ c ∈ blanks, isBlank c = true) :
    Lexed before (blanks ++ cs) ts ↔ Lexed (before ++ blanks) cs ts := by
  induction blanks generalizing before with
  | nil => simp
  | cons c blanks ih =>
    obtain ⟨hc, hblanks⟩ := List.forall_mem_cons.mp h
    rw [List.cons_append, lexed_cons_iff_of_isBlank hc, ih hblanks, List.append_assoc,
      List.singleton_append]

/-- No token starts with a character that belongs to a word in another script only. -/
theorem Lexed.stops_isScriptChar (h : Lexed before rest ts) (hstop : Stops Token.isWordChar rest) :
    Stops Token.isScriptChar rest := by
  cases h with
  | nil => simp [Stops]
  | blank hc => exact Lookahead.stops_cons.mpr (Token.isScriptChar_eq_false_of_isBlank hc)
  | token hspelled =>
    obtain ⟨c, cs, rfl, hc⟩ := hspelled.exists_first
    rw [List.cons_append, Lookahead.stops_cons] at hstop ⊢
    rcases hc with hword | hother
    · rw [hword] at hstop
      cases hstop
    · exact Token.isScriptChar_eq_false_of_mem hother

/-- Where no blank stands, reading goes on with the first token. -/
theorem lexed_cons_iff (hc : isBlank c = false) (hacross : Token.NoWordAcross before (c :: cs)) :
    Lexed before (c :: cs) ts ↔
      ∃ kind text rest us,
        Token.first? before.getLast? (c :: cs) = some (kind, text, rest) ∧
          ts = (Place.behind before).token kind text :: us ∧ Lexed (before ++ text) rest us := by
  constructor
  · intro h
    generalize hcs : c :: cs = ds at h hacross
    cases h with
    | nil => cases hcs
    | blank hd =>
      obtain ⟨rfl, -⟩ := List.cons.inj hcs
      rw [hc] at hd
      cases hd
    | token hspelled h =>
      have hshaped := (Token.shaped_iff_spelled hacross h.stops_isScriptChar).mpr hspelled
      exact ⟨_, _, _, _, Token.first?_of_shaped hshaped, rfl, h⟩
  · rintro ⟨kind, text, rest, us, hfirst, rfl, h⟩
    have hshaped := Token.shaped_of_first? hfirst
    rw [← (Token.append_of_first?_eq_some hfirst).1] at hacross ⊢
    exact .token ((Token.shaped_iff_spelled hacross h.stops_isScriptChar).mp hshaped) h

/-- A token that is spelled at the front is the first one that is read. -/
theorem Lexed.exists_eq_cons (hacross : Token.NoWordAcross before (text ++ rest))
    (hspelled : Token.Spelled before rest kind text) (h : Lexed before (text ++ rest) ts) :
    ∃ us, ts = (Place.behind before).token kind text :: us ∧ Lexed (before ++ text) rest us := by
  obtain ⟨c, cs, rfl, hc⟩ := hspelled.exists_head
  obtain ⟨kind', hfirst⟩ := Token.exists_first?_of_shaped before.getLast? hspelled
  rw [List.cons_append] at hacross h hfirst
  rw [lexed_cons_iff hc hacross, hfirst] at h
  obtain ⟨_, _, _, us, heq, rfl, hrest⟩ := h
  cases heq
  -- What follows is read, so the kind is that of the spelling as well.
  have hshaped := (Token.shaped_iff_spelled hacross hrest.stops_isScriptChar).mpr hspelled
  have hsame := Token.first?_of_shaped hshaped
  rw [List.cons_append, hfirst] at hsame
  cases hsame
  exact ⟨us, rfl, hrest⟩

/-- **The loop reads what is spelled.** The tokens before the place are kept, and the rest is read
as blanks and spelled tokens. -/
theorem tokensFrom_eq_ok_iff {done : List Token} (hacross : Token.NoWordAcross before cs) :
    tokensFrom (Place.behind before) done cs = .ok ts ↔
      ∃ us, ts = done.reverse ++ us ∧ Lexed before cs us := by
  generalize hp : Place.behind before = p
  -- By the recursion of the loop: a run of blanks is passed over, and a token is put before `done`.
  -- Behind either of them no word goes on.
  fun_induction tokensFrom p done cs generalizing before with
  | case1 p done =>
    simp [lexed_nil_iff, eq_comm]
  | case2 p done c cs hc blanks =>
    rename_i ih
    subst hp
    have hcs : c :: cs = (c :: blanks.1) ++ blanks.2 := by
      rw [List.cons_append, Lookahead.eatWhile_append]
    have hblanks : ∀ d ∈ c :: blanks.1, isBlank d = true :=
      List.forall_mem_cons.mpr ⟨hc, Lookahead.forall_mem_fst_eatWhile⟩
    rw [ih (Token.noWordAcross_append_of_isBlank (List.cons_ne_nil _ _) hblanks)
      (Place.after_behind _ _).symm, hcs]
    simp only [lexed_append_iff_of_isBlank hblanks]
  | case3 p done c cs hc hfirst =>
    subst hp
    rw [Place.before_behind] at hfirst
    simp [lexed_cons_iff (Bool.eq_false_iff.mpr hc) hacross, hfirst]
  | case4 p done c cs hc kind text rest hfirst ih =>
    subst hp
    rw [Place.before_behind] at hfirst
    rw [ih ((Token.shaped_of_first? hfirst).noWordAcross before) (Place.after_behind _ _).symm]
    simp only [lexed_cons_iff (Bool.eq_false_iff.mpr hc) hacross, hfirst, List.reverse_cons,
      List.append_assoc, List.singleton_append]
    constructor
    · rintro ⟨us, rfl, h⟩
      exact ⟨_, rfl, kind, text, rest, us, rfl, rfl, h⟩
    · rintro ⟨_, rfl, _, _, _, us, heq, rfl, h⟩
      cases heq
      exact ⟨us, rfl, h⟩

/-- **Reading succeeds exactly with what the source is read as.** -/
theorem tokenize_eq_ok_iff_lexed {source : String} :
    tokenize source = .ok ts ↔ Lexed [] source.toList ts := by
  rw [tokenize, ← Place.behind_nil, tokensFrom_eq_ok_iff Token.noWordAcross_nil]
  simp

end Reading

end ViewLang

import ViewLang.Proofs.Printing

/-!
# Programs spaced in another way

A source is read as tokens, and how many blanks stand between them, and which, is forgotten. So the
tokens may be written down again with other blanks. This module says what is read then.

* **Tokens.** A token was spelled between some characters. It is spelled alike wherever it is set
  apart by blanks (`Token.Spelled.spellsApart`), with one exception: a reserved word that stood
  directly behind a digit, and was a name for that reason, is a keyword from then on
  (`Token.Kind.apart`).
* **Spacing.** A `Spacing` says which blanks to put before the first token and behind each one. At
  either end there may be none. Between tokens there is at least one, since a word would go on into
  the next one.

The spaced tokens are read as the same words but for these keywords. Where there are none, they make
up the same program, which does the same (`tokenize_spaced`).
-/

namespace ViewLang

open Lookahead (Stops)
open Token (Word Spelled IsReserved NoDigitBehind)

/-! ### Tokens set apart -/

namespace Token

/-- The kind that a token has when blanks stand around it. -/
def Kind.apart (kind : Kind) (text : List Char) : Kind :=
  if kind = .identifier ∧ IsReserved text then .keyword else kind

section Apart

variable {before after before' after' text : List Char} {kind : Kind}

theorem Kind.apart_of_not_isReserved (h : kind = .identifier → ¬IsReserved text) :
    kind.apart text = kind :=
  if_neg fun hreserved => h hreserved.1 hreserved.2

/-- A token that is spelled somewhere is spelled wherever no digit stands directly before it and no
word character directly behind it. -/
theorem Spelled.apart (h : Spelled before after kind text) (hbefore : NoDigitBehind before')
    (hafter : Stops isWordChar after') : Spelled before' after' (kind.apart text) text := by
  cases h with
  | keyword hname _ hreserved _ => exact .keyword hname hafter hreserved hbefore
  | identifier hname =>
    by_cases hreserved : IsReserved text
    · rw [Kind.apart, if_pos ⟨rfl, hreserved⟩]
      exact .keyword hname hafter hreserved hbefore
    · rw [Kind.apart_of_not_isReserved fun _ => hreserved]
      exact .identifier hname hafter fun h => hreserved h.1
  | number hne hdigits => exact .number hne hdigits fun c hc => isDigit_eq_false (hafter c hc)
  | string hbody => exact .string hbody
  | symbol hc => exact .symbol hc
  | operator hc => exact .operator hc

/-- The word that a token is when blanks stand around it. -/
def wordApart (t : Token) : Word :=
  ⟨t.kind.apart t.text.toList, t.text⟩

theorem Spelled.spellsApart {t : Token} (h : Spelled before after t.kind t.text.toList) :
    SpellsApart t.text.toList [t.wordApart] :=
  fun _ _ hbefore hafter => .single (h.apart hbefore hafter)

end Apart

end Token

/-! ### Spacings -/

/-- Blanks to put around `n` tokens. -/
structure Spacing (n : ℕ) where
  /-- The blanks before the first token. -/
  lead : String
  /-- The blanks behind each token. -/
  gaps : List String
  length_gaps : gaps.length = n
  isBlank_lead : ∀ c ∈ lead.toList, isBlank c = true
  isBlank_gaps : ∀ gap ∈ gaps, ∀ c ∈ gap.toList, isBlank c = true
  /-- Only behind the last token there may be none. -/
  ne_empty : ∀ gap ∈ gaps.dropLast, gap ≠ ""

/-- The texts of tokens, each with the blanks behind it. -/
def spacedChars (ts : List Token) (gaps : List String) : List Char :=
  (List.zipWith (fun t gap => t.text.toList ++ gap.toList) ts gaps).flatten

/-- The tokens with blanks around them. -/
def Spacing.text {n : ℕ} (spacing : Spacing n) (ts : List Token) : String :=
  spacing.lead ++ String.ofList (spacedChars ts spacing.gaps)

section Spaced

variable {ts : List Token} {gaps : List String}

/-- **Tokens with blanks between them spell their words.** -/
theorem spellsApart_spacedChars
    (hts : ∀ t ∈ ts, SpellsApart t.text.toList [t.wordApart]) (hlength : gaps.length = ts.length)
    (hblank : ∀ gap ∈ gaps, ∀ c ∈ gap.toList, isBlank c = true)
    (hne : ∀ gap ∈ gaps.dropLast, gap ≠ "") :
    SpellsApart (spacedChars ts gaps) (ts.map Token.wordApart) := by
  induction ts generalizing gaps with
  | nil => exact fun _ _ _ _ => .nil
  | cons t ts ih =>
    obtain ⟨gap, gaps, rfl⟩ := List.exists_cons_of_length_eq_add_one hlength
    obtain ⟨ht, hts⟩ := List.forall_mem_cons.mp hts
    obtain ⟨hgap, hgaps⟩ := List.forall_mem_cons.mp hblank
    have hchars : spacedChars (t :: ts) (gap :: gaps) =
        t.text.toList ++ (gap.toList ++ spacedChars ts gaps) := by
      simp [spacedChars]
    rw [hchars]
    cases gaps with
    | nil =>
      obtain rfl : ts = [] := List.eq_nil_of_length_eq_zero (Nat.succ.inj hlength).symm
      have hlast : SpellsApart ([] ++ (t.text.toList ++ gap.toList)) [t.wordApart] :=
        ht.surround (by simp) hgap
      simpa [spacedChars] using hlast
    | cons next gaps =>
      obtain ⟨hne, hnext⟩ := List.forall_mem_cons.mp hne
      have hchars : gap.toList ≠ [] := fun hnil => hne (String.toList_eq_nil_iff.mp hnil)
      exact ht.setApart hchars hgap (ih hts (Nat.succ.inj hlength) hgaps hnext)

theorem spells_text (hts : ∀ t ∈ ts, SpellsApart t.text.toList [t.wordApart])
    (spacing : Spacing ts.length) :
    Spells [] (spacing.text ts).toList [] (ts.map Token.wordApart) := by
  have hspaced := spellsApart_spacedChars hts spacing.length_gaps spacing.isBlank_gaps
    spacing.ne_empty
  have htext : (spacing.text ts).toList =
      spacing.lead.toList ++ (spacedChars ts spacing.gaps ++ []) := by
    simp [Spacing.text]
  rw [htext]
  exact hspaced.surround spacing.isBlank_lead (by simp) [] [] (by simp [NoDigitBehind])
    (by simp [Stops])

/-- **Spacing does not matter.** Write down the tokens of a source with any blanks around them, at
least one between two tokens. What is read then are as many tokens with the same texts, in the same
order and of the same kinds, but for the names that are reserved words, which are keywords. If there
are no such names and the source is a program, it is the same program, and does the same under every
configuration. -/
theorem tokenize_spaced {source : String} (h : tokenize source = .ok ts)
    (spacing : Spacing ts.length) :
    ∃ us, tokenize (spacing.text ts) = .ok us ∧
      us.map Token.text = ts.map Token.text ∧
      (us.map Token.kind = ts.map fun t =>
        if t.kind = .identifier ∧ IsReserved t.text.toList then .keyword else t.kind) ∧
      ((∀ t ∈ ts, t.kind = .identifier → ¬IsReserved t.text.toList) →
        ∀ nodes, parse ts = .ok nodes → parse us = .ok nodes ∧
          ∀ config, run config (spacing.text ts) = run config source) := by
  have hlexed := tokenize_eq_ok_iff_lexed.mp h
  have hspells : Spells [] (spacing.text ts).toList [] (ts.map Token.wordApart) := by
    refine spells_text (fun t ht => ?_) spacing
    obtain ⟨front, after, hspelled⟩ := hlexed.exists_spelled ht
    exact hspelled.spellsApart
  obtain ⟨us, hus, hwords⟩ := exists_tokenize_of_spells hspells
  refine ⟨us, hus, ?_, ?_, fun hnames nodes hnodes => ?_⟩
  · have htexts := congrArg (List.map Word.text) hwords
    rwa [List.map_map, List.map_map] at htexts
  · have hkinds := congrArg (List.map Word.kind) hwords
    rwa [List.map_map, List.map_map] at hkinds
  · have hsame : us.map Token.word = ts.map Token.word := by
      rw [hwords]
      exact List.map_congr_left fun t ht =>
        congrArg (Word.mk · t.text) (Token.Kind.apart_of_not_isReserved (hnames t ht))
    have hparse : parse us = .ok nodes := by
      apply parse_of_derivesProgram
      rw [hsame]
      exact derivesProgram_of_parse hnodes
    refine ⟨hparse, fun config => ?_⟩
    rw [run, run, readProgram_eq_ok_iff.mpr ⟨us, hus, hparse⟩,
      readProgram_eq_ok_iff.mpr ⟨ts, h, hnodes⟩]

/-- Adjacent words come apart, and a string over two lines stays as it is. -/
def adjacentSpacing : Spacing 7 where
  lead := "\n"
  gaps := [" ", "\t", " ", "\n", "\u2003", " ", ""]
  length_gaps := rfl
  isBlank_lead := List.all_eq_true.mp (by decide)
  isBlank_gaps gap hgap := List.all_eq_true.mp (by revert gap; decide)
  ne_empty := by decide

/-- A number and the word directly behind it come apart. -/
def gluedSpacing : Spacing 2 where
  lead := ""
  gaps := ["\n", ""]
  length_gaps := rfl
  isBlank_lead := List.all_eq_true.mp (by decide)
  isBlank_gaps gap hgap := List.all_eq_true.mp (by revert gap; decide)
  ne_empty := by decide

/-- A string over two lines stays as it is when the words around it come apart, and a reserved word
directly behind a number becomes a keyword. -/
theorem tokenize_spaced_of_adjacent :
    (∀ config, run config "\nlet x\t= \"a\nlet\"\nA\u2003( )" = run config "let x=\"a\nlet\"A()") ∧
      ∃ us, tokenize "1\nlet" = .ok us ∧ us.map Token.kind = [.number, .keyword] := by
  constructor
  · have hts : tokenize "let x=\"a\nlet\"A()" =
        .ok [⟨.keyword, "let", 1, ⟨0, 3⟩⟩, ⟨.identifier, "x", 1, ⟨4, 5⟩⟩,
          ⟨.operator, "=", 1, ⟨5, 6⟩⟩, ⟨.string, "\"a\nlet\"", 1, ⟨6, 13⟩⟩,
          ⟨.identifier, "A", 2, ⟨13, 14⟩⟩, ⟨.symbol, "(", 2, ⟨14, 15⟩⟩,
          ⟨.symbol, ")", 2, ⟨15, 16⟩⟩] := by cbv
    obtain ⟨us, hus, -, -, hsame⟩ := tokenize_spaced hts adjacentSpacing
    exact (hsame (by decide) [.assignment "x" (.string "a\nlet"), .call "A"] (by cbv)).2
  · have hts : tokenize "1let" =
        .ok [⟨.number, "1", 1, ⟨0, 1⟩⟩, ⟨.identifier, "let", 1, ⟨1, 4⟩⟩] := by cbv
    obtain ⟨us, hus, -, hkinds, -⟩ := tokenize_spaced hts gluedSpacing
    exact ⟨us, hus, hkinds⟩

end Spaced

end ViewLang

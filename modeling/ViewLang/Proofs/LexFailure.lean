import ViewLang.Proofs.Concatenation
import ViewLang.Proofs.Segmentation

/-!
# Where reading fails

A source that cannot be read into tokens has one place that is to blame. The text before the place
can be read, and no token starts there: the character at the place opens a string that is never
closed, or it belongs to none of the classes of characters that tokens start with or that separate
them. The source is said to be **stuck** behind that text.

* A source that fails is stuck where its error is (`exists_stuckBehind_of_tokenize`). The text
  before the place would be read on its own: a token that is taken from a text is also one of a
  shorter text that still has all of the token (`Token.Shaped.of_append`). It may be of another
  kind there, as a reserved word is no keyword before a letter of another script, where reading is
  stuck, but is one where the text ends.
* A source that is stuck somewhere has no reading (`not_lexed_of_startsNoToken`), so it fails. It is
  stuck nowhere else: of two such places, the text before the later one would have a reading
  although it is stuck at the earlier one.
-/

namespace ViewLang

open Lookahead (Stops)
open Token (Shaped Spelled NoWordAcross symbols operators)

/-- No token starts with the character `c` where `after` follows it, nor is it a blank. -/
inductive StartsNoToken (c : Char) (after : List Char) : Prop where
  /-- A string that is opened and never closed. -/
  | unclosed : c = '"' → '"' ∉ after → StartsNoToken c after
  | foreign : isBlank c = false → c.isAlpha = false → c.isDigit = false → c ≠ '_' → c ≠ '"' →
      c ∉ symbols → c ∉ operators → StartsNoToken c after

/-- The source is read up to the characters `before`, and then it is stuck: no token starts with the
character `c` that follows them. -/
structure StuckBehind (source : String) (before : List Char) (c : Char) (after : List Char) :
    Prop where
  source_eq : source.toList = before ++ c :: after
  readable : ∃ ts, tokenize (String.ofList before) = .ok ts
  startsNoToken : StartsNoToken c after

/-! ### Characters with which no token starts -/

section First

variable {c : Char} {after cut : List Char}

private theorem dropWhile_quote_eq_nil_iff :
    after.dropWhile (· != '"') = [] ↔ '"' ∉ after := by
  rw [List.dropWhile_eq_nil_iff]
  constructor
  · intro h hmem
    simpa using h _ hmem
  · intro h c hc
    rw [bne_iff_ne]
    rintro rfl
    exact h hc

/-- The classes of characters are those that reading tells apart. -/
theorem startsNoToken_iff (before : Option Char) :
    StartsNoToken c after ↔ isBlank c = false ∧ Token.first? before (c :: after) = none := by
  constructor
  · intro h
    cases h with
    | unclosed hc hafter =>
      subst hc
      have hquote : Token.isWordStart '"' = false ∧ '"'.isDigit = false := by decide
      refine ⟨by decide, ?_⟩
      simp only [Token.first?, hquote, Bool.false_eq_true, if_false, if_true, Lookahead.eatWhile,
        dropWhile_quote_eq_nil_iff.mpr hafter]
    | foreign hblank halpha hdigit hunder hquote hsymbol hoperator =>
      have hstart : Token.isWordStart c = false := by simp [Token.isWordStart, halpha, hunder]
      rw [← Token.isSymbol_iff] at hsymbol
      rw [← Token.isOperator_iff] at hoperator
      refine ⟨hblank, ?_⟩
      simp only [Token.first?, hstart, hdigit, hquote, hsymbol, hoperator, Bool.false_eq_true,
        if_false]
  · rintro ⟨hblank, hfirst⟩
    simp only [Token.first?] at hfirst
    split at hfirst
    · cases hfirst
    next hstart =>
    split at hfirst
    · cases hfirst
    next hdigit =>
    split at hfirst
    · next hquote =>
      split at hfirst
      · cases hfirst
      · next hrest => exact .unclosed hquote (dropWhile_quote_eq_nil_iff.mp hrest)
    next hquote =>
    split at hfirst
    · cases hfirst
    next hsymbol =>
    split at hfirst
    · cases hfirst
    next hoperator =>
    rw [Token.isSymbol_iff] at hsymbol
    rw [Token.isOperator_iff] at hoperator
    obtain ⟨halpha, hunder⟩ : c.isAlpha = false ∧ c ≠ '_' := by
      simpa [Token.isWordStart] using hstart
    exact .foreign hblank halpha (Bool.eq_false_iff.mpr hdigit) hunder hquote hsymbol hoperator

theorem StartsNoToken.isWordChar_eq_false (h : StartsNoToken c after) :
    Token.isWordChar c = false := by
  cases h with
  | unclosed hc => subst hc; decide
  | foreign _ halpha hdigit hunder =>
    rw [Bool.eq_false_iff, ne_eq, Token.isWordChar_iff]
    simp [Token.isWordStart, halpha, hdigit, hunder]

/-- A string is not closed in a shorter text either. -/
theorem StartsNoToken.of_append (h : StartsNoToken c (after ++ cut)) : StartsNoToken c after := by
  cases h with
  | unclosed hc hafter => exact .unclosed hc fun hmem => hafter (List.mem_append_left _ hmem)
  | foreign hblank halpha hdigit hunder hquote hsymbol hoperator =>
    exact .foreign hblank halpha hdigit hunder hquote hsymbol hoperator

end First

/-! ### Readings of texts that go on -/

section Cutting

variable {front before after cut cs text : List Char} {c : Char} {kind : Token.Kind}
  {ts us : List Token}

private theorem stops_of_append {p : Char → Bool} (h : Stops p (after ++ cut)) : Stops p after := by
  cases after with
  | nil => simp [Stops]
  | cons c after => simpa using h

/-- A token has its shape also when the text behind it is cut short. -/
theorem Token.Shaped.of_append {whole : Prop} (h : Shaped whole (after ++ cut) kind text) :
    Shaped whole after kind text := by
  cases h with
  | keyword hname hafter hreserved hwhole =>
    exact .keyword hname (stops_of_append hafter) hreserved hwhole
  | identifier hname hafter hother => exact .identifier hname (stops_of_append hafter) hother
  | number hne hrun hafter => exact .number hne hrun (stops_of_append hafter)
  | string hbody => exact .string hbody
  | symbol hc => exact .symbol hc
  | operator hc => exact .operator hc

/-- A reading of a text goes through the reading of its start. -/
theorem Lexed.exists_rest (h : Lexed front before ts) (hstop : Stops Token.isWordChar cs)
    (hacross : NoWordAcross front (before ++ cs)) (hwhole : Lexed front (before ++ cs) us) :
    ∃ vs, us = ts ++ vs ∧ Lexed (front ++ before) cs vs := by
  induction h generalizing us with
  | nil => exact ⟨us, rfl, by simpa using hwhole⟩
  | @blank front before c ts hc _ ih =>
    rw [List.cons_append, lexed_cons_iff_of_isBlank hc] at hwhole
    have hblank : NoWordAcross (front ++ [c]) (before ++ cs) :=
      Token.noWordAcross_append_of_isBlank (List.cons_ne_nil c [])
        (List.forall_mem_singleton.mpr hc)
    obtain ⟨vs, rfl, hvs⟩ := ih hblank hwhole
    exact ⟨vs, rfl, by simpa using hvs⟩
  | @token front text rest kind ts hspelled _ ih =>
    rw [List.append_assoc] at hwhole hacross
    have hspelled := hspelled.append hstop
    obtain ⟨ws, rfl, hrest⟩ := hwhole.exists_eq_cons hacross hspelled
    obtain ⟨vs, rfl, hvs⟩ := ih (hspelled.noWordAcross front) hrest
    exact ⟨vs, rfl, by simpa using hvs⟩

/-- A text that is stuck has no reading. -/
theorem not_lexed_of_startsNoToken (h : Lexed [] before ts) (hc : StartsNoToken c after) :
    ¬Lexed [] (before ++ c :: after) us := by
  intro hwhole
  obtain ⟨vs, -, hvs⟩ := h.exists_rest (Lookahead.stops_cons.mpr hc.isWordChar_eq_false)
    Token.noWordAcross_nil hwhole
  obtain ⟨hblank, hfirst⟩ := (startsNoToken_iff none).mp hc
  generalize hcs : c :: after = cs at hvs
  cases hvs with
  | nil => cases hcs
  | blank hd =>
    obtain ⟨rfl, -⟩ := List.cons.inj hcs
    rw [hblank] at hd
    cases hd
  | token hspelled =>
    obtain ⟨kind, hsome⟩ := Token.exists_first?_of_shaped none hspelled
    rw [← hcs, hfirst] at hsome
    cases hsome

/-- Where reading fails, it has read what stands before, and no token starts with the character that
follows. -/
theorem exists_startsNoToken_of_tokensFrom {done : List Token} {e : LexError}
    (h : tokensFrom (Place.behind front) done cs = .error e) :
    ∃ mid c after ts, cs = mid ++ c :: after ∧ Lexed front mid ts ∧ StartsNoToken c after ∧
      e = (Place.behind (front ++ mid)).lexError c := by
  generalize hp : Place.behind front = p at h
  fun_induction tokensFrom p done cs generalizing front with
  | case1 => cases h
  | case2 p done c cs hc blanks =>
    rename_i ih
    subst hp
    obtain ⟨mid, d, after, ts, hrest, hmid, hd, rfl⟩ := ih (Place.after_behind _ _).symm h
    have hblanks : ∀ x ∈ c :: blanks.1, isBlank x = true :=
      List.forall_mem_cons.mpr ⟨hc, Lookahead.forall_mem_fst_eatWhile⟩
    refine ⟨c :: blanks.1 ++ mid, d, after, ts, ?_, (lexed_append_iff_of_isBlank hblanks).mpr hmid,
      hd, by rw [List.append_assoc]⟩
    rw [List.append_assoc, ← hrest, List.cons_append, Lookahead.eatWhile_append]
  | case3 p done c cs hc hfirst =>
    cases h
    subst hp
    exact ⟨[], c, cs, [], rfl, .nil, (startsNoToken_iff _).mpr ⟨Bool.eq_false_iff.mpr hc, hfirst⟩,
      by rw [List.append_nil]⟩
  | case4 p done c cs hc kind text rest hfirst ih =>
    subst hp
    obtain ⟨mid, d, after, ts, rfl, hmid, hd, rfl⟩ := ih (Place.after_behind _ _).symm h
    -- In the text before the place the token may be of another kind.
    obtain ⟨kind', hspelled⟩ :=
      (Token.shaped_of_first? hfirst).of_append.exists_kind (Token.NoDigitBehind front)
    refine ⟨text ++ mid, d, after, _, ?_, .token hspelled hmid, hd, by rw [List.append_assoc]⟩
    rw [List.append_assoc, (Token.append_of_first?_eq_some hfirst).1]

end Cutting

/-! ### The place that is to blame -/

section Stuck

variable {source : String} {before other after rest : List Char} {c d : Char} {e : LexError}

theorem exists_stuckBehind_of_tokenize (h : tokenize source = .error e) :
    ∃ before c after, StuckBehind source before c after ∧
      e = (Place.behind before).lexError c := by
  rw [tokenize, ← Place.behind_nil] at h
  obtain ⟨before, c, after, ts, hsource, hbefore, hc, rfl⟩ := exists_startsNoToken_of_tokensFrom h
  refine ⟨before, c, after, ⟨hsource, ⟨ts, ?_⟩, hc⟩, rfl⟩
  rwa [tokenize_eq_ok_iff_lexed, String.toList_ofList]

/-- A source is not stuck behind a text and again further on. -/
private theorem StuckBehind.byteLength_le (h : StuckBehind source before c after)
    (hother : StuckBehind source other d rest) : byteLength other ≤ byteLength before := by
  by_contra hlt
  have heq : before ++ c :: after = other ++ d :: rest := h.source_eq.symm.trans hother.source_eq
  obtain ⟨mid, rfl, hmid⟩ := exists_append_of_byteLength_le heq (by omega)
  -- The later text starts with the earlier one and the character at which that is stuck.
  cases mid with
  | nil => simp at hlt
  | cons x mid =>
    obtain ⟨rfl, rfl⟩ := List.cons.inj hmid
    obtain ⟨ts, hts⟩ := h.readable
    obtain ⟨us, hus⟩ := hother.readable
    rw [tokenize_eq_ok_iff_lexed, String.toList_ofList] at hts hus
    exact not_lexed_of_startsNoToken hts h.startsNoToken.of_append hus

theorem StuckBehind.eq (h : StuckBehind source before c after)
    (hother : StuckBehind source other d rest) : before = other ∧ c = d := by
  have heq : before ++ c :: after = other ++ d :: rest := h.source_eq.symm.trans hother.source_eq
  obtain ⟨rfl, hback⟩ := append_inj_of_byteLength_eq heq
    ((hother.byteLength_le h).antisymm (h.byteLength_le hother))
  exact ⟨rfl, (List.cons.inj hback).1⟩

theorem StuckBehind.exists_error (h : StuckBehind source before c after) :
    tokenize source = .error ((Place.behind before).lexError c) := by
  cases htokens : tokenize source with
  | ok us =>
    obtain ⟨ts, hts⟩ := h.readable
    rw [tokenize_eq_ok_iff_lexed, String.toList_ofList] at hts
    rw [tokenize_eq_ok_iff_lexed, h.source_eq] at htokens
    exact absurd htokens (not_lexed_of_startsNoToken hts h.startsNoToken)
  | error e =>
    obtain ⟨other, d, rest, hother, rfl⟩ := exists_stuckBehind_of_tokenize htokens
    obtain ⟨rfl, rfl⟩ := h.eq hother
    rfl

/-- **Reading fails exactly where no token can start.** On a source whose lines can be counted,
reading fails exactly if the source is stuck behind some text. Then it is stuck at no other byte,
and the error has the character at which it is stuck, the span of that character, and its line. -/
theorem tokenize_fails_iff_stuckBehind (hlines : source.toList.count '\n' < 2 ^ 32 - 1) :
    ((∃ e, tokenize source = .error e) ↔ ∃ before c after, StuckBehind source before c after) ∧
      ∀ before c after, StuckBehind source before c after →
        (∀ other d rest, StuckBehind source other d rest →
          byteLength other = byteLength before) ∧
        ∃ e, tokenize source = .error e ∧ e.character = c ∧
          e.span = ⟨byteLength before, byteLength before + c.utf8Size⟩ ∧
            e.line.toNat = 1 + before.count '\n' := by
  refine ⟨⟨fun ⟨e, he⟩ => ?_, fun ⟨before, c, after, h⟩ => ⟨_, h.exists_error⟩⟩,
    fun before c after h => ⟨fun other d rest hother => ?_, _, h.exists_error, rfl, ?_, ?_⟩⟩
  · obtain ⟨before, c, after, h, -⟩ := exists_stuckBehind_of_tokenize he
    exact ⟨before, c, after, h⟩
  · rw [(h.eq hother).1]
  · rw [Place.lexError, Place.offset_behind]
  · refine Place.toNat_line_behind ?_
    rw [h.source_eq, List.count_append] at hlines
    omega

/-- A quote in a string does not count, and neither does what stands behind the quote of a string
that is never closed. -/
theorem tokenize_fails_iff_stuckBehind_of_unclosedText :
    "\"@\n\"é\"#".toList.count '\n' < 2 ^ 32 - 1 ∧
      ∃ e, tokenize "\"@\n\"é\"#" = .error e ∧ e.character = 'é' ∧ e.span = ⟨4, 6⟩ ∧
        e.line.toNat = 2 := by
  have hstuck : StuckBehind "\"@\n\"é\"#" ['"', '@', '\n', '"'] 'é' ['"', '#'] :=
    ⟨by decide, ⟨[⟨.string, "\"@\n\"", 1, ⟨0, 4⟩⟩], by cbv⟩,
      .foreign (by decide) (by decide) (by decide) (by decide) (by decide) (by decide) (by decide)⟩
  have hlines : "\"@\n\"é\"#".toList.count '\n' < 2 ^ 32 - 1 := by decide
  exact ⟨hlines, ((tokenize_fails_iff_stuckBehind hlines).2 _ _ _ hstuck).2⟩

end Stuck

end ViewLang

import ViewLang.Proofs.Printing

/-!
# Programs one after the other

Two sources that are programs, with a blank between them, are the two programs one after the other.

* **Tokens.** Reading is not affected by what stands behind a blank, except for the places of the
  tokens: behind more text, they are **shifted** by its bytes and by its line feeds
  (`Lexed.behind`). Nor is it affected by what follows a blank (`Lexed.append`). So the tokens of
  the whole are those of the first source and the shifted ones of the second
  (`tokenize_append_of_isBlank`).
* **Statements.** A statement never reaches beyond the words of its program, and places do not
  matter to the grammar (`DerivesProgram.append`).
* **Events.** Evaluation goes on where it has stopped (`Interpreter.block_append`).
-/

namespace ViewLang

open Lookahead (Stops)
open Token (Word Spelled NoDigitBehind)

/-! ### Spelling -/

section Spelling

variable {front before after cs ds text : List Char} {c : Char} {kind : Token.Kind}
  {ts us : List Token}

private theorem stops_append {p : Char → Bool} (hafter : Stops p after) (hds : Stops p ds) :
    Stops p (after ++ ds) := by
  cases after with
  | nil => exact hds
  | cons c after => simpa using hafter

/-- A token is spelled as before when the text goes on, as long as no word does. -/
theorem Token.Spelled.append (h : Spelled before after kind text) (hds : Stops isWordChar ds) :
    Spelled before (after ++ ds) kind text := by
  have hdigits : Stops Char.isDigit ds := fun c hc => isDigit_eq_false (hds c hc)
  cases h with
  | keyword hname hafter hreserved hbefore =>
    exact .keyword hname (stops_append hafter hds) hreserved hbefore
  | identifier hname hafter hother => exact .identifier hname (stops_append hafter hds) hother
  | number hne hrun hafter => exact .number hne hrun (stops_append hafter hdigits)
  | string hbody => exact .string hbody
  | symbol hc => exact .symbol hc
  | operator hc => exact .operator hc

theorem noDigitBehind_append_iff (hfront : NoDigitBehind front) :
    NoDigitBehind (front ++ before) ↔ NoDigitBehind before := by
  obtain rfl | ⟨start, c, rfl⟩ := before.eq_nil_or_concat
  · rw [List.append_nil]
    exact iff_of_true hfront (by simp [NoDigitBehind])
  · rw [List.concat_eq_append, ← List.append_assoc, noDigitBehind_append_singleton,
      noDigitBehind_append_singleton]

/-- A token is spelled as before behind a text that does not end with a digit. -/
theorem Token.Spelled.behind (hfront : NoDigitBehind front) (h : Spelled before after kind text) :
    Spelled (front ++ before) after kind text := by
  cases h with
  | keyword hname hafter hreserved hbefore =>
    exact .keyword hname hafter hreserved ((noDigitBehind_append_iff hfront).mpr hbefore)
  | identifier hname hafter hother =>
    refine .identifier hname hafter ?_
    rwa [noDigitBehind_append_iff hfront]
  | number hne hrun hafter => exact .number hne hrun hafter
  | string hbody => exact .string hbody
  | symbol hc => exact .symbol hc
  | operator hc => exact .operator hc

/-- **What follows a blank does not matter.** -/
theorem Lexed.append (hcs : Lexed before cs ts) (hstop : Stops Token.isWordChar ds)
    (hds : Lexed (before ++ cs) ds us) : Lexed before (cs ++ ds) (ts ++ us) := by
  induction hcs with
  | nil => simpa using hds
  | blank hc _ ih =>
    rw [List.append_cons] at hds
    exact .blank hc (ih hds)
  | token hspelled _ ih =>
    rw [← List.append_assoc] at hds
    rw [List.append_assoc]
    exact .token (hspelled.append hstop) (ih hds)

end Spelling

/-! ### Places behind more text -/

/-- The token behind more text, which has so many bytes and so many line feeds. -/
def Token.shift (bytes lines : Nat) (t : Token) : Token where
  kind := t.kind
  text := t.text
  line := t.line + UInt32.ofNat lines
  span := ⟨bytes + t.span.start, bytes + t.span.stop⟩

section Places

variable {front before cs text : List Char} {kind : Token.Kind} {ts : List Token}

@[simp] theorem Token.word_shift (bytes lines : Nat) (t : Token) :
    (t.shift bytes lines).word = t.word := rfl

theorem Place.token_behind_append :
    (Place.behind (front ++ before)).token kind text =
      ((Place.behind before).token kind text).shift (byteLength front) (front.count '\n') := by
  simp only [token, behind, after, Token.shift, byteLength_append, List.count_append,
    UInt32.ofNat_add, Nat.zero_add, Nat.add_assoc]
  rw [UInt32.add_assoc, UInt32.add_comm (UInt32.ofNat (before.count '\n'))]

/-- **What stands before a blank does not matter** except to the places. -/
theorem Lexed.behind (hfront : NoDigitBehind front) (h : Lexed before cs ts) :
    Lexed (front ++ before) cs
      (ts.map (Token.shift (byteLength front) (front.count '\n'))) := by
  induction h with
  | nil => exact .nil
  | blank hc _ ih =>
    rw [← List.append_assoc] at ih
    exact .blank hc ih
  | token hspelled _ ih =>
    rw [← List.append_assoc] at ih
    rw [List.map_cons, ← Place.token_behind_append]
    exact .token (hspelled.behind hfront) ih

end Places

/-! ### Two sources -/

section Sources

variable {first blanks second : String} {ts us : List Token} {nodes more : List Node}

/-- The tokens of two sources with a blank between them. -/
theorem tokenize_append_of_isBlank (hne : blanks ≠ "")
    (hblanks : ∀ c ∈ blanks.toList, isBlank c = true) (hfirst : tokenize first = .ok ts)
    (hsecond : tokenize second = .ok us) :
    tokenize (first ++ blanks ++ second) =
      .ok (ts ++ us.map (Token.shift (byteLength (first ++ blanks).toList)
        ((first ++ blanks).toList.count '\n'))) := by
  rw [tokenize_eq_ok_iff_lexed] at hfirst hsecond ⊢
  have hchars : blanks.toList ≠ [] := fun hnil => hne (String.toList_eq_nil_iff.mp hnil)
  have hbehind : NoDigitBehind (first ++ blanks).toList := by
    rw [String.toList_append]
    exact noDigitBehind_append_of_isBlank (fun hnil => absurd hnil hchars) hblanks
  have hstop : Stops Token.isWordChar (blanks.toList ++ second.toList) :=
    stops_append_of_isBlank hchars hblanks
  -- The second source is read behind the first one and the blanks, and then all of it in one go.
  have hrest := hsecond.behind hbehind
  rw [List.append_nil, String.toList_append] at hrest
  have hwhole := hfirst.append hstop ((lexed_append_iff_of_isBlank hblanks).mpr hrest)
  simpa using hwhole

/-- Statements of two programs one after the other. -/
theorem DerivesProgram.append {words others : List Word} {nodes more : List Node}
    (h : DerivesProgram words nodes) (hmore : DerivesProgram others more) :
    DerivesProgram (words ++ others) (nodes ++ more) := by
  induction nodes generalizing words with
  | nil =>
    cases h
    exact hmore
  | cons node nodes ih =>
    cases h with
    | cons hnode hnodes =>
      rw [List.append_assoc]
      exact .cons hnode (ih hnodes)

theorem parse_append (hts : parse ts = .ok nodes) (hus : parse us = .ok more) (bytes lines : Nat) :
    parse (ts ++ us.map (Token.shift bytes lines)) = .ok (nodes ++ more) := by
  have hwords : (us.map (Token.shift bytes lines)).map Token.word = us.map Token.word := by
    simp [Function.comp_def]
  have happend := (derivesProgram_of_parse hts).append (derivesProgram_of_parse hus)
  apply parse_of_derivesProgram
  rwa [List.map_append, hwords]

/-- **Programs compose.** Let two sources be programs, and join them with blanks, at least one. The
tokens of the whole are those of the first source followed by those of the second, shifted by the
bytes and the line feeds before it; its statements are those of the first source followed by those
of the second; and running it emits what an interpreter emits that evaluates the first program and
then the second one. -/
theorem tokenize_parse_run_append (hfirst : tokenize first = .ok ts)
    (hnodes : parse ts = .ok nodes) (hsecond : tokenize second = .ok us)
    (hmore : parse us = .ok more) (hne : blanks ≠ "")
    (hblanks : ∀ c ∈ blanks.toList, isBlank c = true) :
    let shifted := us.map (Token.shift (byteLength (first ++ blanks).toList)
      ((first ++ blanks).toList.count '\n'))
    tokenize (first ++ blanks ++ second) = .ok (ts ++ shifted) ∧
      parse (ts ++ shifted) = .ok (nodes ++ more) ∧
      ∀ config, run config (first ++ blanks ++ second) =
        .ok (((Interpreter.interpret config {} nodes).interpret config more).events.toList) := by
  intro shifted
  have htokens := tokenize_append_of_isBlank hne hblanks hfirst hsecond
  have hparse : parse (ts ++ shifted) = .ok (nodes ++ more) := parse_append hnodes hmore _ _
  refine ⟨htokens, hparse, fun config => ?_⟩
  have hread : readProgram (first ++ blanks ++ second) = .ok (nodes ++ more) :=
    readProgram_eq_ok_iff.mpr ⟨_, htokens, hparse⟩
  simp only [run, hread, Interpreter.interpret, Interpreter.block_append]

/-- A reserved word behind a digit is a keyword if a blank stands between them, here a wide one and
a line feed. -/
theorem tokenize_parse_run_append_of_digit :
    ∃ ts us nodes,
      tokenize "Text(\"é\n\")let x = 1" = .ok ts ∧ parse ts = .ok nodes ∧
        tokenize "View\x7b\x7d" = .ok us ∧ parse us = .ok [.view []] ∧
        "\u2003\n" ≠ "" ∧ (∀ c ∈ "\u2003\n".toList, isBlank c = true) ∧
        tokenize ("Text(\"é\n\")let x = 1" ++ "\u2003\n" ++ "View\x7b\x7d") =
          .ok (ts ++ [⟨.keyword, "View", 3, ⟨24, 28⟩⟩, ⟨.symbol, "\x7b", 3, ⟨28, 29⟩⟩,
            ⟨.symbol, "\x7d", 3, ⟨29, 30⟩⟩]) ∧
        ∀ config, run config ("Text(\"é\n\")let x = 1" ++ "\u2003\n" ++ "View\x7b\x7d") =
          .ok (((Interpreter.interpret config {} nodes).interpret config
            [.view []]).events.toList) := by
  have hfirst : tokenize "Text(\"é\n\")let x = 1" =
      .ok [⟨.keyword, "Text", 1, ⟨0, 4⟩⟩, ⟨.symbol, "(", 1, ⟨4, 5⟩⟩,
        ⟨.string, "\"é\n\"", 1, ⟨5, 10⟩⟩, ⟨.symbol, ")", 2, ⟨10, 11⟩⟩,
        ⟨.keyword, "let", 2, ⟨11, 14⟩⟩, ⟨.identifier, "x", 2, ⟨15, 16⟩⟩,
        ⟨.operator, "=", 2, ⟨17, 18⟩⟩, ⟨.number, "1", 2, ⟨19, 20⟩⟩] := by cbv
  have hsecond : tokenize "View\x7b\x7d" =
      .ok [⟨.keyword, "View", 1, ⟨0, 4⟩⟩, ⟨.symbol, "\x7b", 1, ⟨4, 5⟩⟩,
        ⟨.symbol, "\x7d", 1, ⟨5, 6⟩⟩] := by cbv
  have hblanks : ∀ c ∈ "\u2003\n".toList, isBlank c = true := List.all_eq_true.mp (by decide)
  obtain ⟨htokens, -, hrun⟩ := tokenize_parse_run_append hfirst
    (by cbv : parse _ = .ok [.text "é\n", .assignment "x" (.number 1)]) hsecond
    (by cbv : parse _ = .ok [.view []]) (by decide) hblanks
  exact ⟨_, _, _, hfirst, by cbv, hsecond, by cbv, by decide, hblanks, htokens, hrun⟩

end Sources

end ViewLang

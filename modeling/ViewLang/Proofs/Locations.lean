import ViewLang.Proofs.LexFailure
import ViewLang.Proofs.LineIndex
import ViewLang.Proofs.OpenBlocks

/-!
# Places in a source

Lines are counted three times. Reading the tokens counts them along the way; parsing goes on from
the line of the last token by the line feeds in its text; and a source finds the line of a byte in
its index. Spans are made in one place and used to cut the text in another. This module shows that
they agree: `Source.Locates` says of a line and a span that the source finds the same line and cuts
out the right characters, and it holds of every token, of the error of a reading that fails, and of
the error of a parsing that fails.

What is shared is a decomposition of the text. The characters before a place determine its offset
and its line (`Place.behind`), and the source finds both again from them
(`Source.lineColumn?_of_append`).
-/

namespace ViewLang

/-- The source finds the line at the start of the span, and the characters `text` in it. -/
structure Source.Locates (s : Source) (line : UInt32) (span : Span) (text : List Char) : Prop where
  line_eq : ∃ column, s.lineColumn? span.start = some (line.toNat, column)
  slice_eq : s.slice? span.start span.stop = some text

namespace ParseError

/-- The error quotes the token `t` and is placed where that token stands. -/
structure PointsAt (e : ParseError) (s : Source) (t : Token) : Prop where
  foundText_eq : e.foundText = "`" ++ t.text ++ "`"
  span_eq : e.span = t.span
  located : s.Locates e.line e.span t.text.toList

/-- The error is about the end of the input and is placed right behind the token `last`. -/
structure PointsBehind (e : ParseError) (s : Source) (last : Token) : Prop where
  foundText_eq : e.foundText = "end of input"
  span_eq : e.span = .empty last.span.stop
  located : s.Locates e.line e.span []

end ParseError

section Locating

variable {s : Source} {before text after : List Char} {line : UInt32} {t : Token} {ts : List Token}

/-- A line and a span are right if they are counted from the characters before the text. -/
theorem Source.locates_of_append (h : s.chars = before ++ text ++ after)
    (hline : line.toNat = 1 + before.count '\n') :
    s.Locates line ⟨byteLength before, byteLength before + byteLength text⟩ text where
  line_eq := by
    rw [List.append_assoc] at h
    refine ⟨(lastLine before).length + 1, ?_⟩
    rw [s.lineColumn?_of_append h, hline, Nat.add_comm 1]
  slice_eq := sliceBytes?_eq_some_iff.mpr ⟨before, after, h, rfl, rfl⟩

theorem Token.StandsBetween.locates (h : t.StandsBetween s.chars before after) :
    s.Locates t.line t.span t.text.toList := by
  have hspan : t.span = ⟨byteLength before, byteLength before + byteLength t.text.toList⟩ := by
    rw [← h.stop_eq, ← h.start_eq]
  rw [hspan]
  exact s.locates_of_append h.text_eq h.line_eq

/-- The line of the end of the input is the line that the source finds behind the last token. -/
theorem Token.StandsBetween.locates_inputEnd (h : t.StandsBetween s.chars before after)
    (hlines : s.chars.count '\n' < 2 ^ 32 - 1) (hlast : ts.getLast? = some t) :
    s.Locates (Token.inputEnd ts).1 (Token.inputEnd ts).2 [] := by
  have hcount := congrArg (List.count '\n') h.text_eq
  rw [List.count_append, List.count_append] at hcount
  have hline : (Token.inputEnd ts).1.toNat = 1 + (before ++ t.text.toList).count '\n' := by
    simp only [Token.inputEnd, hlast, UInt32.toNat_add, UInt32.toNat_ofNat', h.line_eq,
      List.count_append]
    omega
  have hspan : (Token.inputEnd ts).2 =
      ⟨byteLength (before ++ t.text.toList), byteLength (before ++ t.text.toList) + 0⟩ := by
    simp only [Token.inputEnd, hlast, Span.empty, h.stop_eq, byteLength_append, Nat.add_zero]
  have hchars : s.chars = before ++ t.text.toList ++ [] ++ after := by
    rw [List.append_nil, h.text_eq]
  rw [hspan]
  exact s.locates_of_append hchars hline

end Locating

/-! ### Errors and tokens -/

section Errors

variable {s : Source} {ts : List Token}

theorem Source.locates_lexError {e : LexError} (hlines : s.chars.count '\n' < 2 ^ 32 - 1)
    (h : tokenize s.text = .error e) : s.Locates e.line e.span [e.character] := by
  obtain ⟨before, c, after, hstuck, rfl⟩ := exists_stuckBehind_of_tokenize h
  have hchars' : s.chars = before ++ [c] ++ after := by
    rw [List.append_assoc]
    exact hstuck.source_eq
  have hcount : before.count '\n' < 2 ^ 32 - 1 := by
    rw [hchars', List.append_assoc, List.count_append] at hlines
    omega
  simpa [Place.lexError] using s.locates_of_append hchars' (Place.toNat_line_behind hcount)

/-- The error of a parsing that fails quotes one of the tokens, or it is about their end. -/
theorem Source.pointsAt_or_pointsBehind {e : ParseError} (hlines : s.chars.count '\n' < 2 ^ 32 - 1)
    (hts : tokenize s.text = .ok ts) (h : parse ts = .error e) :
    (∃ t ∈ ts, e.PointsAt s t) ∨ ∃ last, ts.getLast? = some last ∧ e.PointsBehind s last := by
  have hstands := fun t => exists_standsBetween_of_tokenize (t := t) hlines hts
  obtain ⟨last, hlast⟩ := exists_getLast?_of_parse h
  obtain ⟨m, hm, rfl⟩ := exists_mismatch_of_parse h
  have hblames := Node.Reader.blames_of_statements hm
  cases hfound : m.found with
  | some t =>
    rw [hfound] at hblames
    have ht : t ∈ ts := by
      cases hblames
      simp
    obtain ⟨before, after, htoken⟩ := hstands t ht
    obtain ⟨htext, hline, hspan⟩ := m.error_of_found_eq_some hfound ts
    refine .inl ⟨t, ht, htext, hspan, ?_⟩
    rw [hline, hspan]
    exact htoken.locates
  | none =>
    obtain ⟨before, after, htoken⟩ := hstands last (List.mem_of_getLast? hlast)
    obtain ⟨htext, hline, hspan⟩ := m.error_of_found_eq_none hfound ts
    refine .inr ⟨last, hlast, htext, ?_, ?_⟩
    · rw [hspan, Token.inputEnd, hlast]
    · rw [hline, hspan]
      exact htoken.locates_inputEnd hlines hlast

/-- A block that the error points to is opened by a brace of the source. -/
theorem Source.slice?_openedAt {e : ParseError} {brace : Span}
    (hlines : s.chars.count '\n' < 2 ^ 32 - 1) (hts : tokenize s.text = .ok ts)
    (h : parse ts = .error e) (hopened : e.openedAt = some brace) :
    s.slice? brace.start brace.stop = some ['{'] := by
  obtain ⟨i, ⟨t, ht, hword, rfl⟩, -⟩ := exists_leftOpenAt_of_parse h hopened
  obtain ⟨before, after, hstands⟩ :=
    exists_standsBetween_of_tokenize hlines hts (List.mem_of_getElem? ht)
  have htext : t.text = "\x7b" := congrArg Token.Word.text hword
  have hslice := hstands.locates.slice_eq
  rwa [htext] at hslice

/-- **All places agree with the source.** If the lines of a source can be counted, then for each
token, and for the error if there is one, the source finds the line that has been recorded, and cuts
out the characters that are meant. -/
theorem Source.locates_tokens_and_errors (s : Source) (hlines : s.chars.count '\n' < 2 ^ 32 - 1) :
    (∀ e, tokenize s.text = .error e → s.Locates e.line e.span [e.character]) ∧
      ∀ ts, tokenize s.text = .ok ts →
        (∀ t ∈ ts, s.Locates t.line t.span t.text.toList) ∧
          ∀ e, parse ts = .error e →
            ((∃ t ∈ ts, e.PointsAt s t) ∨
              ∃ last, ts.getLast? = some last ∧ e.PointsBehind s last) ∧
            ∀ brace, e.openedAt = some brace →
              s.slice? brace.start brace.stop = some ['{'] := by
  refine ⟨fun e => Source.locates_lexError hlines, fun ts hts => ⟨fun t ht => ?_, fun e he => ?_⟩⟩
  · obtain ⟨before, after, hstands⟩ := exists_standsBetween_of_tokenize hlines hts ht
    exact hstands.locates
  · exact ⟨Source.pointsAt_or_pointsBehind hlines hts he,
      fun brace => Source.slice?_openedAt hlines hts he⟩

/-- A text that spans three lines, and then nothing where its parenthesis should be closed. -/
def unclosedText : Source :=
  .ofText "main.m" "Text(\"é\n\n\"\n"

theorem Source.locates_tokens_and_errors_of_unclosedText :
    ∃ ts e, tokenize unclosedText.text = .ok ts ∧ parse ts = .error e ∧ e.line = 3 ∧
      ∃ last, ts.getLast? = some last ∧ e.PointsBehind unclosedText last := by
  have hts : tokenize unclosedText.text =
      .ok [⟨.keyword, "Text", 1, ⟨0, 4⟩⟩, ⟨.symbol, "(", 1, ⟨4, 5⟩⟩,
        ⟨.string, "\"é\n\n\"", 1, ⟨5, 11⟩⟩] := by cbv
  have herror : parse [⟨.keyword, "Text", 1, ⟨0, 4⟩⟩, ⟨.symbol, "(", 1, ⟨4, 5⟩⟩,
      ⟨.string, "\"é\n\n\"", 1, ⟨5, 11⟩⟩] =
        .error ⟨.word ")", none, 3, .empty 11, none⟩ := by
    rw [parse, Node.Reader.statements_eq_error (.inl rfl) rfl]
    rfl
  obtain ⟨hplace, -⟩ := (unclosedText.locates_tokens_and_errors (by decide)).2 _ hts |>.2 _ herror
  refine ⟨_, _, hts, herror, rfl, hplace.resolve_left ?_⟩
  -- No token has the empty span of the error.
  rintro ⟨t, ht, hpoints⟩
  have hspans : ∀ u ∈ [(⟨.keyword, "Text", 1, ⟨0, 4⟩⟩ : Token), ⟨.symbol, "(", 1, ⟨4, 5⟩⟩,
      ⟨.string, "\"é\n\n\"", 1, ⟨5, 11⟩⟩], Span.empty 11 ≠ u.span := by decide
  exact hspans t ht hpoints.span_eq

end Errors

end ViewLang

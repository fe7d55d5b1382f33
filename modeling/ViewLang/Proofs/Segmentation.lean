import ViewLang.Proofs.Lexing

/-!
# Readings are segmentations

What it means for tokens to be those of a text can be said without following the text from left to
right. A **segmentation** of a text is a list of tokens whose spans are in order, are not empty and
do not overlap; every token has exactly the text that its span covers, spelled as its kind asks for
between the characters around it, and carries the line on which it starts; and every character
outside the spans is a blank.

The main result is that a source whose lines can be counted in a machine word is read as `ts`
exactly when `ts` is a segmentation of it. In particular a source has at most one segmentation: how
long each token is, of which kind it is, and where the next one starts is all decided by the text.
-/

namespace ViewLang

/-! ### Tokens in a text -/

namespace Token

/-- The token stands in the text `cs` between the characters `before` and `after`: that is where its
span says it is, its text is what the span covers, it is spelled as its kind asks for, and its line
is counted from one. -/
structure StandsBetween (t : Token) (cs before after : List Char) : Prop where
  text_eq : cs = before ++ t.text.toList ++ after
  start_eq : t.span.start = byteLength before
  stop_eq : t.span.stop = byteLength before + byteLength t.text.toList
  spelled : Spelled before after t.kind t.text.toList
  line_eq : t.line.toNat = 1 + before.count '\n'

/-- The byte at `offset` lies outside the span of the token. -/
def Avoids (t : Token) (offset : Nat) : Prop :=
  offset < t.span.start ∨ t.span.stop ≤ offset

end Token

/-- The tokens `ts` cut the text `cs` into pieces. -/
structure Segmentation (cs : List Char) (ts : List Token) : Prop where
  /-- The spans are in order, and none begins before the last one has ended. -/
  ordered : ts.Pairwise fun t u => t.span.stop ≤ u.span.start
  nonempty : ∀ t ∈ ts, t.span.start < t.span.stop
  stands : ∀ t ∈ ts, ∃ before after, t.StandsBetween cs before after
  /-- A character before, between or after the spans is a blank. -/
  blank_outside : ∀ before c after, cs = before ++ c :: after →
    (∀ t ∈ ts, t.Avoids (byteLength before)) → isBlank c = true

/-! ### Segmentations of the rest of a text -/

/-- The tokens `ts` cut the characters `cs`, which stand behind `front`, into pieces. -/
private structure SegmentsBehind (front cs : List Char) (ts : List Token) : Prop where
  ordered : ts.Pairwise fun t u => t.span.stop ≤ u.span.start
  behind : ∀ t ∈ ts, byteLength front ≤ t.span.start
  stands : ∀ t ∈ ts, ∃ before after, t.StandsBetween (front ++ cs) before after
  blank_outside : ∀ before c after, cs = before ++ c :: after →
    (∀ t ∈ ts, t.Avoids (byteLength front + byteLength before)) → isBlank c = true

section Pieces

variable {front cs text rest : List Char} {c : Char} {kind : Token.Kind} {t : Token}
  {ts : List Token}

private theorem Token.StandsBetween.start_lt_stop {before after : List Char}
    (h : t.StandsBetween cs before after) : t.span.start < t.span.stop := by
  have := byteLength_pos_iff.mpr h.spelled.ne_nil
  rw [h.start_eq, h.stop_eq]
  omega

private theorem segmentation_iff_segmentsBehind : Segmentation cs ts ↔ SegmentsBehind [] cs ts := by
  constructor
  · intro h
    exact ⟨h.ordered, fun t ht => by simp, by simpa using h.stands, by simpa using h.blank_outside⟩
  · intro h
    refine ⟨h.ordered, fun t ht => ?_, by simpa using h.stands, by simpa using h.blank_outside⟩
    obtain ⟨before, after, hstands⟩ := h.stands t ht
    exact hstands.start_lt_stop

/-- The line of a place is counted from one, if the count fits. -/
theorem Place.toNat_line_behind (hlines : front.count '\n' < 2 ^ 32 - 1) :
    (Place.behind front).line.toNat = 1 + front.count '\n' := by
  have hone : (1 : UInt32).toNat = 1 := rfl
  simp only [Place.behind, Place.after, UInt32.toNat_add, UInt32.toNat_ofNat', hone]
  omega

@[simp] theorem Place.offset_behind (front : List Char) :
    (Place.behind front).offset = byteLength front :=
  Nat.zero_add _

/-- A token that is spelled at a place stands there, as long as its line can be counted. -/
private theorem standsBetween_token (h : Token.Spelled front rest kind text)
    (hlines : front.count '\n' < 2 ^ 32 - 1) :
    ((Place.behind front).token kind text).StandsBetween (front ++ (text ++ rest)) front rest where
  text_eq := by simp [Place.token]
  start_eq := Place.offset_behind front
  stop_eq := by simp [Place.token]
  spelled := by simpa [Place.token] using h
  line_eq := Place.toNat_line_behind hlines

/-- The place and the spelling of a token determine it. -/
private theorem eq_token_of_standsBetween {before after : List Char}
    (h : t.StandsBetween cs before after) (hlines : before.count '\n' < 2 ^ 32 - 1) :
    t = (Place.behind before).token t.kind t.text.toList := by
  have hplace := standsBetween_token h.spelled hlines
  have hline : t.line = ((Place.behind before).token t.kind t.text.toList).line := by
    rw [← UInt32.toNat_inj, h.line_eq, hplace.line_eq]
  have hstart := h.start_eq.trans hplace.start_eq.symm
  have hstop : t.span.stop = ((Place.behind before).token t.kind t.text.toList).span.stop := by
    rw [h.stop_eq, hplace.stop_eq, Place.toList_text_token]
  obtain ⟨kind, text, line, ⟨start, stop⟩⟩ := t
  simp only [Place.token, String.ofList_toList, Token.mk.injEq, Span.mk.injEq]
    at hline hstart hstop ⊢
  exact ⟨trivial, trivial, hline, hstart, hstop⟩

/-! ### One piece at a time -/

private theorem SegmentsBehind.nil : SegmentsBehind front [] [] :=
  ⟨.nil, by simp, by simp, by simp⟩

private theorem SegmentsBehind.blank (hc : isBlank c = true)
    (h : SegmentsBehind (front ++ [c]) cs ts) : SegmentsBehind front (c :: cs) ts := by
  obtain ⟨hordered, hbehind, hstands, hblank⟩ := h
  rw [List.append_assoc, List.singleton_append] at hstands
  refine ⟨hordered, fun t ht => ?_, hstands, ?_⟩
  · have := hbehind t ht
    rw [byteLength_append] at this
    omega
  · intro before d after hcs havoids
    cases before with
    | nil =>
      obtain ⟨rfl, -⟩ := List.cons.inj hcs
      exact hc
    | cons e before =>
      obtain ⟨rfl, htail⟩ := List.cons.inj hcs
      refine hblank before d after htail fun t ht => ?_
      simpa [Nat.add_assoc] using havoids t ht

private theorem SegmentsBehind.token (hspelled : Token.Spelled front rest kind text)
    (hlines : front.count '\n' < 2 ^ 32 - 1) (h : SegmentsBehind (front ++ text) rest ts) :
    SegmentsBehind front (text ++ rest) ((Place.behind front).token kind text :: ts) := by
  obtain ⟨hordered, hbehind, hstands, hblank⟩ := h
  rw [List.append_assoc] at hstands
  have hplace := standsBetween_token hspelled hlines
  refine ⟨List.pairwise_cons.mpr ⟨fun t ht => ?_, hordered⟩,
    List.forall_mem_cons.mpr ⟨hplace.start_eq.ge, fun t ht => ?_⟩,
    List.forall_mem_cons.mpr ⟨⟨front, rest, hplace⟩, hstands⟩, ?_⟩
  · rw [hplace.stop_eq, Place.toList_text_token, ← byteLength_append]
    exact hbehind t ht
  · have := hbehind t ht
    rw [byteLength_append] at this
    omega
  · intro before c after hcs havoids
    obtain ⟨hfirst, havoids⟩ := List.forall_mem_cons.mp havoids
    -- The place does not lie in the first token, so it lies behind it.
    have hle : byteLength text ≤ byteLength before := by
      rw [Token.Avoids, hplace.start_eq, hplace.stop_eq, Place.toList_text_token] at hfirst
      omega
    obtain ⟨mid, rfl, hrest⟩ := exists_append_of_byteLength_le hcs hle
    refine hblank mid c after hrest fun t ht => ?_
    simpa [Nat.add_assoc] using havoids t ht

/-- The first token of a segmentation stands behind blanks, and the other tokens segment what
follows it. -/
private theorem SegmentsBehind.exists_uncons (h : SegmentsBehind front cs (t :: ts)) :
    ∃ blanks after, cs = blanks ++ (t.text.toList ++ after) ∧
      (∀ c ∈ blanks, isBlank c = true) ∧ t.StandsBetween (front ++ cs) (front ++ blanks) after ∧
        SegmentsBehind (front ++ blanks ++ t.text.toList) after ts := by
  obtain ⟨hordered, hbehind, hstands, hblank⟩ := h
  obtain ⟨hfirst, hordered⟩ := List.pairwise_cons.mp hordered
  obtain ⟨⟨before, after, hplace⟩, hstands⟩ := List.forall_mem_cons.mp hstands
  have hle : byteLength front ≤ byteLength before := by
    rw [← hplace.start_eq]
    exact hbehind t List.mem_cons_self
  obtain ⟨blanks, rfl, rfl⟩ : ∃ blanks, before = front ++ blanks ∧
      cs = blanks ++ (t.text.toList ++ after) :=
    exists_append_of_byteLength_le (by rw [hplace.text_eq, List.append_assoc]) hle
  refine ⟨blanks, after, rfl, fun c hc => ?_, hplace, hordered, fun u hu => ?_, fun u hu => ?_, ?_⟩
  · obtain ⟨left, right, rfl⟩ := List.append_of_mem hc
    refine hblank left c (right ++ (t.text.toList ++ after)) (by simp) fun u hu => .inl ?_
    -- The first token starts behind the blanks, and every other one behind it.
    have hstart : byteLength front + byteLength left < t.span.start := by
      have := c.utf8Size_pos
      rw [hplace.start_eq]
      simp only [byteLength_append, byteLength_cons]
      omega
    rcases List.mem_cons.mp hu with rfl | hu
    · exact hstart
    · have := hfirst u hu
      have := hplace.start_lt_stop
      omega
  · rw [byteLength_append, ← hplace.stop_eq]
    exact hfirst u hu
  · obtain ⟨left, right, hu⟩ := hstands u hu
    exact ⟨left, right, by simpa using hu⟩
  · intro left c right hafter havoids
    refine hblank (blanks ++ (t.text.toList ++ left)) c right (by simp [hafter])
      (List.forall_mem_cons.mpr ⟨.inr ?_, fun u hu => ?_⟩)
    · rw [hplace.stop_eq]
      simp only [byteLength_append]
      omega
    · simpa [Nat.add_assoc] using havoids u hu

/-! ### Readings and segmentations -/

private theorem segmentsBehind_of_lexed (h : Lexed front cs ts)
    (hlines : (front ++ cs).count '\n' < 2 ^ 32 - 1) : SegmentsBehind front cs ts := by
  induction h with
  | nil => exact .nil
  | blank hc _ ih => exact .blank hc (ih (by simpa using hlines))
  | token hspelled _ ih =>
    refine .token hspelled ?_ (ih (by simpa using hlines))
    rw [List.count_append] at hlines
    omega

private theorem lexed_of_segmentsBehind (h : SegmentsBehind front cs ts)
    (hlines : (front ++ cs).count '\n' < 2 ^ 32 - 1) : Lexed front cs ts := by
  -- Token by token: what stands before the first one is blank, and it is the one read next.
  induction ts generalizing front cs with
  | nil =>
    have hblanks : ∀ c ∈ cs, isBlank c = true := by
      intro c hc
      obtain ⟨before, after, rfl⟩ := List.append_of_mem hc
      exact h.blank_outside before c after rfl (by simp)
    rw [← List.append_nil cs, lexed_append_iff_of_isBlank hblanks]
    exact .nil
  | cons t ts ih =>
    obtain ⟨blanks, after, rfl, hblanks, hplace, hrest⟩ := h.exists_uncons
    rw [lexed_append_iff_of_isBlank hblanks]
    have hlexed := Lexed.token hplace.spelled (ih hrest (by simpa using hlines))
    rw [← List.append_assoc, List.count_append] at hlines
    rwa [← eq_token_of_standsBetween hplace (by omega)] at hlexed

/-- Every token that is read stands in the source. -/
theorem exists_standsBetween_of_tokenize {source : String}
    (hlines : source.toList.count '\n' < 2 ^ 32 - 1) (h : tokenize source = .ok ts) (ht : t ∈ ts) :
    ∃ before after, t.StandsBetween source.toList before after :=
  (segmentsBehind_of_lexed (tokenize_eq_ok_iff_lexed.mp h) hlines).stands t ht

/-- **Reading is segmentation.** On a source with fewer line feeds than a line number can count,
reading succeeds with the tokens `ts` exactly when they are a segmentation of its characters. -/
theorem tokenize_eq_ok_iff_segmentation {source : String} {ts : List Token}
    (hlines : source.toList.count '\n' < 2 ^ 32 - 1) :
    tokenize source = .ok ts ↔ Segmentation source.toList ts := by
  rw [tokenize_eq_ok_iff_lexed, segmentation_iff_segmentsBehind]
  constructor
  · intro h
    exact segmentsBehind_of_lexed h (by simpa using hlines)
  · intro h
    exact lexed_of_segmentsBehind h (by simpa using hlines)

/-- A reserved word behind a digit is cut off as a name. -/
theorem segmentation_of_glued_reserved_word :
    "\"é\n\" 1let".toList.count '\n' < 2 ^ 32 - 1 ∧
      Segmentation "\"é\n\" 1let".toList
        [⟨.string, "\"é\n\"", 1, ⟨0, 5⟩⟩, ⟨.number, "1", 2, ⟨6, 7⟩⟩,
          ⟨.identifier, "let", 2, ⟨7, 10⟩⟩] :=
  ⟨by decide, (tokenize_eq_ok_iff_segmentation (by decide)).mp (by cbv)⟩

end Pieces

end ViewLang

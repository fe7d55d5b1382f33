import ViewLang.Proofs.Readers

/-!
# Parsing decides the grammar

Statements are read in a loop that keeps the blocks which are still open in a list.
`Completes blocks done ts ns` says what the tokens `ts` have to derive there: the rest of the
innermost open block and its closing brace, then the rest of the block around it, and so on to the
end of the program. Every step of the loop preserves it.

The main result is `parse_eq_ok_iff_derivesProgram`: parsing succeeds with `ns` exactly when the
words of the tokens derive `ns`.
-/

namespace ViewLang

open Token (Word)
open Token.Word (keyword identifier symbol operator)

namespace Node

/-! ### The reading loop -/

section Loop

variable {blocks outer : List OpenBlock} {block : OpenBlock} {done nodes : List Node}
  {first : Token} {ts rest : List Token} {words : List Word}

/-- Where an item is read, the loop goes on with the statement in the innermost open block, or in
the block that the item opens. -/
theorem statements_item {i : Item} (h : Reader.item first ts = .ok (i, rest)) :
    statements blocks done (first :: ts) =
      match i with
      | .leaf node => statements blocks (node :: done) rest
      | .opening header brace => statements (⟨header, brace, done⟩ :: blocks) [] rest := by
  rw [statements]
  · split
    · next hitem =>
      rw [h] at hitem
      cases hitem
    · next hitem =>
      rw [h] at hitem
      cases hitem
      rfl
    · next hitem =>
      rw [h] at hitem
      cases hitem
      rfl
  · intro _ _ _ hclose
    rw [Reader.is_close_eq_false_of_item h] at hclose
    cases hclose

theorem statements_close (h : first.is .symbol "\x7d" = true) :
    statements (block :: outer) done (first :: ts) =
      statements outer (block.header.node done.reverse :: block.before) ts := by
  rw [statements]
  exact h

/-- **What remains to be derived**: the rest of the innermost open block and its closing brace, then
the rest of the block around it, and so on to the end of the program. -/
def Completes : List OpenBlock → List Node → List Token → List Node → Prop
  | [], done, ts, nodes =>
    ∃ more, DerivesProgram (ts.map Token.word) more ∧ nodes = done.reverse ++ more
  | block :: outer, done, ts, nodes =>
    ∃ inner close rest more, ts = inner ++ close :: rest ∧
      DerivesProgram (inner.map Token.word) more ∧ close.word = symbol "\x7d" ∧
        Completes outer (block.header.node (done.reverse ++ more) :: block.before) rest nodes

/-- A statement at the front goes to the statements read before. -/
theorem Completes.cons {used : List Token} {node : Node}
    (hnode : DerivesStatement (used.map Token.word) node)
    (h : Completes blocks (node :: done) rest nodes) :
    Completes blocks done (used ++ rest) nodes := by
  cases blocks with
  | nil =>
    obtain ⟨more, hmore, rfl⟩ := h
    refine ⟨node :: more, ?_, by simp⟩
    rw [List.map_append]
    exact .cons hnode hmore
  | cons block outer =>
    obtain ⟨inner, close, rest, more, rfl, hmore, hclose, h⟩ := h
    refine ⟨used ++ inner, close, rest, node :: more, by simp, ?_, hclose, by simpa using h⟩
    rw [List.map_append]
    exact .cons hnode hmore

/-- A header and its brace at the front open a block. -/
theorem Completes.opening {front : List Token} {brace : Token} {header : Header} {span : Span}
    (hheader : HeaderForm (front.map Token.word) header) (hbrace : brace.word = symbol "\x7b")
    (h : Completes (⟨header, span, done⟩ :: blocks) [] rest nodes) :
    Completes blocks done (front ++ [brace] ++ rest) nodes := by
  obtain ⟨inner, close, rest, more, rfl, hmore, hclose, h⟩ := h
  have hblock : DerivesBlock ((brace :: (inner ++ [close])).map Token.word) more := by
    simp only [List.map_cons, List.map_append, List.map_nil, hbrace, hclose]
    exact .braces hmore
  have hnode := derivesStatement_of_headerForm hheader hblock
  rw [← List.map_append] at hnode
  simpa using Completes.cons hnode h

/-- **Soundness of the loop**: what it reads completes the open blocks. -/
theorem completes_of_statements (h : statements blocks done ts = .ok nodes) :
    Completes blocks done ts nodes := by
  fun_induction statements blocks done ts with
  | case1 done =>
    cases h
    exact ⟨[], .nil, by simp⟩
  | case2 => cases h
  | case3 done t ts block outer hclose ih =>
    simp only [List.unattach_reverse, List.unattach_attach] at ih
    exact ⟨[], t, ts, [], rfl, .nil, Token.word_eq_iff.mpr hclose, by simpa using ih h⟩
  | case4 => cases h
  | case5 blocks done t ts node rest hitem hopen ih =>
    obtain ⟨used, rfl, hform⟩ := Reader.itemForm_of_item hitem
    rw [← List.cons_append]
    exact (ih h).cons (derivesStatement_of_leafForm hform)
  | case6 blocks done t ts header brace rest hitem hopen ih =>
    obtain ⟨used, rfl, front, u, hused, hheader, hbrace, rfl⟩ := Reader.itemForm_of_item hitem
    rw [← List.cons_append, hused]
    exact Completes.opening hheader hbrace (ih h)

/-! ### Completeness of the loop -/

private theorem statements_of_leafForm (node : Node) {used : List Token}
    (h : LeafForm (used.map Token.word) node) :
    statements blocks done (used ++ rest) = statements blocks (node :: done) rest := by
  cases used with
  | nil => cases node <;> simp [LeafForm] at h
  | cons first used => exact statements_item (Reader.item_of_itemForm (.leaf node) h rest)

private theorem statements_of_headerForm {front : List Token} {brace : Token} {header : Header}
    (hheader : HeaderForm (front.map Token.word) header) (hbrace : brace.word = symbol "\x7b") :
    statements blocks done (front ++ brace :: rest) =
      statements (⟨header, brace.span, done⟩ :: blocks) [] rest := by
  cases front with
  | nil => cases header <;> simp [HeaderForm] at hheader
  | cons first front =>
    have hform : ItemForm (first :: (front ++ [brace])) (.opening header brace.span) :=
      ⟨first :: front, brace, rfl, hheader, hbrace, rfl⟩
    have hitem := Reader.item_of_itemForm _ hform rest
    rw [List.append_assoc, List.singleton_append] at hitem
    exact statements_item hitem

mutual

/-- The loop reads a statement at the front, whatever follows. -/
private theorem statements_of_derivesStatement {words : List Word} {node : Node}
    (h : DerivesStatement words node) {used : List Token} (hused : used.map Token.word = words)
    {blocks : List OpenBlock} {done : List Node} {rest : List Token} :
    statements blocks done (used ++ rest) = statements blocks (node :: done) rest := by
  match h with
  | .view hblock => exact statements_of_derivesBlock hblock .view rfl hused
  | .assignment hvalue => exact statements_of_leafForm (.assignment _ _) ⟨_, hvalue, hused⟩
  | .function hblock => exact statements_of_derivesBlock hblock (.function _) rfl hused
  | .component hblock => exact statements_of_derivesBlock hblock (.component _) (.inl rfl) hused
  | .componentWithParameters hblock =>
    exact statements_of_derivesBlock hblock (.component _) (.inr rfl) hused
  | .text hquoted => exact statements_of_leafForm (.text _) ⟨_, hquoted, hused⟩
  | .button hquoted => exact statements_of_leafForm (.button _) ⟨_, hquoted, hused⟩
  | .call => exact statements_of_leafForm (.call _) hused

/-- The loop reads a header and its block at the front. -/
private theorem statements_of_derivesBlock {front words : List Word} {body : List Node}
    (h : DerivesBlock words body) (header : Header) (hheader : HeaderForm front header)
    {used : List Token} (hused : used.map Token.word = front ++ words)
    {blocks : List OpenBlock} {done : List Node} {rest : List Token} :
    statements blocks done (used ++ rest) = statements blocks (header.node body :: done) rest := by
  match h with
  | .braces hprogram =>
    obtain ⟨before, block, rfl, rfl, hblock⟩ := List.map_eq_append_iff.mp hused
    obtain ⟨brace, tail, rfl, hbrace, htail⟩ := List.map_eq_cons_iff.mp hblock
    obtain ⟨inner, closing, rfl, hinner, hclosing⟩ := List.map_eq_append_iff.mp htail
    obtain ⟨close, rfl, hclose⟩ := List.map_eq_singleton_iff.mp hclosing
    rw [List.append_assoc, List.cons_append, statements_of_headerForm hheader hbrace,
      List.append_assoc, statements_of_derivesProgram hprogram hinner, List.append_nil,
      List.singleton_append, statements_close (Token.word_eq_iff.mp hclose), List.reverse_reverse]

/-- The loop reads statements at the front. -/
private theorem statements_of_derivesProgram {words : List Word} {nodes : List Node}
    (h : DerivesProgram words nodes) {used : List Token} (hused : used.map Token.word = words)
    {blocks : List OpenBlock} {done : List Node} {rest : List Token} :
    statements blocks done (used ++ rest) = statements blocks (nodes.reverse ++ done) rest := by
  match h with
  | .nil =>
    obtain rfl := List.map_eq_nil_iff.mp hused
    rfl
  | .cons hnode hnodes =>
    obtain ⟨first, second, rfl, hfirst, hsecond⟩ := List.map_eq_append_iff.mp hused
    rw [List.append_assoc, statements_of_derivesStatement hnode hfirst,
      statements_of_derivesProgram hnodes hsecond]
    simp

end

/-- The loop succeeds exactly with what completes the open blocks. -/
theorem statements_eq_ok_iff_completes :
    statements blocks done ts = .ok nodes ↔ Completes blocks done ts nodes := by
  refine ⟨completes_of_statements, fun h => ?_⟩
  -- From the innermost block outwards: its statements are read, and then its brace closes it.
  induction blocks generalizing done ts with
  | nil =>
    obtain ⟨more, hmore, rfl⟩ := h
    rw [← List.append_nil ts, statements_of_derivesProgram hmore rfl, statements]
    simp
  | cons block outer ih =>
    obtain ⟨inner, close, rest, more, rfl, hmore, hclose, h⟩ := h
    rw [statements_of_derivesProgram hmore rfl, statements_close (Token.word_eq_iff.mp hclose)]
    exact ih (by simpa using h)

end Loop

end Node

section Whole

variable {ts : List Token} {ns : List Node}

private theorem statements_nil_eq_ok_iff :
    Node.statements [] [] ts = .ok ns ↔ DerivesProgram (ts.map Token.word) ns := by
  rw [Node.statements_eq_ok_iff_completes]
  simp [Node.Completes]

/-- Parsing is sound for the grammar. -/
theorem derivesProgram_of_parse (h : parse ts = .ok ns) :
    DerivesProgram (ts.map Token.word) ns := by
  rw [parse] at h
  split at h
  · next nodes hnodes =>
    obtain rfl := Except.ok.inj h
    exact statements_nil_eq_ok_iff.mp hnodes
  · cases h

/-- Parsing is complete for the grammar. -/
theorem parse_of_derivesProgram (h : DerivesProgram (ts.map Token.word) ns) :
    parse ts = .ok ns := by
  rw [parse, statements_nil_eq_ok_iff.mpr h]

/-- **Parsing decides the grammar.** Parsing the tokens succeeds with the statements `ns` exactly
when the words of the tokens derive `ns`. -/
theorem parse_eq_ok_iff_derivesProgram :
    parse ts = .ok ns ↔ DerivesProgram (ts.map Token.word) ns :=
  ⟨derivesProgram_of_parse, parse_of_derivesProgram⟩

end Whole

end ViewLang

import Mathlib
import ViewLang.Proofs.Blame
import ViewLang.Proofs.Parsing

/-!
# Where parsing fails

Parsing that fails names the first token with which all hope of a program is lost, and the end of
the input only where there is hope left. What has been read so far can always be completed by
closing the blocks that are open, so the loop that reads statements passes on the blame of the
reader that fails (`blames_of_statements`).

The main result is `parse_error_blames_first_misfit`.
-/

namespace ViewLang

open Token (Word)
open Token.Word (symbol)

namespace Node

namespace Reader

variable {ts : List Token}

/-! ### The loop -/

/-- The reading loop, which takes all tokens there are. -/
def program (blocks : List OpenBlock) (done : List Node) : Reader (List Node) :=
  fun ts => (statements blocks done ts).map fun nodes => (nodes, [])

section Loop

variable {blocks outer : List OpenBlock} {done : List Node} {t : Token} {e : Mismatch}

theorem program_eq_ok_iff {p : List Node × List Token} :
    program blocks done ts = .ok p ↔ statements blocks done ts = .ok p.1 ∧ p.2 = [] := by
  obtain ⟨nodes, rest⟩ := p
  rw [program]
  cases statements blocks done ts <;> simp [Except.map, eq_comm]

/-- A program is complete once the blocks that are open have been closed. -/
theorem completable_program (blocks : List OpenBlock) (done : List Node) :
    (program blocks done).Completable [] := by
  induction blocks generalizing done with
  | nil => exact ⟨[], done.reverse, by simp [program, statements, Except.map]⟩
  | cons block outer ih =>
    obtain ⟨more, nodes, hmore⟩ := ih (block.header.node done.reverse :: block.before)
    have hclose : (Token.ofWord (symbol "\x7d")).is .symbol "\x7d" = true := rfl
    refine ⟨.ofWord (symbol "\x7d") :: more, nodes, ?_⟩
    rw [List.nil_append] at hmore ⊢
    rw [program_eq_ok_iff] at hmore ⊢
    rwa [statements_close hclose]

/-- Where no block is closed and no item can be read, the loop fails with the item. -/
theorem statements_eq_error (hclose : blocks = [] ∨ t.is .symbol "\x7d" = false)
    (h : item t ts = .error e) : statements blocks done (t :: ts) = .error e := by
  rw [statements]
  · split
    · next hitem =>
      rw [h] at hitem
      cases hitem
      rfl
    · next hitem =>
      rw [h] at hitem
      cases hitem
    · next hitem =>
      rw [h] at hitem
      cases hitem
  · rintro block outer rfl hopen
    rcases hclose with hnil | hclose
    · cases hnil
    · rw [hclose] at hopen
      cases hopen

theorem program_close {block : OpenBlock} (h : t.is .symbol "\x7d" = true) :
    program (block :: outer) done (t :: ts) =
      program outer (block.header.node done.reverse :: block.before) ts := by
  rw [program, program, statements_close h]

theorem program_item {i : Item} {rest : List Token} (h : item t ts = .ok (i, rest)) :
    program blocks done (t :: ts) =
      match i with
      | .leaf node => program blocks (node :: done) rest
      | .opening header brace => program (⟨header, brace, done⟩ :: blocks) [] rest := by
  rw [program, statements_item h]
  cases i <;> rfl

/-- What an item has read does not depend on what follows. -/
theorem exists_used_of_item {i : Item} {rest : List Token} (h : item t ts = .ok (i, rest)) :
    ∃ used, ts = used ++ rest ∧ ∀ more, item t (used ++ more) = .ok (i, more) := by
  obtain ⟨used, rfl, hform⟩ := itemForm_of_item h
  exact ⟨used, rfl, item_of_itemForm i hform⟩

/-- An item that can be completed can be completed to a program. -/
theorem Completable.item {us : List Token} (h : (item t).Completable us) :
    (program blocks done).Completable (t :: us) := by
  obtain ⟨more, i, hi⟩ := h
  obtain ⟨used, hused, hmore⟩ := exists_used_of_item hi
  rw [List.append_nil] at hused
  cases i with
  | leaf node =>
    obtain ⟨after, nodes, hafter⟩ := completable_program blocks (node :: done)
    refine ⟨more ++ after, nodes, ?_⟩
    rw [List.cons_append, ← List.append_assoc, hused, program_item (hmore after)]
    exact hafter
  | opening header brace =>
    obtain ⟨after, nodes, hafter⟩ := completable_program (⟨header, brace, done⟩ :: blocks) []
    refine ⟨more ++ after, nodes, ?_⟩
    rw [List.cons_append, ← List.append_assoc, hused, program_item (hmore after)]
    exact hafter

theorem Hopeless.item {us : List Token} (h : (item t).Hopeless us)
    (hclose : blocks = [] ∨ t.is .symbol "\x7d" = false) :
    (program blocks done).Hopeless (t :: us) := by
  intro more p hp
  rw [program_eq_ok_iff] at hp
  cases hmore : Reader.item t (us ++ more) with
  | error e =>
    have herror : statements blocks done (t :: (us ++ more)) = .error e :=
      statements_eq_error hclose hmore
    cases herror.symm.trans hp.1
  | ok q => exact h more q hmore

/-- **The loop blames the first token that does not fit.** -/
theorem blames_of_statements (h : statements blocks done ts = .error e) :
    (program blocks done).Blames ts e.found := by
  fun_induction statements blocks done ts with
  | case1 => cases h
  | case2 =>
    cases h
    exact .ending (completable_program _ _)
  | case3 done t ts block outer hclose ih =>
    simp only [List.unattach_reverse, List.unattach_attach] at ih
    exact (ih h).prepend [t] fun us => program_close hclose
  | case4 blocks done t ts e' hitem hopen =>
    cases h
    have hclose : blocks = [] ∨ t.is .symbol "\x7d" = false := by
      cases blocks with
      | nil => exact .inl rfl
      | cons block outer => exact .inr (Bool.eq_false_iff.mpr (hopen block outer rfl))
    rcases prompt_item_or_throw t with hprompt | hthrow
    · exact (hprompt.blames ts e hitem).1.transfer [t] (fun _ => Completable.item)
        fun _ hus => hus.item hclose
    · have hhopeless : (item t).Hopeless [] := by
        intro more p hp
        rw [hthrow] at hp
        cases hp
      rw [hthrow] at hitem
      cases hitem
      exact .misfit (completable_program _ _) (hhopeless.item hclose)
  | case5 blocks done t ts node rest hitem hopen ih =>
    obtain ⟨used, rfl, hmore⟩ := exists_used_of_item hitem
    exact (ih h).prepend (t :: used) fun us => program_item (hmore us)
  | case6 blocks done t ts header brace rest hitem hopen ih =>
    obtain ⟨used, rfl, hmore⟩ := exists_used_of_item hitem
    exact (ih h).prepend (t :: used) fun us => program_item (hmore us)

end Loop

end Reader

end Node

/-! ### The error of a list of tokens -/

namespace Node.Mismatch

variable {m : Mismatch}

theorem error_of_found_eq_some {t : Token} (h : m.found = some t) (ts : List Token) :
    (m.error ts).foundText = "`" ++ t.text ++ "`" ∧ (m.error ts).line = t.line ∧
      (m.error ts).span = t.span := by
  simp [error, ParseError.foundText, h]

theorem error_of_found_eq_none (h : m.found = none) (ts : List Token) :
    (m.error ts).foundText = "end of input" ∧ (m.error ts).line = (Token.inputEnd ts).1 ∧
      (m.error ts).span = (Token.inputEnd ts).2 := by
  simp [error, ParseError.foundText, h]

end Node.Mismatch

/-- The tokens are a program. -/
def Accepted (ts : List Token) : Prop :=
  ∃ ns, parse ts = .ok ns

/-- Some program begins with the tokens. -/
def Viable (ts : List Token) : Prop :=
  ∃ us, Accepted us ∧ ts <+: us

namespace ParseError

/-- The error names the token `t`, which stands at index `k` and is the first one with which no
program begins. -/
structure BlamesToken (e : ParseError) (ts : List Token) (k : Nat) (t : Token) : Prop where
  token_eq : ts[k]? = some t
  foundText_eq : e.foundText = "`" ++ t.text ++ "`"
  line_eq : e.line = t.line
  span_eq : e.span = t.span
  viable : Viable (ts.take k)
  hopeless : ¬Viable (ts.take (k + 1))

/-- The error names the end of the tokens, with all of which a program begins. It is placed behind
the last token, on the line on which that token ends, if the line can be counted. -/
structure BlamesEnd (e : ParseError) (ts : List Token) : Prop where
  foundText_eq : e.foundText = "end of input"
  place : ∃ t, ts.getLast? = some t ∧ e.span = .empty t.span.stop ∧
    (t.line.toNat + t.text.toList.count '\n' < 2 ^ 32 →
      e.line.toNat = t.line.toNat + t.text.toList.count '\n')
  viable : Viable ts
  not_accepted : ¬Accepted ts

end ParseError

section Whole

variable {ts us : List Token} {ns : List Node} {e : ParseError}

theorem parse_eq_ok_iff : parse ts = .ok ns ↔ Node.statements [] [] ts = .ok ns := by
  rw [parse]
  cases Node.statements [] [] ts <;> simp

theorem exists_mismatch_of_parse (h : parse ts = .error e) :
    ∃ m, Node.statements [] [] ts = .error m ∧ e = m.error ts := by
  rw [parse] at h
  cases hts : Node.statements [] [] ts with
  | ok ns =>
    rw [hts] at h
    cases h
  | error m =>
    rw [hts] at h
    exact ⟨m, rfl, (Except.error.inj h).symm⟩

theorem Viable.of_prefix (h : Viable us) (hts : ts <+: us) : Viable ts := by
  obtain ⟨vs, hvs, hus⟩ := h
  exact ⟨vs, hvs, hts.trans hus⟩

theorem viable_of_completable (h : (Node.Reader.program [] []).Completable ts) : Viable ts := by
  obtain ⟨more, ns, hmore⟩ := h
  rw [Node.Reader.program_eq_ok_iff] at hmore
  exact ⟨ts ++ more, ⟨ns, parse_eq_ok_iff.mpr hmore.1⟩, ts.prefix_append more⟩

theorem not_viable_of_hopeless (h : (Node.Reader.program [] []).Hopeless ts) : ¬Viable ts := by
  rintro ⟨us, ⟨ns, hns⟩, more, rfl⟩
  exact h more (ns, []) (Node.Reader.program_eq_ok_iff.mpr ⟨parse_eq_ok_iff.mp hns, rfl⟩)

/-- Where the tokens are no program, there is a last token to place the end of the input. -/
theorem exists_getLast?_of_parse (h : parse ts = .error e) : ∃ t, ts.getLast? = some t := by
  cases hlast : ts.getLast? with
  | some t => exact ⟨t, rfl⟩
  | none =>
    obtain rfl := List.getLast?_eq_none_iff.mp hlast
    have hempty : parse [] = .ok [] := by simp [parse, Node.statements]
    cases hempty.symm.trans h

/-- **Parsing blames the first token that does not fit.** If it fails, there is either a token that
it names, and some program begins with the tokens before that one but none with that one as well; or
it names the end of the input, and some program begins with all of the tokens. -/
theorem parse_error_blames_first_misfit (h : parse ts = .error e) :
    Xor (∃ k t, e.BlamesToken ts k t) (e.BlamesEnd ts) := by
  have hexclusive : ∀ k t, e.BlamesToken ts k t → ¬e.BlamesEnd ts := fun k t htoken hend =>
    htoken.hopeless (hend.viable.of_prefix (List.take_prefix _ _))
  obtain ⟨last, hlast⟩ := exists_getLast?_of_parse h
  obtain ⟨m, hm, rfl⟩ := exists_mismatch_of_parse h
  have hblames := Node.Reader.blames_of_statements hm
  cases hfound : m.found with
  | some t =>
    rw [hfound] at hblames
    cases hblames with
    | @misfit used rest _ hused ht =>
      obtain ⟨htext, hline, hspan⟩ := m.error_of_found_eq_some hfound (used ++ t :: rest)
      have htoken :
          (m.error (used ++ t :: rest)).BlamesToken (used ++ t :: rest) used.length t := by
        refine ⟨by simp, htext, hline, hspan, ?_, ?_⟩
        · simpa using viable_of_completable hused
        · rw [List.take_length_add_append]
          exact not_viable_of_hopeless ht
      exact .inl ⟨⟨_, t, htoken⟩, hexclusive _ t htoken⟩
  | none =>
    rw [hfound] at hblames
    cases hblames with
    | ending hts =>
      obtain ⟨htext, hline, hspan⟩ := m.error_of_found_eq_none hfound ts
      have hend : (m.error ts).BlamesEnd ts := by
        refine ⟨htext, ⟨last, hlast, ?_, fun hfits => ?_⟩, viable_of_completable hts, ?_⟩
        · rw [hspan, Token.inputEnd, hlast]
        · rw [hline, Token.inputEnd, hlast, UInt32.toNat_add, UInt32.toNat_ofNat']
          omega
        · rintro ⟨ns, hns⟩
          cases hns.symm.trans h
      exact .inr ⟨hend, fun ⟨k, t, htoken⟩ => hexclusive k t htoken hend⟩

/-- A view that is still open, in which a name is given a number that does not fit in 64 bits. -/
def largeNumber : List Token :=
  [⟨.keyword, "View", 1, ⟨0, 4⟩⟩, ⟨.symbol, "\x7b", 1, ⟨5, 6⟩⟩, ⟨.keyword, "let", 2, ⟨7, 10⟩⟩,
    ⟨.identifier, "x", 2, ⟨11, 12⟩⟩, ⟨.operator, "=", 2, ⟨13, 14⟩⟩,
    ⟨.number, "9223372036854775808", 2, ⟨15, 34⟩⟩, ⟨.identifier, "y", 3, ⟨35, 36⟩⟩]

theorem parse_error_blames_large_number :
    ∃ e, parse largeNumber = .error e ∧ e.span = ⟨15, 34⟩ ∧
      Xor (∃ k t, e.BlamesToken largeNumber k t) (e.BlamesEnd largeNumber) := by
  have hloop : Node.statements [] [] largeNumber =
      .error ⟨.int64, some ⟨.number, "9223372036854775808", 2, ⟨15, 34⟩⟩, none⟩ :=
    (Node.statements_item (i := .opening .view ⟨5, 6⟩) rfl).trans
      (Node.Reader.statements_eq_error (.inr rfl) rfl)
  have herror : parse largeNumber =
      .error ⟨.int64, some "9223372036854775808", 2, ⟨15, 34⟩, none⟩ := by
    rw [parse, hloop]
    rfl
  exact ⟨_, herror, rfl, parse_error_blames_first_misfit herror⟩

end Whole

end ViewLang

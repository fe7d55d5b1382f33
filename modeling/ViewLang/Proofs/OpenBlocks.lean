import Mathlib.Combinatorics.Enumerative.DyckWord
import ViewLang.Proofs.ParseFailure

/-!
# Blocks that are left open

Where the tokens end inside a block, parsing points to the brace that opened it. Which brace that is
can be seen from the tokens alone, without parsing them: it is the last one that no closing brace
belongs to.

* **Braces that match.** The braces among the tokens are a sequence of steps up and down, and they
  match if the sequence is a Dyck word. `Descends` says of a sequence that it leads down by some
  number of steps and never further.
* **The open blocks.** The loop that reads statements keeps the blocks that are open. A statement
  without a block has no braces, so the loop opens and closes a block with each brace that it comes
  by, and at the end of the tokens the innermost open block is the one that is pointed to
  (`error_of_statements`).
* **No other error points to a block.** A reader of items asks for many things, but never for a
  closing brace (`Reader.NeverAsksFor`).

The main result is `innermost_open_brace_of_parse_error`.
-/

namespace ViewLang

open Token (Word)
open Token.Word (symbol)

/-! ### Braces that match -/

/-- The steps lead down by `levels` in the end, and never by more on the way. -/
structure Descends (levels : Nat) (steps : List DyckStep) : Prop where
  count_eq : steps.count .D = steps.count .U + levels
  count_le : ∀ i, (steps.take i).count .D ≤ (steps.take i).count .U + levels

section Steps

variable {levels : Nat} {steps : List DyckStep}

theorem Descends.up (h : Descends (levels + 1) steps) : Descends levels (.U :: steps) where
  count_eq := by
    have hcount := h.count_eq
    rw [List.count_cons_of_ne (by decide), List.count_cons_self]
    omega
  count_le i := by
    cases i with
    | zero => exact Nat.zero_le _
    | succ i =>
      have hcount := h.count_le i
      rw [List.take_succ_cons, List.count_cons_of_ne (by decide), List.count_cons_self]
      omega

theorem Descends.down (h : Descends levels steps) : Descends (levels + 1) (.D :: steps) where
  count_eq := by
    have hcount := h.count_eq
    rw [List.count_cons_self, List.count_cons_of_ne (by decide)]
    omega
  count_le i := by
    cases i with
    | zero => exact Nat.zero_le _
    | succ i =>
      have hcount := h.count_le i
      rw [List.take_succ_cons, List.count_cons_self, List.count_cons_of_ne (by decide)]
      omega

end Steps

namespace Token

/-- A brace is a step: an opening one up, a closing one down. -/
def Word.braceStep? (w : Word) : Option DyckStep :=
  if w = symbol "\x7b" then some .U
  else if w = symbol "\x7d" then some .D
  else none

/-- The braces among the tokens. -/
def braceSteps (ts : List Token) : List DyckStep :=
  (ts.map word).filterMap Word.braceStep?

/-- Among the tokens each closing brace belongs to an opening brace before it, and each opening
brace to a closing brace behind it. -/
def BracesMatch (ts : List Token) : Prop :=
  ∃ w : DyckWord, w.toList = braceSteps ts

/-- The token at index `i` is a brace that opens a block and has the span `brace`. The blocks opened
behind it are all closed, and it itself is not. -/
structure LeftOpenAt (ts : List Token) (i : Nat) (brace : Span) : Prop where
  token_eq : ∃ t, ts[i]? = some t ∧ t.word = symbol "\x7b" ∧ t.span = brace
  matched : BracesMatch (ts.drop (i + 1))

section Braces

variable {ts front rest : List Token} {t : Token} {i j : Nat} {brace other : Span}

/-- Steps that lead down by nothing are a Dyck word. -/
theorem bracesMatch_iff : BracesMatch ts ↔ Descends 0 (braceSteps ts) := by
  constructor
  · rintro ⟨w, hw⟩
    rw [← hw]
    exact ⟨w.count_U_eq_count_D.symm, w.count_D_le_count_U⟩
  · rintro ⟨hcount, hprefix⟩
    exact ⟨⟨braceSteps ts, hcount.symm, hprefix⟩, rfl⟩

theorem braceSteps_append : braceSteps (front ++ rest) = braceSteps front ++ braceSteps rest := by
  simp [braceSteps]

theorem braceSteps_cons_open (h : t.word = symbol "\x7b") :
    braceSteps (t :: ts) = .U :: braceSteps ts := by
  simp [braceSteps, h, Word.braceStep?]

theorem braceSteps_cons_close (h : t.word = symbol "\x7d") :
    braceSteps (t :: ts) = .D :: braceSteps ts := by
  simp [braceSteps, h, Word.braceStep?, symbol]

/-- If the braces behind an opening brace match, those behind an earlier token do not: the opening
brace is left over. -/
theorem not_bracesMatch_of_open (ht : t.word = symbol "\x7b") (hrest : BracesMatch rest) :
    ¬BracesMatch (front ++ t :: rest) := by
  rw [bracesMatch_iff] at hrest ⊢
  intro hall
  have hcount := hall.count_eq
  have hfront := hall.count_le (braceSteps front).length
  have hbehind := hrest.count_eq
  rw [braceSteps_append, braceSteps_cons_open ht] at hcount hfront
  rw [List.take_left] at hfront
  rw [List.count_append, List.count_append, List.count_cons_of_ne (by decide),
    List.count_cons_self] at hcount
  omega

theorem LeftOpenAt.append (h : LeftOpenAt rest i brace) (front : List Token) :
    LeftOpenAt (front ++ rest) (front.length + i) brace := by
  obtain ⟨⟨t, ht, hword, hspan⟩, hmatched⟩ := h
  refine ⟨⟨t, ?_, hword, hspan⟩, ?_⟩
  · rwa [List.getElem?_append_right (Nat.le_add_right _ _), Nat.add_sub_cancel_left]
  · rwa [Nat.add_assoc, List.drop_length_add_append]

private theorem LeftOpenAt.not_lt (hi : LeftOpenAt ts i brace) (hj : LeftOpenAt ts j other) :
    ¬i < j := by
  intro hlt
  obtain ⟨t, ht, hword, -⟩ := hj.token_eq
  -- The later brace is among the tokens behind the earlier one.
  obtain ⟨k, rfl⟩ := Nat.exists_eq_add_of_le (Nat.succ_le_of_lt hlt)
  have hk : (ts.drop (i + 1))[k]? = some t := by rw [List.getElem?_drop, ht]
  obtain ⟨hlength, rfl⟩ := List.getElem?_eq_some_iff.mp hk
  have hbehind := hj.matched
  have hall := hi.matched
  rw [Nat.add_assoc, ← List.drop_drop] at hbehind
  rw [← List.take_append_drop k (ts.drop (i + 1)), List.drop_eq_getElem_cons hlength] at hall
  exact not_bracesMatch_of_open hword hbehind hall

/-- Only one opening brace is left open and has the other blocks behind it closed. -/
theorem LeftOpenAt.index_eq (hi : LeftOpenAt ts i brace) (hj : LeftOpenAt ts j other) : j = i :=
  Nat.le_antisymm (Nat.not_lt.mp (hi.not_lt hj)) (Nat.not_lt.mp (hj.not_lt hi))

end Braces

end Token

open Token (braceSteps LeftOpenAt bracesMatch_iff braceSteps_append braceSteps_cons_open
  braceSteps_cons_close)

namespace Node

/-! ### The open blocks -/

/-- A statement without a block has no braces. -/
theorem braceSteps_of_leafForm {ts : List Token} {node : Node}
    (h : LeafForm (ts.map Token.word) node) : braceSteps ts = [] := by
  rw [braceSteps]
  cases node with
  | assignment name value =>
    obtain ⟨word, hvalue, hwords⟩ := h
    rw [hwords]
    cases hvalue <;> rfl
  | text content =>
    obtain ⟨quoted, -, hwords⟩ := h
    rw [hwords]
    rfl
  | button label =>
    obtain ⟨quoted, -, hwords⟩ := h
    rw [hwords]
    rfl
  | call name =>
    rw [h]
    rfl
  | view | function | component => exact h.elim

/-- No brace stands before the one that opens the block. -/
theorem braceSteps_of_headerForm {ts : List Token} {header : Header}
    (h : HeaderForm (ts.map Token.word) header) : braceSteps ts = [] := by
  rw [braceSteps]
  cases header with
  | view | function name =>
    rw [h]
    rfl
  | component name =>
    rcases h with hwords | hwords
    · rw [hwords]
      rfl
    · rw [hwords]
      rfl

/-- The innermost block left open when the tokens have been read: either one of the blocks that are
open before, and the tokens close those inside of it, or one that is opened by the tokens. -/
inductive LeavesOpen (blocks : List OpenBlock) (ts : List Token) (brace : Span) : Prop where
  | before {k : Nat} {block : OpenBlock} : blocks[k]? = some block → block.brace = brace →
      Descends k (braceSteps ts) → LeavesOpen blocks ts brace
  | within {i : Nat} : LeftOpenAt ts i brace → LeavesOpen blocks ts brace

section Loop

variable {blocks outer : List OpenBlock} {done : List Node} {ts front rest : List Token}
  {t : Token} {brace : Span}

/-- Tokens without braces make no difference. -/
theorem LeavesOpen.prepend (h : LeavesOpen blocks rest brace) (hfront : braceSteps front = []) :
    LeavesOpen blocks (front ++ rest) brace := by
  cases h with
  | before hblock hbrace hsteps =>
    refine .before hblock hbrace ?_
    rwa [braceSteps_append, hfront, List.nil_append]
  | within hopen => exact .within (hopen.append front)

/-- A closing brace closes the innermost block. -/
theorem LeavesOpen.close {block : OpenBlock} (h : LeavesOpen outer rest brace)
    (ht : t.word = symbol "\x7d") : LeavesOpen (block :: outer) (t :: rest) brace := by
  cases h with
  | @before k _ hblock hbrace hsteps =>
    have hsteps' : Descends (k + 1) (braceSteps (t :: rest)) := by
      rw [braceSteps_cons_close ht]
      exact hsteps.down
    exact .before hblock hbrace hsteps'
  | within hopen => exact .within (hopen.append [t])

/-- An opening brace opens a block inside of the others. -/
theorem LeavesOpen.opening {header : Header}
    (h : LeavesOpen (⟨header, t.span, done⟩ :: blocks) rest brace) (ht : t.word = symbol "\x7b") :
    LeavesOpen blocks (t :: rest) brace := by
  cases h with
  | @before k block hblock hbrace hsteps =>
    cases k with
    | zero =>
      -- The block opened last is the one that is left open.
      cases hblock
      exact .within (i := 0) ⟨⟨t, rfl, ht, hbrace⟩, bracesMatch_iff.mpr hsteps⟩
    | succ k =>
      refine .before (by simpa using hblock) hbrace ?_
      rw [braceSteps_cons_open ht]
      exact hsteps.up
  | within hopen => exact .within (hopen.append [t])

end Loop

/-! ### What readers ask for -/

namespace Reader

variable {α β : Type} {asked : Expected}

/-- The reader does not fail for want of what is asked for. -/
def NeverAsksFor (asked : Expected) (r : Reader α) : Prop :=
  ∀ ts e, r ts = .error e → e.expected ≠ asked

namespace NeverAsksFor

theorem pure (a : α) : NeverAsksFor asked (Pure.pure a : Reader α) :=
  fun _ _ h => by cases h

theorem throw {m : Mismatch} (h : m.expected ≠ asked) :
    NeverAsksFor asked (MonadExcept.throw m : Reader α) := by
  intro ts e he
  cases he
  exact h

theorem bind {r : Reader α} {f : α → Reader β} (hr : r.NeverAsksFor asked)
    (hf : ∀ a, (f a).NeverAsksFor asked) : NeverAsksFor asked (r >>= f) := by
  intro ts e h
  change (r ts).bind (fun p => f p.1 p.2) = _ at h
  cases hts : r ts with
  | error e' =>
    rw [hts] at h
    cases h
    exact hr ts e hts
  | ok p =>
    rw [hts] at h
    exact hf p.1 p.2 e h

theorem token {expected : Expected} (h : expected ≠ asked) (p : Token → Bool) :
    NeverAsksFor asked (token expected p) := by
  intro ts e he
  cases ts with
  | nil =>
    cases he
    exact h
  | cons t ts =>
    simp only [Reader.token] at he
    split at he
    · cases he
    · cases he
      exact h

/-! Nothing that an item is made of is a closing brace. -/

theorem name : NeverAsksFor (.word "\x7d") name :=
  (token (by decide) _).bind fun _ => .pure _

theorem noParameters : NeverAsksFor (.word "\x7d") noParameters :=
  (token (by decide) _).bind fun _ => (token (by decide) _).bind fun _ => .pure _

theorem optionalParameters : NeverAsksFor (.word "\x7d") optionalParameters := by
  refine .bind (fun ts e h => by cases h) fun ts => ?_
  split
  · exact noParameters
  · exact .pure _

theorem argument : NeverAsksFor (.word "\x7d") argument :=
  (token (by decide) _).bind fun _ => (token (by decide) _).bind fun _ =>
    (token (by decide) _).bind fun _ => .pure _

theorem literal : NeverAsksFor (.word "\x7d") literal := by
  intro ts e h
  cases ts with
  | nil =>
    cases h
    decide
  | cons t ts =>
    simp only [Reader.literal] at h
    split at h
    · cases h
    · split at h
      · cases h
      · cases h
        simp
    · cases h
      simp

theorem opening (header : Header) : NeverAsksFor (.word "\x7d") (opening header) :=
  (token (by decide) _).bind fun _ => .pure _

theorem item (first : Token) : NeverAsksFor (.word "\x7d") (item first) := by
  unfold Reader.item
  split
  · exact opening _
  · exact name.bind fun _ => (token (by decide) _).bind fun _ => literal.bind fun _ => .pure _
  · exact name.bind fun _ => noParameters.bind fun _ => opening _
  · exact name.bind fun _ => optionalParameters.bind fun _ => opening _
  · exact argument.bind fun _ => .pure _
  · exact argument.bind fun _ => .pure _
  · exact .throw (by simp)
  · split
    · exact noParameters.bind fun _ => .pure _
    · exact .throw (by simp)

end NeverAsksFor

/-- A reader does not know of open blocks. -/
theorem openedAt_of_item {first : Token} {ts : List Token} {e : Mismatch}
    (h : item first ts = .error e) : e.openedAt = none := by
  rcases prompt_item_or_throw first with hprompt | hthrow
  · exact (hprompt.blames ts e h).2
  · rw [hthrow] at h
    cases h
    rfl

end Reader

/-! ### The loop -/

/-- **How the loop fails.** Either an item cannot be read, or the tokens end in an open block, and
then the loop points to the brace of the innermost one. -/
theorem error_of_statements {blocks : List OpenBlock} {done : List Node} {ts : List Token}
    {e : Mismatch} (h : statements blocks done ts = .error e) :
    (e.openedAt = none ∧ e.expected ≠ .word "\x7d") ∨
      ∃ brace, e = ⟨.word "\x7d", none, some brace⟩ ∧ LeavesOpen blocks ts brace := by
  fun_induction statements blocks done ts with
  | case1 => cases h
  | case2 done block outer =>
    cases h
    exact .inr ⟨block.brace, rfl, .before (k := 0) rfl rfl ⟨rfl, by simp [braceSteps]⟩⟩
  | case3 done t ts block outer hclose ih =>
    simp only [List.unattach_reverse, List.unattach_attach] at ih
    refine (ih h).imp_right ?_
    rintro ⟨brace, he, hopen⟩
    exact ⟨brace, he, hopen.close (Token.word_eq_iff.mpr hclose)⟩
  | case4 blocks done t ts e' hitem hopen =>
    cases h
    exact .inl ⟨Reader.openedAt_of_item hitem, Reader.NeverAsksFor.item t ts e hitem⟩
  | case5 blocks done t ts node rest hitem hopen ih =>
    obtain ⟨used, rfl, hform⟩ := Reader.itemForm_of_item hitem
    refine (ih h).imp_right ?_
    rintro ⟨brace, he, hopen⟩
    exact ⟨brace, he, hopen.prepend (braceSteps_of_leafForm hform)⟩
  | case6 blocks done t ts header brace' rest hitem hopen ih =>
    obtain ⟨used, rfl, front, u, hused, hheader, hbrace, rfl⟩ := Reader.itemForm_of_item hitem
    have hsplit : t :: (used ++ rest) = front ++ u :: rest := by
      rw [← List.cons_append, hused, List.append_assoc, List.singleton_append]
    rw [hsplit]
    refine (ih h).imp_right ?_
    rintro ⟨brace, he, hopen⟩
    exact ⟨brace, he, (hopen.opening hbrace).prepend (braceSteps_of_headerForm hheader)⟩

end Node

/-! ### The error of a list of tokens -/

/-- The closing brace is named by itself only. -/
theorem Expected.describe_eq_close_iff {e : Expected} :
    e.describe = "`\x7d`" ↔ e = .word "\x7d" := by
  constructor
  · intro h
    cases e with
    | word text =>
      have htext : '`' :: (text.toList ++ ['`']) = ['`', '\x7d', '`'] := by
        simpa [describe] using congrArg String.toList h
      have : text.toList ++ ['`'] = ['\x7d'] ++ ['`'] := (List.cons.inj htext).2
      rw [String.toList_inj.mp (List.append_cancel_right this : text.toList = "\x7d".toList)]
    | kind k =>
      revert h
      cases k <;> decide
    | statement | literal | int64 =>
      revert h
      decide
  · rintro rfl
    rfl

/-- The block that an error points to is opened by the brace that is left open last. -/
theorem exists_leftOpenAt_of_parse {ts : List Token} {e : ParseError} {brace : Span}
    (h : parse ts = .error e) (hopened : e.openedAt = some brace) : ∃ i, LeftOpenAt ts i brace := by
  obtain ⟨m, hm, rfl⟩ := exists_mismatch_of_parse h
  rcases Node.error_of_statements hm with ⟨hnone, -⟩ | ⟨brace', rfl, hopen⟩
  · cases hnone.symm.trans hopened
  · cases hopened
    -- At the beginning no block is open.
    cases hopen with
    | before hblock => cases hblock
    | within hopen => exact ⟨_, hopen⟩

/-- **Parsing points to the innermost open block.** Where it fails, the error points to a block if
and only if it asks for a closing brace at the end of the input. Then there is one brace among the
tokens that is left open and behind which every block is closed that is opened there, and the block
pointed to is the one that this brace opens. -/
theorem innermost_open_brace_of_parse_error {ts : List Token} {e : ParseError}
    (h : parse ts = .error e) :
    (e.openedAt.isSome ↔ e.expected.describe = "`\x7d`" ∧ e.foundText = "end of input") ∧
      ∀ brace, e.openedAt = some brace →
        ∃ i, LeftOpenAt ts i brace ∧ ∀ j other, LeftOpenAt ts j other → j = i := by
  refine ⟨?_, fun brace hopened => ?_⟩
  · obtain ⟨m, hm, rfl⟩ := exists_mismatch_of_parse h
    rcases Node.error_of_statements hm with ⟨hopened, hexpected⟩ | ⟨brace, rfl, -⟩
    · simp [Node.Mismatch.error, hopened, Expected.describe_eq_close_iff, hexpected]
    · simp [Node.Mismatch.error, ParseError.foundText, Expected.describe]
  · obtain ⟨i, hopen⟩ := exists_leftOpenAt_of_parse h hopened
    exact ⟨i, hopen, fun j other hother => hopen.index_eq hother⟩

/-- Two views that are open. In the inner one stand a text that is itself a closing brace, and a
view that is closed. -/
def unclosedViews : List Token :=
  [⟨.keyword, "View", 1, ⟨0, 4⟩⟩, ⟨.symbol, "\x7b", 1, ⟨5, 6⟩⟩, ⟨.keyword, "View", 2, ⟨7, 11⟩⟩,
    ⟨.symbol, "\x7b", 2, ⟨12, 13⟩⟩, ⟨.keyword, "Text", 3, ⟨14, 18⟩⟩, ⟨.symbol, "(", 3, ⟨18, 19⟩⟩,
    ⟨.string, "\x7d", 3, ⟨19, 20⟩⟩, ⟨.symbol, ")", 3, ⟨20, 21⟩⟩, ⟨.keyword, "View", 4, ⟨22, 26⟩⟩,
    ⟨.symbol, "\x7b", 4, ⟨27, 28⟩⟩, ⟨.symbol, "\x7d", 4, ⟨29, 30⟩⟩]

theorem innermost_open_brace_of_unclosedViews :
    ∃ e, parse unclosedViews = .error e ∧ e.openedAt = some ⟨12, 13⟩ ∧
      e.expected.describe = "`\x7d`" ∧ e.foundText = "end of input" ∧
        ∃ i, LeftOpenAt unclosedViews i ⟨12, 13⟩ ∧
          ∀ j other, LeftOpenAt unclosedViews j other → j = i := by
  have herror :
      parse unclosedViews = .error ⟨.word "\x7d", none, 4, .empty 30, some ⟨12, 13⟩⟩ := by
    cbv
  obtain ⟨hexpected, hopen⟩ := innermost_open_brace_of_parse_error herror
  obtain ⟨hclose, hfound⟩ := hexpected.mp rfl
  exact ⟨_, herror, rfl, hclose, hfound, hopen ⟨12, 13⟩ rfl⟩

end ViewLang

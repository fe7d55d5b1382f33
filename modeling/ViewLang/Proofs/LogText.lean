import ViewLang.Proofs.JsonText
import ViewLang.Proofs.LogLines
import ViewLang.Proofs.OneLine

/-!
# Log text is unambiguous

Two events with the same line are the same event, provided that their names have the form of names
and no string has a quote. As with JSON text, the argument goes from left to right, and nothing is
known of a line but how it starts.

* **Names, strings and numbers.** A name ends where no name could go on, a string with the first
  quote, a number behind its last digit.
* **Statements.** The first word of a statement, with what stands directly behind it, tells whether
  it is a call (`keywordBefore?`); otherwise it is a reserved word, one for each sort of statement.
  Statements in a row go on as long as there is a separator that is not the start of the closing
  (`Separates`). This holds of the blanks in a block and of the commas in a list alike, also when
  there are blanks, commas and braces in a text.
* **Events.** The phrases that lines start with are such that none is the start of another
  (`phrase_eq_of_display_eq`).

The events of a program that has been read are of this sort (`display_injOn_legible`).
-/

namespace ViewLang

open Lookahead (Stops)
open Token (IsName)
open Token.Word (quoted)

/-! ### Names, strings and numbers -/

namespace Atom

/-- A name has the form of a name, and a string has no quote. Any number will do. -/
def Legible : Atom → Prop
  | name s => IsName s.toList
  | string contents => '"' ∉ contents.toList
  | number _ => True

theorem Spellable.legible {a : Atom} (h : a.Spellable) : a.Legible := by
  cases a with
  | name | string => exact h
  | number => trivial

end Atom

section Atoms

variable {s t : String} {v w : Literal} {rest more : List Char}

/-- A name is told from what follows it by the first character that cannot be in a name. -/
theorem name_append_inj (hs : IsName s.toList) (ht : IsName t.toList)
    (hrest : Stops Token.isWordChar rest) (hmore : Stops Token.isWordChar more)
    (h : s.toList ++ rest = t.toList ++ more) : s = t ∧ rest = more := by
  obtain ⟨hchars, hrest⟩ := Lookahead.append_inj_of_stops (fun _ => hs.isWordChar)
    (fun _ => ht.isWordChar) hrest hmore h
  exact ⟨String.toList_inj.mp hchars, hrest⟩

/-- A string without a quote is told from what follows it by the quote at its end. -/
theorem quoted_append_inj (hs : '"' ∉ s.toList) (ht : '"' ∉ t.toList)
    (h : (quoted s).text.toList ++ rest = (quoted t).text.toList ++ more) :
    s = t ∧ rest = more := by
  have hbody : ∀ {u : String}, '"' ∉ u.toList → ∀ c ∈ u.toList, (c != '"') = true := by
    intro u hu c hc
    rw [bne_iff_ne]
    rintro rfl
    exact hu hc
  have hquote : ∀ tail, Stops (· != '"') ('"' :: tail) := fun _ => by simp
  simp only [Token.Word.toList_text_quoted, List.cons_append, List.append_assoc, List.cons.injEq,
    true_and, List.nil_append] at h
  obtain ⟨hchars, htail⟩ :=
    Lookahead.append_inj_of_stops (hbody hs) (hbody ht) (hquote _) (hquote _) h
  exact ⟨String.toList_inj.mp hchars, (List.cons.inj htail).2⟩

/-- A numeral does not start with a quote. -/
private theorem toString_append_ne_quoted (i : ℤ)
    (h : (toString i).toList ++ rest = (quoted s).text.toList ++ more) : False := by
  obtain ⟨c, cs, hcs, hc⟩ := Json.exists_head_toString i
  rw [hcs, Token.Word.toList_text_quoted, List.cons_append, List.cons_append] at h
  obtain ⟨rfl, -⟩ := List.cons.inj h
  revert hc
  decide

theorem literal_append_inj (hv : v.atom.Legible) (hw : w.atom.Legible)
    (hrest : Stops Char.isDigit rest) (hmore : Stops Char.isDigit more)
    (h : v.word.text.toList ++ rest = w.word.text.toList ++ more) : v = w ∧ rest = more := by
  cases v with
  | string s =>
    cases w with
    | string t =>
      obtain ⟨rfl, hrest⟩ := quoted_append_inj hv hw h
      exact ⟨rfl, hrest⟩
    | number n => exact (toString_append_ne_quoted _ h.symm).elim
  | number m =>
    cases w with
    | string t => exact (toString_append_ne_quoted _ h).elim
    | number n =>
      obtain ⟨hint, hrest⟩ := Json.toString_append_inj hrest hmore h
      rw [Int64.toInt_inj.mp hint]
      exact ⟨rfl, hrest⟩

end Atoms

/-! ### How a statement starts -/

namespace Node

/-- The reserved word that a statement starts with. A call starts with a name. -/
def keyword? : Node → Option Keyword
  | view _ => some .view
  | assignment _ _ => some .letWord
  | function _ _ => some .func
  | component _ _ => some .component
  | call _ => none
  | text _ => some .text
  | button _ => some .button

/-- The reserved word of the statements that start with a word and go on like this. Directly behind
a name stand empty parentheses, also if the name is written like a reserved word. -/
def keywordBefore? (word : String) (tail : List Char) : Option Keyword :=
  if ['(', ')'] <+: tail then none else Keyword.ofString? word

/-- The characters start with a word, and what stands behind it tells the reserved word. -/
def StartsWithWord (cs : List Char) (keyword? : Option Keyword) : Prop :=
  ∃ (word : String) (tail : List Char), cs = word.toList ++ tail ∧ IsName word.toList ∧
    ∀ rest, Stops Token.isWordChar (tail ++ rest) ∧ keywordBefore? word (tail ++ rest) = keyword?

section FirstWords

variable {cs ds rest more : List Char} {k l : Option Keyword} {m n : Node}

theorem startsWithWord_keyword {k : Keyword} {c : Char} {tail : List Char}
    (hc : Token.isWordChar c = false) (hcall : ∀ rest, ¬['(', ')'] <+: c :: tail ++ rest) :
    StartsWithWord (k.toString.toList ++ c :: tail) (some k) := by
  refine ⟨k.toString, c :: tail, rfl, isName_toString k, fun rest => ⟨?_, ?_⟩⟩
  · rwa [List.cons_append, Lookahead.stops_cons]
  · rw [keywordBefore?, if_neg (hcall rest)]
    exact Keyword.ofString?_eq_some_iff.mpr rfl

theorem startsWithWord_name {name : String} (h : IsName name.toList) :
    StartsWithWord (name.toList ++ ['(', ')']) none := by
  refine ⟨name, ['(', ')'], rfl, h, fun rest => ⟨?_, ?_⟩⟩
  · rw [List.cons_append, Lookahead.stops_cons]
    decide
  · rw [keywordBefore?, if_pos ⟨rest, rfl⟩]

/-- A statement starts with a word. -/
theorem startsWithWord_display {node : Node} (h : ∀ a ∈ node.atoms, a.Legible) :
    StartsWithWord node.display.toList node.keyword? := by
  have hblank : Token.isWordChar ' ' = false := by decide
  have hparenthesis : Token.isWordChar '(' = false := by decide
  cases node with
  | view elements =>
    rw [toList_display_view]
    exact startsWithWord_keyword hblank (by simp)
  | assignment name value =>
    rw [toList_display_assignment]
    exact startsWithWord_keyword hblank (by simp)
  | function name body =>
    rw [toList_display_function, toList_functionHeader, List.append_assoc, List.cons_append]
    exact startsWithWord_keyword hblank (by simp)
  | component name body =>
    rw [toList_display_component, toList_componentHeader, List.append_assoc, List.cons_append]
    exact startsWithWord_keyword hblank (by simp)
  | call name =>
    rw [toList_display_call]
    exact startsWithWord_name (h _ List.mem_cons_self)
  | text content =>
    rw [toList_display_text, Token.Word.toList_text_quoted]
    exact startsWithWord_keyword hparenthesis (by simp)
  | button label =>
    rw [toList_display_button, Token.Word.toList_text_quoted]
    exact startsWithWord_keyword hparenthesis (by simp)

theorem StartsWithWord.unique (hcs : StartsWithWord cs k) (hds : StartsWithWord ds l)
    (h : cs ++ rest = ds ++ more) : k = l := by
  obtain ⟨word, tail, rfl, hword, htail⟩ := hcs
  obtain ⟨other, behind, rfl, hother, hbehind⟩ := hds
  obtain ⟨hstop, hk⟩ := htail rest
  obtain ⟨hstop', hl⟩ := hbehind more
  rw [List.append_assoc, List.append_assoc] at h
  obtain ⟨rfl, hrest⟩ := name_append_inj hword hother hstop hstop' h
  rw [← hk, ← hl, hrest]

/-- How a statement starts tells which sort it is of. -/
theorem keyword?_eq_of_append_eq (hm : ∀ a ∈ m.atoms, a.Legible) (hn : ∀ a ∈ n.atoms, a.Legible)
    (h : m.display.toList ++ rest = n.display.toList ++ more) : m.keyword? = n.keyword? :=
  (startsWithWord_display hm).unique (startsWithWord_display hn) h

theorem exists_isWordStart_display (hn : ∀ a ∈ n.atoms, a.Legible) :
    ∃ c cs, n.display.toList = c :: cs ∧ Token.isWordStart c = true := by
  obtain ⟨word, tail, hchars, ⟨c, cs, hword, hc, -⟩, -⟩ := startsWithWord_display hn
  exact ⟨c, cs ++ tail, by rw [hchars, hword, List.cons_append], hc⟩

end FirstWords

/-! ### Statements in a row -/

/-- The separator and the closing end a statement, and no statement behind the separator looks like
the closing. -/
structure Separates (separator closing : List Char) : Prop where
  stops_separator (rest : List Char) : Stops Token.isWordChar (separator ++ rest)
  stops_closing (rest : List Char) : Stops Token.isWordChar (closing ++ rest)
  apart {c : Char} {rest more : List Char} : Token.isWordStart c = true →
    separator ++ c :: rest ≠ closing ++ more

/-- Statements in a block. -/
theorem separates_blank : Separates [' '] [' ', '\x7d'] where
  stops_separator _ := Lookahead.stops_cons.mpr (by decide)
  stops_closing _ := Lookahead.stops_cons.mpr (by decide)
  apart := by
    intro c rest more hc h
    obtain ⟨rfl, -⟩ := List.cons.inj (List.cons.inj h).2
    exact absurd hc (by decide)

/-- Statements in a list. -/
theorem separates_comma : Separates [',', ' '] [']'] where
  stops_separator _ := Lookahead.stops_cons.mpr (by decide)
  stops_closing _ := Lookahead.stops_cons.mpr (by decide)
  apart := by simp

section Rows

variable {separator closing rest more : List Char} {n : Node}

theorem blockChars_append (nodes : List Node) :
    blockChars nodes ++ rest = '\x7b' :: (separated [' '] nodes ++ ([' ', '\x7d'] ++ rest)) := by
  simp [blockChars]

theorem separated_cons_append (node : Node) (nodes : List Node) :
    separated separator (node :: nodes) ++ rest =
      separator ++ (node.display.toList ++ (separated separator nodes ++ rest)) := by
  rw [separated_cons, List.append_assoc, List.append_assoc]

theorem Separates.stops (h : Separates separator closing) (nodes : List Node) :
    Stops Token.isWordChar (separated separator nodes ++ (closing ++ rest)) :=
  stops_separated h.stops_separator (h.stops_closing rest) nodes

theorem Separates.ne (h : Separates separator closing) (hn : ∀ a ∈ n.atoms, a.Legible) :
    separator ++ (n.display.toList ++ rest) ≠ closing ++ more := by
  obtain ⟨c, cs, hchars, hc⟩ := exists_isWordStart_display hn
  rw [hchars, List.cons_append]
  exact h.apart hc

end Rows

/-! ### Statements -/

mutual

/-- **A statement is told from what follows it**, as long as that cannot go on with a word. -/
theorem display_append_inj {m n : Node} {rest more : List Char} (hm : ∀ a ∈ m.atoms, a.Legible)
    (hn : ∀ a ∈ n.atoms, a.Legible) (hrest : Stops Token.isWordChar rest)
    (hmore : Stops Token.isWordChar more)
    (h : m.display.toList ++ rest = n.display.toList ++ more) : m = n ∧ rest = more := by
  have hblank : ∀ cs, Stops Token.isWordChar (' ' :: cs) :=
    fun _ => Lookahead.stops_cons.mpr (by decide)
  have hparenthesis : ∀ cs, Stops Token.isWordChar ('(' :: cs) :=
    fun _ => Lookahead.stops_cons.mpr (by decide)
  -- Two sorts of statements do not start alike, which leaves one case for each sort.
  match m with
  | view elements =>
    cases n with
    | view others =>
      simp only [toList_display_view, List.append_assoc, List.cons_append, blockChars_append,
        List.append_cancel_left_eq, List.cons.injEq, true_and] at h
      obtain ⟨rfl, hrest⟩ := separated_append_inj separates_blank hm hn h
      exact ⟨rfl, hrest⟩
    | _ => cases keyword?_eq_of_append_eq hm hn h
  | assignment name value =>
    cases n with
    | assignment other value' =>
      obtain ⟨hname, hvalue⟩ := List.forall_mem_cons.mp hm
      obtain ⟨hother, hvalue'⟩ := List.forall_mem_cons.mp hn
      simp only [toList_display_assignment, List.append_assoc, List.cons_append,
        List.append_cancel_left_eq, List.cons.injEq, true_and] at h
      obtain ⟨rfl, htail⟩ := name_append_inj hname hother (hblank _) (hblank _) h
      simp only [List.nil_append, List.cons.injEq, true_and] at htail
      -- What cannot go on with a word cannot go on with a digit either.
      have hdigits : ∀ {cs}, Stops Token.isWordChar cs → Stops Char.isDigit cs :=
        fun hcs c hc => Token.isDigit_eq_false (hcs c hc)
      obtain ⟨rfl, hrest⟩ := literal_append_inj (hvalue _ List.mem_cons_self)
        (hvalue' _ List.mem_cons_self) (hdigits hrest) (hdigits hmore) htail
      exact ⟨rfl, hrest⟩
    | _ => cases keyword?_eq_of_append_eq hm hn h
  | function name body =>
    cases n with
    | function other body' =>
      obtain ⟨hname, hbody⟩ := List.forall_mem_cons.mp hm
      obtain ⟨hother, hbody'⟩ := List.forall_mem_cons.mp hn
      simp only [toList_display_function, toList_functionHeader, List.append_assoc,
        List.cons_append, List.append_cancel_left_eq, List.cons.injEq, true_and] at h
      obtain ⟨rfl, htail⟩ := name_append_inj hname hother (hparenthesis _) (hparenthesis _) h
      simp only [List.nil_append, List.cons.injEq, true_and, blockChars_append] at htail
      obtain ⟨rfl, hrest⟩ := separated_append_inj separates_blank hbody hbody' htail
      exact ⟨rfl, hrest⟩
    | _ => cases keyword?_eq_of_append_eq hm hn h
  | component name body =>
    cases n with
    | component other body' =>
      obtain ⟨hname, hbody⟩ := List.forall_mem_cons.mp hm
      obtain ⟨hother, hbody'⟩ := List.forall_mem_cons.mp hn
      simp only [toList_display_component, toList_componentHeader, List.append_assoc,
        List.cons_append, List.append_cancel_left_eq, List.cons.injEq, true_and] at h
      obtain ⟨rfl, htail⟩ := name_append_inj hname hother (hblank _) (hblank _) h
      simp only [List.cons.injEq, true_and, blockChars_append] at htail
      obtain ⟨rfl, hrest⟩ := separated_append_inj separates_blank hbody hbody' htail
      exact ⟨rfl, hrest⟩
    | _ => cases keyword?_eq_of_append_eq hm hn h
  | call name =>
    cases n with
    | call other =>
      simp only [toList_display_call, List.append_assoc, List.cons_append] at h
      obtain ⟨rfl, htail⟩ := name_append_inj (hm _ List.mem_cons_self) (hn _ List.mem_cons_self)
        (hparenthesis _) (hparenthesis _) h
      exact ⟨rfl, by simpa using htail⟩
    | _ => cases keyword?_eq_of_append_eq hm hn h
  | text content =>
    cases n with
    | text other =>
      simp only [toList_display_text, List.append_assoc, List.cons_append,
        List.append_cancel_left_eq, List.cons.injEq, true_and] at h
      obtain ⟨rfl, htail⟩ :=
        quoted_append_inj (hm _ List.mem_cons_self) (hn _ List.mem_cons_self) h
      exact ⟨rfl, by simpa using htail⟩
    | _ => cases keyword?_eq_of_append_eq hm hn h
  | button label =>
    cases n with
    | button other =>
      simp only [toList_display_button, List.append_assoc, List.cons_append,
        List.append_cancel_left_eq, List.cons.injEq, true_and] at h
      obtain ⟨rfl, htail⟩ :=
        quoted_append_inj (hm _ List.mem_cons_self) (hn _ List.mem_cons_self) h
      exact ⟨rfl, by simpa using htail⟩
    | _ => cases keyword?_eq_of_append_eq hm hn h

theorem separated_append_inj {ms ns : List Node} {separator closing rest more : List Char}
    (hsep : Separates separator closing) (hms : ∀ a ∈ atomsAll ms, a.Legible)
    (hns : ∀ a ∈ atomsAll ns, a.Legible)
    (h : separated separator ms ++ (closing ++ rest) =
      separated separator ns ++ (closing ++ more)) : ms = ns ∧ rest = more := by
  match ms, ns with
  | [], [] => exact ⟨rfl, List.append_cancel_left h⟩
  | [], n :: ns =>
    obtain ⟨hfirst, -⟩ := List.forall_mem_append.mp hns
    rw [separated_cons_append] at h
    exact absurd h.symm (hsep.ne hfirst)
  | m :: ms, [] =>
    obtain ⟨hfirst, -⟩ := List.forall_mem_append.mp hms
    rw [separated_cons_append] at h
    exact absurd h (hsep.ne hfirst)
  | m :: ms, n :: ns =>
    obtain ⟨hm, hms'⟩ := List.forall_mem_append.mp hms
    obtain ⟨hn, hns'⟩ := List.forall_mem_append.mp hns
    rw [separated_cons_append, separated_cons_append, List.append_cancel_left_eq] at h
    obtain ⟨rfl, hrow⟩ := display_append_inj hm hn (hsep.stops ms) (hsep.stops ns) h
    obtain ⟨rfl, hrest⟩ := separated_append_inj hsep hms' hns' hrow
    exact ⟨rfl, hrest⟩

end

section Lists

variable {ms ns : List Node}

theorem toList_displayList_nil : (displayList []).toList = ['[', ']'] := rfl

theorem toList_displayList_cons (node : Node) (nodes : List Node) :
    (displayList (node :: nodes)).toList =
      '[' :: (node.display.toList ++ (separated [',', ' '] nodes ++ ([']'] ++ []))) := by
  have hfoldl : ∀ out : String,
      (nodes.foldl (fun out node => out ++ ", " ++ node.display) out).toList =
        out.toList ++ separated [',', ' '] nodes := by
    induction nodes with
    | nil => simp
    | cons node nodes ih =>
      intro out
      simp [ih, separated_cons]
  rw [displayList, writeList]
  simp [write_append, hfoldl]

/-- **A list of statements is told by its form.** -/
theorem displayList_inj (hms : ∀ a ∈ atomsAll ms, a.Legible) (hns : ∀ a ∈ atomsAll ns, a.Legible)
    (h : displayList ms = displayList ns) : ms = ns := by
  have hchars := congrArg String.toList h
  -- A list with statements goes on with a word, and an empty one with the bracket.
  have hempty : ∀ {n : Node} {ns : List Node}, (∀ a ∈ atomsAll (n :: ns), a.Legible) →
      (displayList []).toList ≠ (displayList (n :: ns)).toList := by
    intro n ns hns hchars
    obtain ⟨hn, -⟩ := List.forall_mem_append.mp hns
    obtain ⟨c, cs, hcs, hc⟩ := exists_isWordStart_display hn
    rw [toList_displayList_nil, toList_displayList_cons, hcs, List.cons_append] at hchars
    obtain ⟨rfl, -⟩ := List.cons.inj (List.cons.inj hchars).2
    exact absurd hc (by decide)
  match ms, ns with
  | [], [] => rfl
  | [], n :: ns => exact absurd hchars (hempty hns)
  | m :: ms, [] => exact absurd hchars.symm (hempty hms)
  | m :: ms, n :: ns =>
    obtain ⟨hm, hms'⟩ := List.forall_mem_append.mp hms
    obtain ⟨hn, hns'⟩ := List.forall_mem_append.mp hns
    rw [toList_displayList_cons, toList_displayList_cons] at hchars
    obtain ⟨rfl, hrow⟩ := display_append_inj hm hn (separates_comma.stops ms)
      (separates_comma.stops ns) (List.cons.inj hchars).2
    rw [(separated_append_inj separates_comma hms' hns' hrow).1]

end Lists

end Node

/-! ### Events -/

namespace Event

/-- The names in an event have the form of names, and the strings have no quote. -/
def Legible (event : Event) : Prop :=
  ∀ a ∈ event.atoms, a.Legible

/-- The phrase that the line of an event starts with. -/
def phrase : Event → String
  | viewRendered _ => "Rendering View with elements: "
  | assigned _ _ => "Assigned "
  | functionDefined _ _ => "Defined function "
  | componentDefined _ => "Defined component "
  | componentRendering _ => "Rendering component "
  | componentNotFound _ => "Component "
  | buttonRendered _ => "Rendering Button with text: "
  | textRendered _ => "Rendering Text: "
  | functionCalled _ => "Calling function "
  | callDepthExceeded _ _ => "Call depth limit of "

/-- The characters that follow the phrase. -/
def details : Event → List Char
  | viewRendered elements => (Node.displayList elements).toList
  | assigned name value => name.toList ++ (" = ".toList ++ value.word.text.toList)
  | functionDefined name body =>
    name.toList ++ (" with body ".toList ++ (Node.displayList body).toList)
  | componentDefined name | componentRendering name | functionCalled name => name.toList
  | componentNotFound name => name.toList ++ " not found.".toList
  | buttonRendered text | textRendered text => text.toList
  | callDepthExceeded name depth => depth.repr.toList ++ (" reached at ".toList ++ name.toList)

/-- The phrases that lines start with. -/
def phrases : List String :=
  ["Rendering View with elements: ", "Assigned ", "Defined function ", "Defined component ",
    "Rendering component ", "Component ", "Rendering Button with text: ", "Rendering Text: ",
    "Calling function ", "Call depth limit of "]

section Lines

variable {e f : Event}

theorem phrase_mem_phrases (e : Event) : e.phrase ∈ phrases := by
  cases e <;> simp [phrase, phrases]

/-- No phrase is the start of another. -/
theorem eq_of_isPrefix_of_mem_phrases :
    ∀ p ∈ phrases, ∀ q ∈ phrases, p.toList <+: q.toList → p = q := by
  decide

theorem toList_display (e : Event) : e.display.toList = e.phrase.toList ++ e.details := by
  cases e with
  | viewRendered elements => simp [display, write, phrase, details, Node.writeList_append]
  | assigned name value =>
    cases value <;>
      simp [display, write, phrase, details, Literal.write, Literal.word, quoted]
  | functionDefined name body => simp [display, write, phrase, details, Node.writeList_append]
  | _ => simp [display, write, phrase, details]

theorem phrase_eq_of_display_eq (h : e.display = f.display) : e.phrase = f.phrase := by
  have hchars := congrArg String.toList h
  rw [toList_display, toList_display] at hchars
  rcases List.prefix_or_prefix_of_prefix ⟨e.details, hchars⟩ ⟨f.details, rfl⟩ with hef | hfe
  · exact eq_of_isPrefix_of_mem_phrases _ (phrase_mem_phrases e) _ (phrase_mem_phrases f) hef
  · exact (eq_of_isPrefix_of_mem_phrases _ (phrase_mem_phrases f) _ (phrase_mem_phrases e) hfe).symm

/-- Behind one and the same phrase, an event is told by the rest of the line. -/
theorem eq_of_details_eq (he : e.Legible) (hf : f.Legible) (hphrase : e.phrase = f.phrase)
    (h : e.details = f.details) : e = f := by
  have hequals : ∀ cs, Stops Token.isWordChar (" = ".toList ++ cs) :=
    fun _ => Lookahead.stops_cons.mpr (by decide)
  have hwith : ∀ cs, Stops Token.isWordChar (" with body ".toList ++ cs) :=
    fun _ => Lookahead.stops_cons.mpr (by decide)
  have hreached : ∀ cs, Stops Char.isDigit (" reached at ".toList ++ cs) :=
    fun _ => Lookahead.stops_cons.mpr (by decide)
  cases e with
  | viewRendered elements =>
    cases f with
    | viewRendered others => rw [Node.displayList_inj he hf (String.toList_inj.mp h)]
    | _ => simp [phrase] at hphrase
  | assigned name value =>
    cases f with
    | assigned other value' =>
      obtain ⟨hname, hvalue⟩ := List.forall_mem_cons.mp he
      obtain ⟨hother, hvalue'⟩ := List.forall_mem_cons.mp hf
      obtain ⟨rfl, htail⟩ := name_append_inj hname hother (hequals _) (hequals _) h
      have hliteral : value.word.text.toList ++ [] = value'.word.text.toList ++ [] := by
        rw [List.append_cancel_left htail]
      obtain ⟨rfl, -⟩ := literal_append_inj (hvalue _ List.mem_cons_self)
        (hvalue' _ List.mem_cons_self) (by simp [Stops]) (by simp [Stops]) hliteral
      rfl
    | _ => simp [phrase] at hphrase
  | functionDefined name body =>
    cases f with
    | functionDefined other body' =>
      obtain ⟨hname, hbody⟩ := List.forall_mem_cons.mp he
      obtain ⟨hother, hbody'⟩ := List.forall_mem_cons.mp hf
      obtain ⟨rfl, htail⟩ := name_append_inj hname hother (hwith _) (hwith _) h
      have hlist := String.toList_inj.mp (List.append_cancel_left htail)
      rw [Node.displayList_inj hbody hbody' hlist]
    | _ => simp [phrase] at hphrase
  | callDepthExceeded name depth =>
    cases f with
    | callDepthExceeded other depth' =>
      obtain ⟨rfl, htail⟩ := Json.repr_append_inj (hreached _) (hreached _) h
      rw [String.toList_inj.mp (List.append_cancel_left htail)]
    | _ => simp [phrase] at hphrase
  | componentNotFound name =>
    cases f with
    | componentNotFound other => rw [String.toList_inj.mp (List.append_cancel_right h)]
    | _ => simp [phrase] at hphrase
  | componentDefined | componentRendering | buttonRendered | textRendered | functionCalled =>
    -- A name or a text takes up the rest of the line.
    cases f <;> simp_all [phrase, details, String.toList_inj]

end Lines

/-- **A line of a log determines its event**, among the events whose names have the form of names
and whose strings have no quote. All events of a program that has been read are among these. -/
theorem display_injOn_legible :
    {e : Event | e.Legible}.InjOn display ∧
      ∀ {config : Config} {source : String} {events : List Event},
        run config source = .ok events → ∀ e ∈ events, e.Legible := by
  constructor
  · intro e he f hf h
    have hphrase := phrase_eq_of_display_eq h
    have hchars := congrArg String.toList h
    rw [toList_display, toList_display, hphrase] at hchars
    exact eq_of_details_eq he hf hphrase (List.append_cancel_left hchars)
  · intro config source events hrun e hmem a ha
    exact (spellable_of_mem_run hrun hmem a ha).legible

/-- A text that closes its own quote makes one statement look like two. -/
example : display (.viewRendered [.text "a\"), Text(\"b"]) =
    display (.viewRendered [.text "a", .text "b"]) := by
  decide +kernel

end Event

end ViewLang

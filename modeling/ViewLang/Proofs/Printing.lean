import ViewLang.Node.Printer
import ViewLang.Program
import ViewLang.Proofs.Parsing
import ViewLang.Proofs.Wording

/-!
# Reading what was printed

The printer puts words on lines, with blanks and line feeds between them. Reading puts the words
together again when each of them is spelled where it was put.

* **Spelling in a context.** `Spells before cs after ws` says that the characters `cs` are blanks
  and the words `ws`, when they stand between the characters `before` and `after`. Pieces of text
  follow one another by `Spells.append`, so each piece of a line is looked at on its own.
* **Lines.** `Printed indent lines ws` is the invariant of the layout: the lines laid out so far
  spell the words `ws`, and a digit is not the last character.

A program of spellable atoms is printed as its words (`spells_print`). So a program is read back
from its printed form exactly when all of its atoms are readable (`readProgram_print_eq_ok_iff`). In
a program that has been read from a source, all are spellable, but a name may be a reserved word
that stood directly behind a digit. It is printed behind a blank and is a keyword from then on, and
these are the only programs that are not read back (`readProgram_print_of_tokenize_iff`).
-/

namespace ViewLang

open Lookahead (Stops)
open Token (Word Spelled IsName IsReserved NoDigitBehind)
open Token.Word (keyword identifier symbol operator ofName quoted)

/-! ### Characters that spell words -/

/-- The characters `cs`, which stand between the characters `before` and `after`, are blanks and the
words `ws`. -/
inductive Spells : List Char → List Char → List Char → List Word → Prop where
  | nil {before after : List Char} : Spells before [] after []
  | blank {before cs after : List Char} {c : Char} {ws : List Word} : isBlank c = true →
      Spells (before ++ [c]) cs after ws → Spells before (c :: cs) after ws
  | word {before cs after : List Char} {kind : Token.Kind} {text : String} {ws : List Word} :
      Spelled before (cs ++ after) kind text.toList → Spells (before ++ text.toList) cs after ws →
      Spells before (text.toList ++ cs) after (⟨kind, text⟩ :: ws)

section Spells

variable {before cs ds after : List Char} {ws vs : List Word}

theorem Spells.append (hcs : Spells before cs (ds ++ after) ws)
    (hds : Spells (before ++ cs) ds after vs) : Spells before (cs ++ ds) after (ws ++ vs) := by
  -- What follows `cs` stays fixed, since the words of `cs` are spelled with a view to it.
  generalize hrest : ds ++ after = rest at hcs
  induction hcs with
  | nil => simpa using hds
  | blank hc _ ih =>
    rw [List.append_cons] at hds
    exact .blank hc (ih hds hrest)
  | @word before cs rest kind text ws hw _ ih =>
    rw [← List.append_assoc] at hds
    rw [← hrest, ← List.append_assoc] at hw
    rw [List.append_assoc, List.cons_append]
    exact .word hw (ih hds hrest)

theorem spells_of_isBlank (h : ∀ c ∈ cs, isBlank c = true) : Spells before cs after [] := by
  induction cs generalizing before with
  | nil => exact .nil
  | cons c cs ih =>
    obtain ⟨hc, hcs⟩ := List.forall_mem_cons.mp h
    exact .blank hc (ih hcs)

/-- A whole source spells the words of the tokens that it is read as. -/
theorem spells_iff_lexed :
    Spells before cs [] ws ↔ ∃ ts, Lexed before cs ts ∧ ts.map Token.word = ws := by
  constructor
  · intro h
    generalize hafter : ([] : List Char) = after at h
    induction h with
    | nil => exact ⟨[], .nil, rfl⟩
    | blank hc _ ih =>
      obtain ⟨ts, hts, hwords⟩ := ih hafter
      exact ⟨ts, .blank hc hts, hwords⟩
    | @word before cs after kind text ws hw _ ih =>
      obtain ⟨ts, hts, hwords⟩ := ih hafter
      rw [← hafter, List.append_nil] at hw
      refine ⟨_, .token hw hts, ?_⟩
      rw [List.map_cons, hwords, Token.word, Place.kind_token, Place.token, String.ofList_toList]
  · rintro ⟨ts, h, rfl⟩
    induction h with
    | nil => exact .nil
    | blank hc _ ih => exact .blank hc ih
    | @token before text rest kind ts hspelled _ ih =>
      obtain ⟨s, rfl⟩ : ∃ s : String, s.toList = text := ⟨String.ofList text, String.toList_ofList⟩
      have hword : ((Place.behind before).token kind s.toList).word = ⟨kind, s⟩ := by
        rw [Token.word, Place.kind_token, Place.token, String.ofList_toList]
      have hspelled : Spelled before (rest ++ []) kind s.toList := by
        rwa [List.append_nil]
      rw [List.map_cons, hword]
      exact .word hspelled ih

end Spells

/-! ### Pieces of a line -/

/-- The characters spell the words wherever no digit stands directly before them and no word
character directly after them. -/
def SpellsApart (cs : List Char) (ws : List Word) : Prop :=
  ∀ before after, NoDigitBehind before → Stops Token.isWordChar after → Spells before cs after ws

section Pieces

variable {before cs ds after : List Char} {ws vs : List Word} {c : Char} {text : String}

@[simp] theorem noDigitBehind_append_singleton :
    NoDigitBehind (before ++ [c]) ↔ c.isDigit = false := by
  simp [NoDigitBehind]

theorem Spells.single {kind : Token.Kind} (h : Spelled before after kind text.toList) :
    Spells before text.toList after [⟨kind, text⟩] := by
  have hword : Spells before (text.toList ++ []) after [⟨kind, text⟩] := .word h .nil
  rwa [List.append_nil] at hword

theorem Spells.symbol (htext : text.toList = [c]) (hc : c ∈ Token.symbols)
    (h : Spells (before ++ [c]) cs after ws) :
    Spells before (c :: cs) after (Word.symbol text :: ws) := by
  rw [← htext] at h
  have hspelled : Spelled before (cs ++ after) .symbol text.toList := by
    rw [htext]
    exact .symbol hc
  have hword : Spells before (text.toList ++ cs) after (Word.symbol text :: ws) :=
    .word hspelled h
  rwa [htext] at hword

theorem spells_parentheses : Spells before ['(', ')'] after [Word.symbol "(", Word.symbol ")"] :=
  .symbol rfl (by decide) (.symbol rfl (by decide) .nil)

/-- A string between quotes is spelled anywhere if it has no quote. -/
theorem spells_quoted (h : '"' ∉ text.toList) :
    Spells before (quoted text).text.toList after [quoted text] := by
  have hspelled : Spelled before after .string (quoted text).text.toList := by
    rw [Token.Word.toList_text_quoted]
    exact .string h
  exact .single hspelled

theorem spellsApart_ofName (h : IsName text.toList) : SpellsApart text.toList [ofName text] := by
  intro before after hbefore hafter
  have hspelled : Spelled before after (ofName text).kind text.toList :=
    Token.shaped_wordKind (iff_of_true rfl hbefore) h hafter
  exact .single hspelled

/-- A reserved word has the form of a name. -/
theorem isName_toString (k : Keyword) : IsName k.toString.toList := by
  cases k <;> exact ⟨_, _, rfl, by decide, List.all_eq_true.mp (by decide)⟩

theorem spellsApart_keyword (k : Keyword) :
    SpellsApart k.toString.toList [Word.keyword k] := by
  rw [← Token.Word.ofName_toString]
  exact spellsApart_ofName (isName_toString k)

theorem spellsApart_equals : SpellsApart ['='] [Word.operator "="] := by
  intro before after _ _
  have hspelled : Spelled before after .operator "=".toList := .operator (by decide)
  exact .single hspelled

theorem spellsApart_literal {value : Literal} (h : value.atom.Spellable) :
    SpellsApart value.word.text.toList [value.word] := by
  intro before after _ hafter
  cases value with
  | string contents => exact spells_quoted h
  | number n =>
    have hnumeral : (toString n.toInt).toList = Nat.toDigits 10 n.toInt.toNat :=
      toList_toString_toInt h
    have hne : (toString n.toInt).toList ≠ [] := hnumeral ▸ Nat.toDigits_ne_nil
    have hdigits : ∀ c ∈ (toString n.toInt).toList, c.isDigit = true := by
      rw [hnumeral]
      exact fun c hc => Nat.isDigit_of_mem_toDigits (by decide) (by decide) hc
    have hstop : Stops Char.isDigit after :=
      fun c hc => Token.isDigit_eq_false (hafter c hc)
    exact .single (.number hne hdigits hstop)

/-- What is spelled anywhere may follow directly if it cannot go on with a word. -/
theorem SpellsApart.append (hcs : SpellsApart cs ws)
    (hds : ∀ before after, Spells before (c :: ds) after vs) (hc : Token.isWordChar c = false) :
    SpellsApart (cs ++ c :: ds) (ws ++ vs) := by
  intro before after hbefore hafter
  have hleft : Spells before cs (c :: ds ++ after) ws :=
    hcs before _ hbefore (Lookahead.stops_cons.mpr hc)
  exact hleft.append (hds _ after)

end Pieces

section Blanks

variable {before blanks trail cs ds : List Char} {ws vs : List Word}

/-- No digit stands directly behind blanks. -/
theorem noDigitBehind_append_of_isBlank (hbefore : blanks = [] → NoDigitBehind before)
    (h : ∀ c ∈ blanks, isBlank c = true) : NoDigitBehind (before ++ blanks) := by
  rcases List.eq_nil_or_concat blanks with rfl | ⟨blanks, c, rfl⟩
  · rw [List.append_nil]
    exact hbefore rfl
  · have hblank : isBlank c = true := h c (by simp)
    rw [List.concat_eq_append, ← List.append_assoc, noDigitBehind_append_singleton]
    exact Token.isDigit_eq_false (Token.isWordChar_eq_false_of_isBlank hblank)

/-- No word goes on into blanks. -/
theorem stops_append_of_isBlank (hne : blanks ≠ []) (h : ∀ c ∈ blanks, isBlank c = true) :
    Stops Token.isWordChar (blanks ++ cs) := by
  obtain ⟨c, blanks, rfl⟩ := List.exists_cons_of_ne_nil hne
  rw [List.cons_append, Lookahead.stops_cons]
  exact Token.isWordChar_eq_false_of_isBlank (h c List.mem_cons_self)

/-- Blanks set two pieces apart. -/
theorem SpellsApart.setApart (hcs : SpellsApart cs ws) (hne : blanks ≠ [])
    (hblanks : ∀ c ∈ blanks, isBlank c = true) (hds : SpellsApart ds vs) :
    SpellsApart (cs ++ (blanks ++ ds)) (ws ++ vs) := by
  intro before after hbefore hafter
  -- The blanks end the last word of the first piece, and set the second one apart from its digits.
  have hstop : Stops Token.isWordChar (blanks ++ ds ++ after) := by
    rw [List.append_assoc]
    exact stops_append_of_isBlank hne hblanks
  have hbehind : NoDigitBehind (before ++ cs ++ blanks) :=
    noDigitBehind_append_of_isBlank (fun hnil => absurd hnil hne) hblanks
  have hright := (spells_of_isBlank hblanks).append (hds _ after hbehind hafter)
  rw [List.nil_append] at hright
  exact (hcs before _ hbefore hstop).append hright

/-- A single blank sets two pieces apart. -/
theorem SpellsApart.space (hcs : SpellsApart cs ws) (hds : SpellsApart ds vs) :
    SpellsApart (cs ++ ' ' :: ds) (ws ++ vs) :=
  hcs.setApart (List.cons_ne_nil _ _) (List.forall_mem_singleton.mpr (by decide)) hds

/-- Blanks on either side of a piece do not matter to it, and there may be none. -/
theorem SpellsApart.surround (hcs : SpellsApart cs ws) (hblanks : ∀ c ∈ blanks, isBlank c = true)
    (htrail : ∀ c ∈ trail, isBlank c = true) : SpellsApart (blanks ++ (cs ++ trail)) ws := by
  intro before after hbefore hafter
  have hbehind : NoDigitBehind (before ++ blanks) :=
    noDigitBehind_append_of_isBlank (fun _ => hbefore) hblanks
  have hstop : Stops Token.isWordChar (trail ++ after) := by
    cases trail with
    | nil => exact hafter
    | cons c trail => exact stops_append_of_isBlank (List.cons_ne_nil c trail) htrail
  have hright := (hcs _ _ hbehind hstop).append (spells_of_isBlank htrail)
  rw [List.append_nil] at hright
  exact (spells_of_isBlank hblanks).append hright

end Blanks

/-! ### Lines -/

namespace Node

section Lines

variable {indent : String} {lines : Array Line} {before : List Char} {ws vs : List Word}

/-- The characters of printed lines. -/
def printed (indent : String) (lines : Array Line) : List Char :=
  lines.toList.flatMap fun line => (line.print indent).toList

theorem printed_push {line : Line} :
    printed indent (lines.push line) = printed indent lines ++ (line.print indent).toList := by
  simp [printed]

private theorem toList_foldl_append {α : Type} (f : α → String) (xs : List α) (s : String) :
    (xs.foldl (fun out x => out ++ f x) s).toList =
      s.toList ++ xs.flatMap fun x => (f x).toList := by
  induction xs generalizing s with
  | nil => simp
  | cons x xs ih => simp [ih]

theorem toList_print {nodes : List Node} :
    (print indent nodes).toList = printed indent (layoutAll 0 #[] nodes) := by
  rw [print, ← Array.foldl_toList, toList_foldl_append, String.toList_empty, List.nil_append,
    printed]

theorem toList_print_line {line : Line} :
    (line.print indent).toList =
      (List.replicate line.depth indent.toList).flatten ++ (line.text.toList ++ ['\n']) := by
  have hindent : ((List.replicate line.depth indent).foldl (· ++ ·) "").toList =
      (List.replicate line.depth indent.toList).flatten := by
    have h := toList_foldl_append id (List.replicate line.depth indent) ""
    rwa [String.toList_empty, List.nil_append, List.flatMap_def, List.map_replicate] at h
  simp [Line.print, hindent]

/-- The lines spell the words whatever comes next, and a digit is not their last character. -/
structure Printed (indent : String) (lines : Array Line) (ws : List Word) : Prop where
  spells (after : List Char) : Spells [] (printed indent lines) after ws
  noDigitBehind : NoDigitBehind (printed indent lines)

theorem printed_empty : Printed indent #[] [] where
  spells _ := .nil
  noDigitBehind := by simp [printed, NoDigitBehind]

/-- **One more line.** What is spelled apart may be put on a line of its own. -/
theorem Printed.push {text : String} (hlines : Printed indent lines ws)
    (hindent : ∀ c ∈ indent.toList, isBlank c = true) (depth : ℕ)
    (hline : SpellsApart text.toList vs) :
    Printed indent (lines.push ⟨depth, text⟩) (ws ++ vs) := by
  have hblanks : ∀ c ∈ (List.replicate depth indent.toList).flatten, isBlank c = true := by
    intro c hc
    obtain ⟨cs, hcs, hc⟩ := List.mem_flatten.mp hc
    rw [List.eq_of_mem_replicate hcs] at hc
    exact hindent c hc
  have hbehind := noDigitBehind_append_of_isBlank (fun _ => hlines.noDigitBehind) hblanks
  constructor
  · intro after
    have hfeed : ∀ before, Spells before ['\n'] after [] := fun _ => .blank (by decide) .nil
    -- The line feed sets the last word of the line apart from whatever comes next.
    have htext := hline _ ('\n' :: after) hbehind (Lookahead.stops_cons.mpr (by decide))
    have hprinted := (spells_of_isBlank hblanks).append (htext.append (hfeed _))
    rw [printed_push, toList_print_line]
    rw [List.nil_append, List.append_nil] at hprinted
    exact (hlines.spells _).append hprinted
  · rw [printed_push, toList_print_line, ← List.append_assoc, ← List.append_assoc,
      noDigitBehind_append_singleton]
    decide

end Lines

/-! ### The pieces of a program -/

section Statements

variable {name content : String} {value : Literal}

private theorem spellsApart_symbol {c : Char} {text : String} (htext : text.toList = [c])
    (hc : c ∈ Token.symbols) : SpellsApart [c] [symbol text] :=
  fun _ _ _ _ => .symbol htext hc .nil

theorem toList_display_assignment (name : String) (value : Literal) :
    (assignment name value).display.toList = Keyword.letWord.toString.toList ++
      ' ' :: (name.toList ++ ' ' :: (['='] ++ ' ' :: value.word.text.toList)) := by
  cases value <;> simp [display, write, Literal.write, Literal.word, quoted, Keyword.toString]

theorem toList_display_call (name : String) :
    (call name).display.toList = name.toList ++ ['(', ')'] := by
  simp [display, write]

theorem toList_display_text (content : String) :
    (text content).display.toList = Keyword.text.toString.toList ++
      '(' :: ((quoted content).text.toList ++ [')']) := by
  simp [display, write, quoted, Keyword.toString]

theorem toList_display_button (label : String) :
    (button label).display.toList = Keyword.button.toString.toList ++
      '(' :: ((quoted label).text.toList ++ [')']) := by
  simp [display, write, quoted, Keyword.toString]

theorem spellsApart_assignment (hname : IsName name.toList) (hvalue : value.atom.Spellable) :
    SpellsApart (assignment name value).display.toList (assignment name value).words := by
  have hright := spellsApart_equals.space (spellsApart_literal hvalue)
  rw [toList_display_assignment]
  exact (spellsApart_keyword .letWord).space ((spellsApart_ofName hname).space hright)

theorem spellsApart_call (hname : IsName name.toList) :
    SpellsApart (call name).display.toList (call name).words := by
  rw [toList_display_call]
  exact (spellsApart_ofName hname).append (fun _ _ => spells_parentheses) (by decide)

/-- Texts and buttons: a reserved word with a string in parentheses. -/
private theorem spellsApart_argument {node : Node} (k : Keyword)
    (hchars : node.display.toList =
      k.toString.toList ++ '(' :: ((quoted content).text.toList ++ [')']))
    (hcontent : '"' ∉ content.toList) :
    SpellsApart node.display.toList [keyword k, symbol "(", quoted content, symbol ")"] := by
  have hclose : ∀ before after, Spells before [')'] after [symbol ")"] :=
    fun _ _ => .symbol rfl (by decide) .nil
  have hargument : ∀ before after,
      Spells before ('(' :: ((quoted content).text.toList ++ [')'])) after
        [symbol "(", quoted content, symbol ")"] :=
    fun _ _ => .symbol rfl (by decide) ((spells_quoted hcontent).append (hclose _ _))
  rw [hchars]
  exact (spellsApart_keyword k).append hargument (by decide)

theorem spellsApart_text (hcontent : '"' ∉ content.toList) :
    SpellsApart (text content).display.toList (text content).words :=
  spellsApart_argument .text (toList_display_text content) hcontent

theorem spellsApart_button (hcontent : '"' ∉ content.toList) :
    SpellsApart (button content).display.toList (button content).words :=
  spellsApart_argument .button (toList_display_button content) hcontent

theorem toList_functionHeader (name : String) :
    ("func " ++ name ++ "()").toList =
      Keyword.func.toString.toList ++ ' ' :: (name.toList ++ ['(', ')']) := by
  simp [Keyword.toString]

theorem toList_componentHeader (name : String) :
    ("component " ++ name).toList = Keyword.component.toString.toList ++ ' ' :: name.toList := by
  simp [Keyword.toString]

theorem spellsApart_functionHeader (hname : IsName name.toList) :
    SpellsApart ("func " ++ name ++ "()").toList
      [keyword .func, ofName name, symbol "(", symbol ")"] := by
  have hright := (spellsApart_ofName hname).append (fun _ _ => spells_parentheses) (by decide)
  rw [toList_functionHeader]
  exact (spellsApart_keyword .func).space hright

theorem spellsApart_componentHeader (hname : IsName name.toList) :
    SpellsApart ("component " ++ name).toList [keyword .component, ofName name] := by
  rw [toList_componentHeader]
  exact (spellsApart_keyword .component).space (spellsApart_ofName hname)

end Statements

/-! ### Layouts -/

section Layouts

mutual

/-- **Layouts spell words.** The lines that are added for a statement spell its words, after what
the lines before them spell. -/
theorem printed_layout {indent : String} {node : Node} {lines : Array Line} {ws : List Word}
    (hindent : ∀ c ∈ indent.toList, isBlank c = true) (depth : ℕ)
    (h : ∀ a ∈ node.atoms, a.Spellable) (hlines : Printed indent lines ws) :
    Printed indent (layout depth lines node) (ws ++ node.words) := by
  match node with
  | view elements =>
    have hheader : SpellsApart "View".toList [keyword .view] := spellsApart_keyword .view
    exact printed_layoutBlock hindent depth hheader h hlines
  | assignment name value =>
    obtain ⟨hname, hvalue⟩ := List.forall_mem_cons.mp h
    have hline := spellsApart_assignment hname (hvalue _ List.mem_cons_self)
    exact hlines.push hindent depth hline
  | function name body =>
    obtain ⟨hname, hbody⟩ := List.forall_mem_cons.mp h
    exact printed_layoutBlock hindent depth (spellsApart_functionHeader hname) hbody hlines
  | component name body =>
    obtain ⟨hname, hbody⟩ := List.forall_mem_cons.mp h
    exact printed_layoutBlock hindent depth (spellsApart_componentHeader hname) hbody hlines
  | call name =>
    have hline := spellsApart_call (h _ List.mem_cons_self)
    exact hlines.push hindent depth hline
  | text content =>
    have hline := spellsApart_text (h _ List.mem_cons_self)
    exact hlines.push hindent depth hline
  | button label =>
    have hline := spellsApart_button (h _ List.mem_cons_self)
    exact hlines.push hindent depth hline

theorem printed_layoutBlock {indent header : String} {nodes : List Node} {lines : Array Line}
    {ws vs : List Word} (hindent : ∀ c ∈ indent.toList, isBlank c = true) (depth : ℕ)
    (hheader : SpellsApart header.toList vs) (h : ∀ a ∈ atomsAll nodes, a.Spellable)
    (hlines : Printed indent lines ws) :
    Printed indent (layoutBlock depth lines header nodes)
      (ws ++ (vs ++ symbol "\x7b" :: (wordsAll nodes ++ [symbol "\x7d"]))) := by
  match nodes with
  | [] =>
    have hbraces : SpellsApart ['\x7b', '\x7d'] [symbol "\x7b", symbol "\x7d"] :=
      fun _ _ _ _ => .symbol rfl (by decide) (.symbol rfl (by decide) .nil)
    have hline : SpellsApart (header ++ " \x7b\x7d").toList
        (vs ++ [symbol "\x7b", symbol "\x7d"]) := by
      simpa using hheader.space hbraces
    exact hlines.push hindent depth hline
  | node :: nodes =>
    obtain ⟨hnode, hnodes⟩ := List.forall_mem_append.mp h
    have hbrace : SpellsApart ['\x7b'] [symbol "\x7b"] := spellsApart_symbol rfl (by decide)
    have hline : SpellsApart (header ++ " \x7b").toList (vs ++ [symbol "\x7b"]) := by
      simpa using hheader.space hbrace
    have hclosing : SpellsApart "\x7d".toList [symbol "\x7d"] :=
      spellsApart_symbol rfl (by decide)
    -- The header, the block one level deeper, and the brace on a line of its own.
    have hopen := hlines.push hindent depth hline
    have hfirst := printed_layout hindent (depth + 1) hnode hopen
    have hblock := printed_layoutAll hindent (depth + 1) hnodes hfirst
    have hclose := hblock.push hindent depth hclosing
    simpa [layoutBlock, wordsAll] using hclose

theorem printed_layoutAll {indent : String} {nodes : List Node} {lines : Array Line}
    {ws : List Word} (hindent : ∀ c ∈ indent.toList, isBlank c = true) (depth : ℕ)
    (h : ∀ a ∈ atomsAll nodes, a.Spellable) (hlines : Printed indent lines ws) :
    Printed indent (layoutAll depth lines nodes) (ws ++ wordsAll nodes) := by
  match nodes with
  | [] => simpa [layoutAll, wordsAll] using hlines
  | node :: nodes =>
    obtain ⟨hnode, hnodes⟩ := List.forall_mem_append.mp h
    have hfirst := printed_layout hindent depth hnode hlines
    have hrest := printed_layoutAll hindent depth hnodes hfirst
    rwa [List.append_assoc] at hrest

end

end Layouts

/-- **A printed program spells its words.** -/
theorem spells_print {indent : String} {nodes : List Node}
    (hindent : ∀ c ∈ indent.toList, isBlank c = true) (h : ∀ a ∈ atomsAll nodes, a.Spellable) :
    Spells [] (print indent nodes).toList [] (wordsAll nodes) := by
  have hlayout := printed_layoutAll hindent 0 h printed_empty
  rw [toList_print]
  exact hlayout.spells []

end Node

/-! ### What is read back -/

section ReadBack

variable {source indent : String} {ts : List Token} {nodes : List Node}

theorem readProgram_eq_ok_iff :
    readProgram source = .ok nodes ↔ ∃ ts, tokenize source = .ok ts ∧ parse ts = .ok nodes := by
  rw [readProgram]
  cases tokenize source with
  | error e => simp
  | ok ts => cases hparse : parse ts <;> simp [hparse]

/-- A program that has been read has spellable atoms. -/
theorem spellable_of_derivesProgram {before cs : List Char} (hts : Lexed before cs ts)
    (hnodes : DerivesProgram (ts.map Token.word) nodes) :
    ∀ a ∈ Node.atomsAll nodes, a.Spellable := by
  intro a ha
  obtain ⟨w, hw, hatom⟩ := exists_word_of_mem_atomsAll hnodes ha
  obtain ⟨t, ht, rfl⟩ := List.mem_map.mp hw
  obtain ⟨front, after, hspelled⟩ := hts.exists_spelled ht
  exact spellable_of_derivesAtom hatom hspelled

/-- A source that spells words is read as these words. -/
theorem exists_tokenize_of_spells {ws : List Word} (h : Spells [] source.toList [] ws) :
    ∃ ts, tokenize source = .ok ts ∧ ts.map Token.word = ws := by
  obtain ⟨ts, hts, hwords⟩ := spells_iff_lexed.mp h
  exact ⟨ts, tokenize_eq_ok_iff_lexed.mpr hts, hwords⟩

/-- A source that spells the words of a readable program is that program. -/
theorem readProgram_of_spells (h : Spells [] source.toList [] (Node.wordsAll nodes))
    (hatoms : ∀ a ∈ Node.atomsAll nodes, a.Readable) : readProgram source = .ok nodes := by
  obtain ⟨ts, hts, hwords⟩ := exists_tokenize_of_spells h
  have hderives : DerivesProgram (ts.map Token.word) nodes := by
    rw [hwords]
    exact Node.derivesProgram_wordsAll hatoms
  exact readProgram_eq_ok_iff.mpr ⟨ts, hts, parse_of_derivesProgram hderives⟩

/-- A printed program is read as its words and no others. -/
theorem map_word_of_tokenize_print (hindent : ∀ c ∈ indent.toList, isBlank c = true)
    (h : ∀ a ∈ Node.atomsAll nodes, a.Spellable)
    (hts : tokenize (Node.print indent nodes) = .ok ts) :
    ts.map Token.word = Node.wordsAll nodes := by
  obtain ⟨us, hus, hwords⟩ := exists_tokenize_of_spells (Node.spells_print hindent h)
  rw [hts] at hus
  rw [Except.ok.inj hus, hwords]

theorem readProgram_print_of_readable (hindent : ∀ c ∈ indent.toList, isBlank c = true)
    (h : ∀ a ∈ Node.atomsAll nodes, a.Readable) :
    readProgram (Node.print indent nodes) = .ok nodes :=
  readProgram_of_spells (Node.spells_print hindent fun a ha => (h a ha).spellable) h

theorem readable_of_readProgram_print (hindent : ∀ c ∈ indent.toList, isBlank c = true)
    (h : readProgram (Node.print indent nodes) = .ok nodes) :
    ∀ a ∈ Node.atomsAll nodes, a.Readable := by
  obtain ⟨ts, hts, hparse⟩ := readProgram_eq_ok_iff.mp h
  have hderives := derivesProgram_of_parse hparse
  have hspellable := spellable_of_derivesProgram (tokenize_eq_ok_iff_lexed.mp hts) hderives
  have hwords := map_word_of_tokenize_print hindent hspellable hts
  intro a ha
  refine Atom.readable_iff.mpr ⟨hspellable a ha, ?_⟩
  rintro s rfl
  -- The name is among the words that were read, and these are the words that were printed.
  have hname := (name_mem_atomsAll_iff hderives).mp ha
  rw [hwords] at hname
  exact Node.not_isReserved_of_mem_wordsAll hname

/-- **What printing loses.** A program is read back from its printed form exactly when each of its
names has the form of a name and is no reserved word, no string has a quote, and no number is
negative. -/
theorem readProgram_print_eq_ok_iff (hindent : ∀ c ∈ indent.toList, isBlank c = true) :
    readProgram (Node.print indent nodes) = .ok nodes ↔ ∀ a ∈ Node.atomsAll nodes, a.Readable :=
  ⟨readable_of_readProgram_print hindent, readProgram_print_of_readable hindent⟩

/-- A text that closes its own quote is not read back, although it prints as a program. -/
theorem not_readProgram_print_of_closing_quote :
    (∀ c ∈ "\t".toList, isBlank c = true) ∧
      readProgram (Node.print "\t" [.view [.text "a\")Text(\"b"]]) ≠
        .ok [.view [.text "a\")Text(\"b"]] := by
  have hindent : ∀ c ∈ "\t".toList, isBlank c = true := List.all_eq_true.mp (by decide)
  refine ⟨hindent, fun h => ?_⟩
  have hreadable := (readProgram_print_eq_ok_iff hindent).mp h
  exact hreadable (.string "a\")Text(\"b") (by decide) (by decide)

/-- **Programs that have been read.** A program read from a source is read back from its printed
form exactly when no name in the source is a reserved word. -/
theorem readProgram_print_of_tokenize_iff (hts : tokenize source = .ok ts)
    (hnodes : parse ts = .ok nodes) (hindent : ∀ c ∈ indent.toList, isBlank c = true) :
    readProgram (Node.print indent nodes) = .ok nodes ↔
      ∀ t ∈ ts, t.kind = .identifier → ¬IsReserved t.text.toList := by
  have hderives := derivesProgram_of_parse hnodes
  have hspellable := spellable_of_derivesProgram (tokenize_eq_ok_iff_lexed.mp hts) hderives
  constructor
  · intro h t ht hkind
    have hword : identifier t.text ∈ ts.map Token.word :=
      List.mem_map.mpr ⟨t, ht, by rw [Token.word, identifier, hkind]⟩
    have hname := (name_mem_atomsAll_iff hderives).mpr hword
    exact (readable_of_readProgram_print hindent h _ hname).2
  · intro h
    refine readProgram_print_of_readable hindent fun a ha => ?_
    refine Atom.readable_iff.mpr ⟨hspellable a ha, ?_⟩
    rintro s rfl
    obtain ⟨t, ht, hword⟩ := List.mem_map.mp ((name_mem_atomsAll_iff hderives).mp ha)
    obtain ⟨hkind, rfl⟩ := Word.mk.inj hword
    exact h t ht hkind

/-- A reserved word behind a number is read as a name, and is a keyword once it is printed. -/
theorem not_readProgram_print_of_glued_reserved_word :
    ∃ ts, tokenize "let x = 1View()" = .ok ts ∧
      parse ts = .ok [.assignment "x" (.number 1), .call "View"] ∧
      (∀ c ∈ Node.defaultIndent.toList, isBlank c = true) ∧
      readProgram (Node.print Node.defaultIndent [.assignment "x" (.number 1), .call "View"]) ≠
        .ok [.assignment "x" (.number 1), .call "View"] := by
  have hts : tokenize "let x = 1View()" =
      .ok [⟨.keyword, "let", 1, ⟨0, 3⟩⟩, ⟨.identifier, "x", 1, ⟨4, 5⟩⟩,
        ⟨.operator, "=", 1, ⟨6, 7⟩⟩, ⟨.number, "1", 1, ⟨8, 9⟩⟩, ⟨.identifier, "View", 1, ⟨9, 13⟩⟩,
        ⟨.symbol, "(", 1, ⟨13, 14⟩⟩, ⟨.symbol, ")", 1, ⟨14, 15⟩⟩] := by
    cbv
  have hindent : ∀ c ∈ Node.defaultIndent.toList, isBlank c = true :=
    List.all_eq_true.mp (by decide)
  refine ⟨_, hts, by cbv, hindent, fun h => ?_⟩
  have hother := (readProgram_print_of_tokenize_iff hts (by cbv) hindent).mp h
  exact hother ⟨.identifier, "View", 1, ⟨9, 13⟩⟩ (by decide) rfl ⟨.view, rfl⟩

end ReadBack

end ViewLang

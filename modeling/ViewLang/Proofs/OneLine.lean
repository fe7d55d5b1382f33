import ViewLang.Proofs.Printing
import ViewLang.Proofs.Streaming

/-!
# Statements on one line are program text

The form of a statement on one line is written by other means than the layout of a program: blocks
are opened and closed on the same line, an empty one holds a blank, and nothing is indented. This
module shows that the two forms are the same words all the same.

* **Characters.** `toList_display_view` and its like give the characters of a form by those of the
  forms inside it. Only a block nests, so it is `blockChars` that the recursion goes through.
* **Words.** The form of a statement spells its words wherever it is set apart from what is around
  it (`spellsApart_display`), which is what the layout spells too (`spells_print`).

So statements on one line, with blanks of any sort between them (`SetApart`), are read as the same
program as their layout, from the same words (`readProgram_setApart`).
-/

namespace ViewLang

open Lookahead (Stops)
open Token (Word NoDigitBehind)
open Token.Word (keyword symbol ofName)

namespace Node

/-! ### The characters of a statement on one line -/

section Characters

/-- The characters of statements each behind a separator. -/
def separated (separator : List Char) (nodes : List Node) : List Char :=
  nodes.flatMap fun node => separator ++ node.display.toList

@[simp] theorem separated_nil {separator : List Char} : separated separator [] = [] := rfl

theorem separated_cons {separator : List Char} (node : Node) (nodes : List Node) :
    separated separator (node :: nodes) =
      separator ++ (node.display.toList ++ separated separator nodes) := by
  simp [separated]

theorem toList_writeAll (out : String) (nodes : List Node) :
    (writeAll (· ++ ·) out nodes).toList = out.toList ++ separated [' '] nodes := by
  induction nodes generalizing out with
  | nil => simp [writeAll]
  | cons node nodes ih => simp [writeAll, ih, write_append, separated_cons]

/-- The characters of a block on one line. -/
def blockChars (nodes : List Node) : List Char :=
  '\x7b' :: (separated [' '] nodes ++ [' ', '\x7d'])

theorem toList_display_view (elements : List Node) :
    (view elements).display.toList =
      Keyword.view.toString.toList ++ ' ' :: blockChars elements := by
  simp [display, write, toList_writeAll, blockChars, Keyword.toString]

theorem toList_display_function (name : String) (body : List Node) :
    (function name body).display.toList =
      ("func " ++ name ++ "()").toList ++ ' ' :: blockChars body := by
  simp [display, write, toList_writeAll, blockChars]

theorem toList_display_component (name : String) (body : List Node) :
    (component name body).display.toList =
      ("component " ++ name).toList ++ ' ' :: blockChars body := by
  simp [display, write, toList_writeAll, blockChars]

end Characters

/-! ### The words of a statement on one line -/

section Words

variable {separator after : List Char} {nodes : List Node}

/-- A word cannot go on into statements behind separators if it cannot go on into a separator. -/
theorem stops_separated (hseparator : ∀ rest, Stops Token.isWordChar (separator ++ rest))
    (hafter : Stops Token.isWordChar after) (nodes : List Node) :
    Stops Token.isWordChar (separated separator nodes ++ after) := by
  cases nodes with
  | nil => exact hafter
  | cons node nodes =>
    rw [separated_cons, List.append_assoc]
    exact hseparator _

/-- A block spells its words if the statements in it do. -/
private theorem spellsApart_blockChars (h : ∀ before after, Stops Token.isWordChar after →
      Spells before (separated [' '] nodes) after (wordsAll nodes)) :
    SpellsApart (blockChars nodes) (symbol "\x7b" :: (wordsAll nodes ++ [symbol "\x7d"])) := by
  intro before after _ _
  have hclose : ∀ before, Spells before [' ', '\x7d'] after [symbol "\x7d"] :=
    fun before => .blank (by decide) (.symbol rfl (by decide) .nil)
  have hstop : Stops Token.isWordChar ([' ', '\x7d'] ++ after) :=
    Lookahead.stops_cons.mpr (by decide)
  exact .symbol rfl (by decide) ((h _ _ hstop).append (hclose _))

mutual

/-- **Statements on one line spell their words.** -/
theorem spellsApart_display {node : Node} (h : ∀ a ∈ node.atoms, a.Spellable) :
    SpellsApart node.display.toList node.words := by
  match node with
  | view elements =>
    have hblock := spellsApart_blockChars fun _ _ hstop => spells_separated h hstop
    rw [toList_display_view]
    exact (spellsApart_keyword .view).space hblock
  | assignment name value =>
    obtain ⟨hname, hvalue⟩ := List.forall_mem_cons.mp h
    exact spellsApart_assignment hname (hvalue _ List.mem_cons_self)
  | function name body =>
    obtain ⟨hname, hbody⟩ := List.forall_mem_cons.mp h
    have hblock := spellsApart_blockChars fun _ _ hstop => spells_separated hbody hstop
    rw [toList_display_function]
    exact (spellsApart_functionHeader hname).space hblock
  | component name body =>
    obtain ⟨hname, hbody⟩ := List.forall_mem_cons.mp h
    have hblock := spellsApart_blockChars fun _ _ hstop => spells_separated hbody hstop
    rw [toList_display_component]
    exact (spellsApart_componentHeader hname).space hblock
  | call name => exact spellsApart_call (h _ List.mem_cons_self)
  | text content => exact spellsApart_text (h _ List.mem_cons_self)
  | button label => exact spellsApart_button (h _ List.mem_cons_self)

theorem spells_separated {nodes : List Node} {before after : List Char}
    (h : ∀ a ∈ atomsAll nodes, a.Spellable) (hafter : Stops Token.isWordChar after) :
    Spells before (separated [' '] nodes) after (wordsAll nodes) := by
  match nodes with
  | [] => exact .nil
  | node :: nodes =>
    obtain ⟨hnode, hnodes⟩ := List.forall_mem_append.mp h
    -- The blank before the statement sets it apart from what stands before it.
    have hblank : NoDigitBehind (before ++ [' ']) :=
      noDigitBehind_append_singleton.mpr (by decide)
    have hspace : ∀ rest, Stops Token.isWordChar ([' '] ++ rest) :=
      fun _ => Lookahead.stops_cons.mpr (by decide)
    have hfirst := spellsApart_display hnode _ _ hblank (stops_separated hspace hafter nodes)
    have hrest : Spells (before ++ [' '] ++ node.display.toList) _ after (wordsAll nodes) :=
      spells_separated hnodes hafter
    rw [separated_cons]
    exact .blank (by decide) (hfirst.append hrest)

end

end Words

/-! ### Statements set apart -/

/-- The characters are those of the statements on one line each, with blanks between them. -/
inductive SetApart : List Node → List Char → Prop where
  | nil : SetApart [] []
  | single (node : Node) : SetApart [node] node.display.toList
  | cons {node next : Node} {nodes : List Node} {blanks cs : List Char} : blanks ≠ [] →
      (∀ c ∈ blanks, isBlank c = true) → SetApart (next :: nodes) cs →
      SetApart (node :: next :: nodes) (node.display.toList ++ (blanks ++ cs))

section SetApart

variable {nodes : List Node} {cs : List Char}

/-- One and the same text between the statements will do. -/
theorem setApart_intercalate {blanks : String} (hne : blanks ≠ "")
    (h : ∀ c ∈ blanks.toList, isBlank c = true) (nodes : List Node) :
    SetApart nodes (blanks.intercalate (nodes.map display)).toList := by
  induction nodes with
  | nil => exact .nil
  | cons node nodes ih =>
    cases nodes with
    | nil => exact .single node
    | cons next nodes =>
      have hblanks : blanks.toList ≠ [] := fun hnil => hne (String.toList_eq_nil_iff.mp hnil)
      have hsource : (blanks.intercalate ((node :: next :: nodes).map display)).toList =
          node.display.toList ++
            (blanks.toList ++ (blanks.intercalate ((next :: nodes).map display)).toList) := by
        simp [String.intercalate_cons_cons]
      rw [hsource]
      exact .cons hblanks h ih

/-- **Statements set apart spell their words**, one statement after the other. -/
theorem SetApart.spellsApart (h : SetApart nodes cs) (hatoms : ∀ a ∈ atomsAll nodes, a.Spellable) :
    SpellsApart cs (wordsAll nodes) := by
  induction h with
  | nil => exact fun _ _ _ _ => .nil
  | single node =>
    have hnode : ∀ a ∈ node.atoms, a.Spellable := fun a ha =>
      hatoms a (List.mem_append_left _ ha)
    have hwords : wordsAll [node] = node.words := by rw [wordsAll, wordsAll, List.append_nil]
    rw [hwords]
    exact spellsApart_display hnode
  | @cons node next nodes blanks cs hne hblanks _ ih =>
    obtain ⟨hnode, hnodes⟩ := List.forall_mem_append.mp hatoms
    exact (spellsApart_display hnode).setApart hne hblanks (ih hnodes)

/-- **Statements on one line are program text.** Let names have the form of names and be no reserved
words, let no string have a quote, and let no number be negative. Then the statements are read back
from their forms on one line with blanks between them, and from the same words, kinds and texts, as
in their layout with any indent. -/
theorem readProgram_setApart {source indent : String} (hatoms : ∀ a ∈ atomsAll nodes, a.Readable)
    (hsource : SetApart nodes source.toList) (hindent : ∀ c ∈ indent.toList, isBlank c = true) :
    readProgram source = .ok nodes ∧
      ∃ ts us, tokenize source = .ok ts ∧ tokenize (print indent nodes) = .ok us ∧
        ts.map Token.word = us.map Token.word := by
  have hspellable : ∀ a ∈ atomsAll nodes, a.Spellable := fun a ha => (hatoms a ha).spellable
  have hspells : Spells [] source.toList [] (wordsAll nodes) :=
    hsource.spellsApart hspellable [] [] (by simp [NoDigitBehind]) (by simp [Stops])
  obtain ⟨ts, hts, hwords⟩ := exists_tokenize_of_spells hspells
  obtain ⟨us, hus, hprinted⟩ := exists_tokenize_of_spells (spells_print hindent hspellable)
  exact ⟨readProgram_of_spells hspells hatoms, ts, us, hts, hus, hwords.trans hprinted.symm⟩

/-- An empty block is written in two ways, and a text may look like the start of a block. -/
theorem readProgram_setApart_of_emptyView :
    (∀ a ∈ atomsAll [view [view [], text "View \x7b\n"], call "viewer"], a.Readable) ∧
      SetApart [view [view [], text "View \x7b\n"], call "viewer"]
        "View \x7b View \x7b \x7d Text(\"View \x7b\n\") \x7d\t\nviewer()".toList ∧
      (∀ c ∈ "\t".toList, isBlank c = true) ∧
      readProgram "View \x7b View \x7b \x7d Text(\"View \x7b\n\") \x7d\t\nviewer()" =
        .ok [view [view [], text "View \x7b\n"], call "viewer"] ∧
      ∃ ts us,
        tokenize "View \x7b View \x7b \x7d Text(\"View \x7b\n\") \x7d\t\nviewer()" = .ok ts ∧
        tokenize "View \x7b\n\tView \x7b\x7d\n\tText(\"View \x7b\n\")\n\x7d\nviewer()\n" = .ok us ∧
        ts.map Token.word = us.map Token.word := by
  have hatoms : ∀ a ∈ atomsAll [view [view [], text "View \x7b\n"], call "viewer"], a.Readable := by
    decide
  have honeLine : "\t\n".intercalate
      ([view [view [], text "View \x7b\n"], call "viewer"].map display) =
        "View \x7b View \x7b \x7d Text(\"View \x7b\n\") \x7d\t\nviewer()" := by
    decide +kernel
  have hprint : print "\t" [view [view [], text "View \x7b\n"], call "viewer"] =
      "View \x7b\n\tView \x7b\x7d\n\tText(\"View \x7b\n\")\n\x7d\nviewer()\n" := by
    decide +kernel
  have hsource := setApart_intercalate (by decide : "\t\n" ≠ "") (List.all_eq_true.mp (by decide))
    [view [view [], text "View \x7b\n"], call "viewer"]
  have hindent : ∀ c ∈ "\t".toList, isBlank c = true := List.all_eq_true.mp (by decide)
  have hread := readProgram_setApart hatoms hsource hindent
  rw [honeLine] at hsource hread
  rw [hprint] at hread
  exact ⟨hatoms, hsource, hindent, hread⟩

end SetApart

end Node

end ViewLang

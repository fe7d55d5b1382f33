import Mathlib
import ViewLang.Node.Display
import ViewLang.Proofs.Grammar
import ViewLang.Proofs.Lexing

/-!
# The words of a tree

A tree of statements is put into words in one way: `wordsAll` gives the words that a printed program
consists of. Its **atoms** are the entries that are not fixed by the grammar: the names, the
contents of strings, and the numbers.

* Whatever words derive a program, those that the grammar does not fix stand for the atoms of the
  program, in order (`forall₂_derivesAtom`). When the words are spelled in a source, the atoms are
  **spellable** (`spellable_of_derivesAtom`): a name has the form of a name, a string has no quote,
  a number is not negative.
* The words of a program derive it when every atom is **readable**, which is to say spellable and no
  reserved word (`derivesProgram_wordsAll`). A reserved word among the names is put into words as a
  keyword (`not_isReserved_of_mem_wordsAll`).
-/

namespace ViewLang

open Token (Word IsName IsReserved)
open Token.Word (keyword identifier symbol operator)

/-! ### Numerals -/

section Numerals

variable {cs : List Char} {n : Int64}

theorem readNat?_toDigits (n : ℕ) : readNat? (Nat.toDigits 10 n) = some n := by
  have hdigits : (Nat.toDigits 10 n).all Char.isDigit = true := by
    rw [List.all_eq_true]
    exact fun c hc => Nat.isDigit_of_mem_toDigits (by decide) (by decide) hc
  rw [readNat?, if_pos ⟨Nat.toDigits_ne_nil, hdigits⟩]
  exact congrArg some Nat.ofDigitChars_ten_toDigits

/-- Digits without a sign stand for their value, as long as it fits. -/
private theorem readInt64?_of_isDigit (hdigits : ∀ c ∈ cs, c.isDigit = true) :
    readInt64? cs = (readNat? cs).bind fun n =>
      if (n : ℤ) ≤ Int64.maxValue.toInt then some (Int64.ofInt n) else none := by
  have hsign : ∀ ds, cs ≠ '-' :: ds ∧ cs ≠ '+' :: ds := by
    intro ds
    constructor <;>
    · rintro rfl
      exact absurd (hdigits _ List.mem_cons_self) (by decide)
  have hzero : Int64.minValue.toInt ≤ 0 := by decide
  have hmin (n : ℕ) : Int64.minValue.toInt ≤ (n : ℤ) := Int.le_trans hzero (Int.natCast_nonneg n)
  rw [readInt64?, Option.bind_map]
  · simp only [Function.comp_def, Int.ofNat_eq_natCast, hmin, true_and]
  · exact fun ds => (hsign ds).1
  · exact fun ds => (hsign ds).2

/-- A number that is not negative is read back from its numeral. -/
theorem readInt64?_toDigits (hn : 0 ≤ n) :
    readInt64? (Nat.toDigits 10 n.toInt.toNat) = some n := by
  have hint : ((n.toInt.toNat : ℕ) : ℤ) = n.toInt :=
    Int.toNat_of_nonneg (Int64.le_iff_toInt_le.mp hn)
  rw [readInt64?_of_isDigit fun c hc => Nat.isDigit_of_mem_toDigits (by decide) (by decide) hc,
    readNat?_toDigits, Option.bind_some, hint, if_pos n.toInt_le, Int64.ofInt_toInt]

/-- The numeral of a number that is not negative has no sign. -/
theorem toList_toString_toInt (hn : 0 ≤ n) :
    (toString n.toInt).toList = Nat.toDigits 10 n.toInt.toNat := by
  have hint : n.toInt = (n.toInt.toNat : ℤ) :=
    (Int.toNat_of_nonneg (Int64.le_iff_toInt_le.mp hn)).symm
  rw [hint, Int.toNat_natCast]
  exact Nat.toList_repr

theorem nonneg_of_readInt64? (hdigits : ∀ c ∈ cs, c.isDigit = true)
    (h : readInt64? cs = some n) : 0 ≤ n := by
  rw [readInt64?_of_isDigit hdigits, Option.bind_eq_some_iff] at h
  obtain ⟨m, -, hm⟩ := h
  split at hm
  · next hmax =>
    obtain rfl := Option.some.inj hm
    have hlimit : Int64.maxValue.toInt = 2 ^ 63 - 1 := rfl
    rw [Int64.le_iff_toInt_le, Int64.toInt_ofInt_of_le (by omega) (by omega)]
    exact Int.natCast_nonneg m
  · cases hm

end Numerals

/-! ### The atoms of a tree -/

/-- An entry of a program that the grammar does not fix. -/
inductive Atom where
  | name (name : String)
  | string (contents : String)
  | number (value : Int64)
deriving DecidableEq, Repr

/-- The atom that a literal is. -/
def Literal.atom : Literal → Atom
  | string contents => .string contents
  | number value => .number value

namespace Node

mutual

/-- The names, strings and numbers of a statement and of the statements in it, in order. -/
def atoms : Node → List Atom
  | view elements => atomsAll elements
  | assignment name value => [.name name, value.atom]
  | function name body => .name name :: atomsAll body
  | component name body => .name name :: atomsAll body
  | call name => [.name name]
  | text content => [.string content]
  | button label => [.string label]

/-- The names, strings and numbers of statements, in order. -/
def atomsAll : List Node → List Atom
  | [] => []
  | node :: nodes => atoms node ++ atomsAll nodes

end

end Node

namespace Atom

/-- A name has the form of a name, a string has no quote, and a number is not negative. -/
def Spellable : Atom → Prop
  | name s => IsName s.toList
  | string contents => '"' ∉ contents.toList
  | number value => 0 ≤ value

/-- An atom that is spellable, and no reserved word. -/
def Readable : Atom → Prop
  | name s => IsName s.toList ∧ ¬IsReserved s.toList
  | string contents => '"' ∉ contents.toList
  | number value => 0 ≤ value

instance : DecidablePred Readable
  | name s => inferInstanceAs (Decidable (IsName s.toList ∧ ¬IsReserved s.toList))
  | string contents => inferInstanceAs (Decidable ('"' ∉ contents.toList))
  | number value => inferInstanceAs (Decidable (0 ≤ value))

theorem Readable.spellable {a : Atom} (h : a.Readable) : a.Spellable := by
  cases a with
  | name => exact h.1
  | string | number => exact h

theorem readable_iff {a : Atom} :
    a.Readable ↔ a.Spellable ∧ ∀ s, a = .name s → ¬IsReserved s.toList := by
  cases a with
  | name s => simp [Readable, Spellable]
  | string | number => simp [Readable, Spellable]

end Atom

/-- The word stands for the atom. -/
inductive DerivesAtom : Word → Atom → Prop where
  | name {name : String} : DerivesAtom (identifier name) (.name name)
  | string {text contents : String} : Unquoted text contents →
      DerivesAtom ⟨.string, text⟩ (.string contents)
  | number {text : String} {value : Int64} : readInt64? text.toList = some value →
      DerivesAtom ⟨.number, text⟩ (.number value)

namespace Token.Word

/-- Whether a word stands for an atom. The other words are fixed by the grammar. -/
def isFree (w : Word) : Bool :=
  w.kind == .identifier || w.kind == .string || w.kind == .number

@[simp] theorem isFree_keyword (k : Keyword) : (keyword k).isFree = false := rfl

@[simp] theorem isFree_identifier (name : String) : (identifier name).isFree = true := rfl

@[simp] theorem isFree_symbol (text : String) : (symbol text).isFree = false := rfl

@[simp] theorem isFree_operator (text : String) : (operator text).isFree = false := rfl

@[simp] theorem isFree_string (text : String) : isFree ⟨.string, text⟩ = true := rfl

@[simp] theorem isFree_number (text : String) : isFree ⟨.number, text⟩ = true := rfl

end Token.Word

section Derivations

theorem derivesAtom_of_derivesLiteral {w : Word} {value : Literal} (h : DerivesLiteral w value) :
    DerivesAtom w value.atom ∧ w.isFree = true := by
  cases h with
  | string h => exact ⟨.string h, rfl⟩
  | number h => exact ⟨.number h, rfl⟩

mutual

theorem forall₂_derivesAtom_of_statement {words : List Word} {node : Node}
    (h : DerivesStatement words node) :
    List.Forall₂ DerivesAtom (words.filter Word.isFree) node.atoms := by
  match h with
  | .view hblock =>
    have h := forall₂_derivesAtom_of_block hblock
    simpa [Node.atoms] using h
  | .assignment hvalue =>
    obtain ⟨hatom, hfree⟩ := derivesAtom_of_derivesLiteral hvalue
    simp [Node.atoms, List.filter_cons, hfree, hatom, DerivesAtom.name]
  | .function hblock | .component hblock | .componentWithParameters hblock =>
    have h := forall₂_derivesAtom_of_block hblock
    simp [Node.atoms, List.filter_cons, DerivesAtom.name, h]
  | .text hquoted | .button hquoted =>
    simp [Node.atoms, List.filter_cons, DerivesAtom.string hquoted]
  | .call => simp [Node.atoms, List.filter_cons, DerivesAtom.name]

theorem forall₂_derivesAtom_of_block {words : List Word} {nodes : List Node}
    (h : DerivesBlock words nodes) :
    List.Forall₂ DerivesAtom (words.filter Word.isFree) (Node.atomsAll nodes) := by
  match h with
  | .braces hprogram =>
    have h := forall₂_derivesAtom hprogram
    simpa using h

/-- The words of a program that are not fixed by the grammar stand for its atoms, in order. -/
theorem forall₂_derivesAtom {words : List Word} {nodes : List Node}
    (h : DerivesProgram words nodes) :
    List.Forall₂ DerivesAtom (words.filter Word.isFree) (Node.atomsAll nodes) := by
  match h with
  | .nil => exact .nil
  | .cons hnode hnodes =>
    rw [List.filter_append]
    exact List.rel_append (forall₂_derivesAtom_of_statement hnode) (forall₂_derivesAtom hnodes)

end

private theorem exists_mem_of_forall₂ {α β : Type} {r : α → β → Prop} {xs : List α} {ys : List β}
    (h : List.Forall₂ r xs ys) {y : β} (hy : y ∈ ys) : ∃ x ∈ xs, r x y := by
  induction h with
  | nil => cases hy
  | @cons x z xs ys hxz _ ih =>
    rcases List.mem_cons.mp hy with rfl | hy
    · exact ⟨x, List.mem_cons_self, hxz⟩
    · obtain ⟨w, hw, hwy⟩ := ih hy
      exact ⟨w, List.mem_cons_of_mem x hw, hwy⟩

variable {words : List Word} {nodes : List Node}

theorem exists_word_of_mem_atomsAll (h : DerivesProgram words nodes) {a : Atom}
    (ha : a ∈ Node.atomsAll nodes) : ∃ w ∈ words, DerivesAtom w a := by
  obtain ⟨w, hw, hatom⟩ := exists_mem_of_forall₂ (forall₂_derivesAtom h) ha
  exact ⟨w, List.mem_of_mem_filter hw, hatom⟩

/-- The names of a program are the names among its words. -/
theorem name_mem_atomsAll_iff (h : DerivesProgram words nodes) {s : String} :
    Atom.name s ∈ Node.atomsAll nodes ↔ identifier s ∈ words := by
  constructor
  · intro hname
    obtain ⟨w, hw, hatom⟩ := exists_word_of_mem_atomsAll h hname
    cases hatom
    exact hw
  · intro hword
    have hfree : identifier s ∈ words.filter Word.isFree :=
      List.mem_filter.mpr ⟨hword, Token.Word.isFree_identifier s⟩
    obtain ⟨a, ha, hatom⟩ := exists_mem_of_forall₂ (forall₂_derivesAtom h).flip hfree
    cases hatom
    exact ha

end Derivations

/-- An atom that a spelled word stands for is spellable. -/
theorem spellable_of_derivesAtom {before after : List Char} {w : Word} {a : Atom}
    (hatom : DerivesAtom w a) (hword : Token.Spelled before after w.kind w.text.toList) :
    a.Spellable := by
  cases hatom with
  | name =>
    cases hword with
    | identifier hname => exact hname
  | @string text contents hquoted =>
    simp only at hword
    generalize hcs : text.toList = cs at hword
    cases hword with
    | @string body hbody =>
      -- What is spelled as a string has both quotes, so it is not kept whole.
      obtain htext | ⟨-, hnone⟩ := hquoted
      · rw [hcs, List.cons_inj_right, List.append_left_inj] at htext
        rwa [Atom.Spellable, ← htext]
      · exact absurd hcs (hnone body)
  | number hvalue =>
    cases hword with
    | number _ hdigits => exact nonneg_of_readInt64? hdigits hvalue

/-! ### The words of the printed form -/

namespace Token.Word

/-- The word that a name is read as when it stands alone. -/
def ofName (name : String) : Word := ⟨wordKind none none name.toList, name⟩

/-- The word that a string between quotes is read as. -/
def quoted (contents : String) : Word := ⟨.string, "\"" ++ contents ++ "\""⟩

theorem ofName_eq_identifier {name : String} (h : ¬IsReserved name.toList) :
    ofName name = identifier name := by
  have hkind : wordKind none none name.toList = .identifier :=
    wordKind_eq_identifier_iff.mpr fun hreserved => h hreserved.1
  rw [ofName, identifier, hkind]

theorem ofName_toString (k : Keyword) : ofName k.toString = keyword k := by
  have hkind : wordKind none none k.toString.toList = .keyword :=
    wordKind_eq_keyword_iff.mpr ⟨⟨k, rfl⟩, rfl⟩
  rw [ofName, keyword, hkind]

theorem not_isReserved_of_ofName_eq {name s : String} (h : ofName name = identifier s) :
    ¬IsReserved s.toList := by
  obtain ⟨hkind, rfl⟩ := Word.mk.inj h
  exact fun hreserved => wordKind_eq_identifier_iff.mp hkind ⟨hreserved, rfl⟩

@[simp] theorem identifier_ne_keyword (s : String) (k : Keyword) : identifier s ≠ keyword k :=
  nofun

@[simp] theorem identifier_ne_symbol (s text : String) : identifier s ≠ symbol text :=
  nofun

@[simp] theorem identifier_ne_operator (s text : String) : identifier s ≠ operator text :=
  nofun

@[simp] theorem identifier_ne_quoted (s contents : String) : identifier s ≠ quoted contents :=
  nofun

theorem toList_text_quoted (contents : String) :
    (quoted contents).text.toList = '"' :: (contents.toList ++ ['"']) := by
  simp [quoted]

theorem unquoted_quoted (contents : String) : Unquoted (quoted contents).text contents :=
  .inl (toList_text_quoted contents)

end Token.Word

open Token.Word (ofName quoted)

/-- The word of a literal. -/
def Literal.word : Literal → Word
  | string contents => quoted contents
  | number value => ⟨.number, toString value.toInt⟩

theorem Literal.derives_word {value : Literal} (h : value.atom.Readable) :
    DerivesLiteral value.word value := by
  cases value with
  | string contents => exact .string (Token.Word.unquoted_quoted contents)
  | number n =>
    refine .number ?_
    rw [toList_toString_toInt h, readInt64?_toDigits h]

namespace Node

mutual

/-- The words of a statement. -/
def words : Node → List Word
  | view elements => keyword .view :: symbol "\x7b" :: (wordsAll elements ++ [symbol "\x7d"])
  | assignment name value => [keyword .letWord, ofName name, operator "=", value.word]
  | function name body =>
    keyword .func :: ofName name :: symbol "(" :: symbol ")" :: symbol "\x7b" ::
      (wordsAll body ++ [symbol "\x7d"])
  | component name body =>
    keyword .component :: ofName name :: symbol "\x7b" :: (wordsAll body ++ [symbol "\x7d"])
  | call name => [ofName name, symbol "(", symbol ")"]
  | text content => [keyword .text, symbol "(", quoted content, symbol ")"]
  | button label => [keyword .button, symbol "(", quoted label, symbol ")"]

/-- The words of statements, one after the other. -/
def wordsAll : List Node → List Word
  | [] => []
  | node :: nodes => words node ++ wordsAll nodes

end

/-! ### The words derive the tree -/

mutual

theorem derivesStatement_words {node : Node} (h : ∀ a ∈ node.atoms, a.Readable) :
    DerivesStatement node.words node := by
  match node with
  | view elements => exact .view (.braces (derivesProgram_wordsAll h))
  | assignment name value =>
    obtain ⟨hname, hvalue⟩ := List.forall_mem_cons.mp h
    rw [words, Token.Word.ofName_eq_identifier hname.2]
    exact .assignment (Literal.derives_word (hvalue _ List.mem_cons_self))
  | function name body =>
    obtain ⟨hname, hbody⟩ := List.forall_mem_cons.mp h
    rw [words, Token.Word.ofName_eq_identifier hname.2]
    exact .function (.braces (derivesProgram_wordsAll hbody))
  | component name body =>
    obtain ⟨hname, hbody⟩ := List.forall_mem_cons.mp h
    rw [words, Token.Word.ofName_eq_identifier hname.2]
    exact .component (.braces (derivesProgram_wordsAll hbody))
  | call name =>
    have hname := h _ List.mem_cons_self
    rw [words, Token.Word.ofName_eq_identifier hname.2]
    exact .call
  | text content => exact .text (Token.Word.unquoted_quoted content)
  | button label => exact .button (Token.Word.unquoted_quoted label)

/-- The words of a program derive it if its atoms are readable. -/
theorem derivesProgram_wordsAll {nodes : List Node} (h : ∀ a ∈ atomsAll nodes, a.Readable) :
    DerivesProgram (wordsAll nodes) nodes := by
  match nodes with
  | [] => exact .nil
  | node :: nodes =>
    obtain ⟨hnode, hnodes⟩ := List.forall_mem_append.mp h
    exact .cons (derivesStatement_words hnode) (derivesProgram_wordsAll hnodes)

end

/-! ### No name among the words is reserved -/

mutual

private theorem not_isReserved_of_mem_words {node : Node} {s : String}
    (h : identifier s ∈ node.words) : ¬IsReserved s.toList := by
  match node with
  | view elements =>
    have helements : identifier s ∈ wordsAll elements := by simpa [words] using h
    exact not_isReserved_of_mem_wordsAll helements
  | assignment name value =>
    have hname : identifier s = ofName name ∨ identifier s = value.word := by
      simpa [words] using h
    obtain hname | hvalue := hname
    · exact Token.Word.not_isReserved_of_ofName_eq hname.symm
    · cases value <;> cases hvalue
  | function name body | component name body =>
    have hname : identifier s = ofName name ∨ identifier s ∈ wordsAll body := by
      simpa [words] using h
    obtain hname | hbody := hname
    · exact Token.Word.not_isReserved_of_ofName_eq hname.symm
    · exact not_isReserved_of_mem_wordsAll hbody
  | call name =>
    have hname : identifier s = ofName name := by simpa [words] using h
    exact Token.Word.not_isReserved_of_ofName_eq hname.symm
  | text content | button label =>
    simp [words] at h

/-- A name that is a reserved word is a keyword among the words of a program. -/
theorem not_isReserved_of_mem_wordsAll {nodes : List Node} {s : String}
    (h : identifier s ∈ wordsAll nodes) : ¬IsReserved s.toList := by
  match nodes with
  | [] => cases h
  | node :: nodes =>
    obtain hnode | hnodes := List.mem_append.mp h
    · exact not_isReserved_of_mem_words hnode
    · exact not_isReserved_of_mem_wordsAll hnodes

end

end Node

end ViewLang

import ViewLang.Node.Parser

/-!
# The grammar of programs

Which token lists are programs, and of which statements, is a matter of the kinds and texts of the
tokens alone: of their **words**. This module gives the grammar of words as inductive predicates.
`DerivesStatement`, `DerivesBlock` and `DerivesProgram` are the rules for a statement, a block in
braces, and a sequence of statements.

A statement consists of words only (`LeafForm`), or of the words of a header (`HeaderForm`) and a
block.
-/

namespace ViewLang

/-! ### Words -/

namespace Token

/-- A token without its place. -/
structure Word where
  kind : Kind
  text : String
deriving DecidableEq, Repr

/-- The word that a token is. -/
def word (t : Token) : Word := ⟨t.kind, t.text⟩

namespace Word

/-- A reserved word. -/
def keyword (k : Keyword) : Word := ⟨.keyword, k.toString⟩

/-- A name. -/
def identifier (name : String) : Word := ⟨.identifier, name⟩

def symbol (text : String) : Word := ⟨.symbol, text⟩

def operator (text : String) : Word := ⟨.operator, text⟩

end Word

theorem word_eq_iff {t : Token} {kind : Kind} {text : String} :
    t.word = ⟨kind, text⟩ ↔ t.is kind text = true := by
  rw [is_eq_true_iff, word, Word.mk.injEq]

theorem keyword?_eq_some_iff_word {t : Token} {k : Keyword} :
    t.keyword? = some k ↔ t.word = .keyword k := by
  rw [keyword?_eq_some_iff, word, Word.keyword, Word.mk.injEq]

end Token

open Token (Word)
open Token.Word (keyword identifier symbol operator)

/-! ### The rules -/

/-- The contents of a string token with the text `text`: what stands between a quote at either end,
or the whole text if it does not have both. -/
def Unquoted (text content : String) : Prop :=
  text.toList = '"' :: (content.toList ++ ['"']) ∨
    content = text ∧ ∀ cs, text.toList ≠ '"' :: (cs ++ ['"'])

/-- A literal is a string, or a number that fits in 64 bits. -/
inductive DerivesLiteral : Word → Literal → Prop where
  | string {text content : String} : Unquoted text content →
      DerivesLiteral ⟨.string, text⟩ (.string content)
  | number {text : String} {n : Int64} : readInt64? text.toList = some n →
      DerivesLiteral ⟨.number, text⟩ (.number n)

mutual

/-- The words make up the statement. -/
inductive DerivesStatement : List Word → Node → Prop where
  | view {block : List Word} {elements : List Node} : DerivesBlock block elements →
      DerivesStatement (keyword .view :: block) (.view elements)
  | assignment {name : String} {word : Word} {value : Literal} : DerivesLiteral word value →
      DerivesStatement [keyword .letWord, identifier name, operator "=", word]
        (.assignment name value)
  | function {name : String} {block : List Word} {body : List Node} : DerivesBlock block body →
      DerivesStatement
        (keyword .func :: identifier name :: symbol "(" :: symbol ")" :: block)
        (.function name body)
  | component {name : String} {block : List Word} {body : List Node} : DerivesBlock block body →
      DerivesStatement (keyword .component :: identifier name :: block) (.component name body)
  | componentWithParameters {name : String} {block : List Word} {body : List Node} :
      DerivesBlock block body →
      DerivesStatement
        (keyword .component :: identifier name :: symbol "(" :: symbol ")" :: block)
        (.component name body)
  | text {quoted content : String} : Unquoted quoted content →
      DerivesStatement [keyword .text, symbol "(", ⟨.string, quoted⟩, symbol ")"] (.text content)
  | button {quoted label : String} : Unquoted quoted label →
      DerivesStatement [keyword .button, symbol "(", ⟨.string, quoted⟩, symbol ")"] (.button label)
  | call {name : String} : DerivesStatement [identifier name, symbol "(", symbol ")"] (.call name)

/-- The words make up a block of the statements. -/
inductive DerivesBlock : List Word → List Node → Prop where
  | braces {words : List Word} {nodes : List Node} : DerivesProgram words nodes →
      DerivesBlock (symbol "\x7b" :: (words ++ [symbol "\x7d"])) nodes

/-- The words make up the statements, one after the other. -/
inductive DerivesProgram : List Word → List Node → Prop where
  | nil : DerivesProgram [] []
  | cons {first rest : List Word} {node : Node} {nodes : List Node} :
      DerivesStatement first node → DerivesProgram rest nodes →
      DerivesProgram (first ++ rest) (node :: nodes)

end

namespace Node

/-! ### Statements with and without a block -/

/-- The words that make up a statement without a block. -/
def LeafForm (words : List Word) : Node → Prop
  | .assignment name value => ∃ word, DerivesLiteral word value ∧
      words = [keyword .letWord, identifier name, operator "=", word]
  | .text content => ∃ quoted, Unquoted quoted content ∧
      words = [keyword .text, symbol "(", ⟨.string, quoted⟩, symbol ")"]
  | .button label => ∃ quoted, Unquoted quoted label ∧
      words = [keyword .button, symbol "(", ⟨.string, quoted⟩, symbol ")"]
  | .call name => words = [identifier name, symbol "(", symbol ")"]
  | .view _ | .function _ _ | .component _ _ => False

/-- The words that stand before a block. -/
def HeaderForm (words : List Word) : Header → Prop
  | .view => words = [keyword .view]
  | .function name => words = [keyword .func, identifier name, symbol "(", symbol ")"]
  | .component name => words = [keyword .component, identifier name] ∨
      words = [keyword .component, identifier name, symbol "(", symbol ")"]

theorem derivesStatement_of_leafForm {words : List Word} {node : Node} (h : LeafForm words node) :
    DerivesStatement words node := by
  cases node with
  | assignment =>
    obtain ⟨word, hword, rfl⟩ := h
    exact .assignment hword
  | text =>
    obtain ⟨quoted, hquoted, rfl⟩ := h
    exact .text hquoted
  | button =>
    obtain ⟨quoted, hquoted, rfl⟩ := h
    exact .button hquoted
  | call =>
    obtain rfl := h
    exact .call
  | view | function | component => exact h.elim

theorem derivesStatement_of_headerForm {front block : List Word} {header : Header}
    {nodes : List Node} (h : HeaderForm front header) (hblock : DerivesBlock block nodes) :
    DerivesStatement (front ++ block) (header.node nodes) := by
  cases header with
  | view =>
    obtain rfl := h
    exact .view hblock
  | function =>
    obtain rfl := h
    exact .function hblock
  | component =>
    obtain rfl | rfl := h
    · exact .component hblock
    · exact .componentWithParameters hblock

end Node

end ViewLang

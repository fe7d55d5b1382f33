import ViewLang.Span

/-!
# Tokens

The words a program is made of: their kinds, the reserved words, and the token itself, which keeps
its exact text and the place where it stands.
-/

namespace ViewLang

namespace Token

/-- What sort of word a token is. Line breaks are part of the vocabulary, although reading a source
treats them as blanks and never yields one. -/
inductive Kind where
  | keyword
  | identifier
  | number
  | string
  | symbol
  | operator
  | newline
deriving DecidableEq, Repr

/-- The name of a kind in prose. -/
def Kind.name : Kind → String
  | .keyword => "keyword"
  | .identifier => "identifier"
  | .number => "number"
  | .string => "string literal"
  | .symbol => "symbol"
  | .operator => "operator"
  | .newline => "newline"

/-- The name of a kind in a token listing. -/
def Kind.tag : Kind → String
  | .keyword => "KEYWORD"
  | .identifier => "IDENTIFIER"
  | .number => "NUMBER"
  | .string => "STRING"
  | .symbol => "SYMBOL"
  | .operator => "OPERATOR"
  | .newline => "NEWLINE"

end Token

/-- The reserved words. Those for control flow are reserved without a meaning so far. -/
inductive Keyword where
  | letWord
  | func
  | returnWord
  | view
  | text
  | button
  | ifWord
  | elseWord
  | forWord
  | whileWord
  | component
deriving DecidableEq, Repr

namespace Keyword

/-- Every reserved word. -/
def all : List Keyword :=
  [letWord, func, returnWord, view, text, button, ifWord, elseWord, forWord, whileWord, component]

/-- How a reserved word is written. -/
def toString : Keyword → String
  | letWord => "let"
  | func => "func"
  | returnWord => "return"
  | view => "View"
  | text => "Text"
  | button => "Button"
  | ifWord => "if"
  | elseWord => "else"
  | forWord => "for"
  | whileWord => "while"
  | component => "component"

/-- The reserved word that is written `s`. -/
def ofString? (s : String) : Option Keyword :=
  all.find? (·.toString == s)

theorem mem_all (k : Keyword) : k ∈ all := by
  cases k <;> decide

theorem toString_injective {k l : Keyword} (h : k.toString = l.toString) : k = l := by
  revert h
  cases k <;> cases l <;> decide

theorem ofString?_eq_some_iff {s : String} {k : Keyword} :
    ofString? s = some k ↔ k.toString = s := by
  constructor
  · intro h
    exact by simpa using List.find?_some h
  · rintro rfl
    have hk := mem_all k
    cases h : ofString? k.toString with
    | none => simpa using List.find?_eq_none.1 h k hk
    | some l =>
      have hl : l.toString = k.toString := by simpa using List.find?_some h
      rw [toString_injective hl]

end Keyword

/-- A token: a piece of a source with its kind and place. -/
structure Token where
  kind : Token.Kind
  /-- The exact text, which for a string includes the quotes. -/
  text : String
  /-- The line on which the token starts, counted from one. -/
  line : UInt32
  span : Span
deriving DecidableEq, Repr

namespace Token

/-- The reserved word that the token is, if its kind says so and its text is one. -/
def keyword? (t : Token) : Option Keyword :=
  match t.kind with
  | .keyword => Keyword.ofString? t.text
  | _ => none

/-- Whether the token is `text`, as a word of the given kind. -/
def is (t : Token) (kind : Kind) (text : String) : Bool :=
  t.kind == kind && t.text == text

@[simp] theorem is_eq_true_iff {t : Token} {kind : Kind} {text : String} :
    t.is kind text = true ↔ t.kind = kind ∧ t.text = text := by
  simp [is]

theorem keyword?_eq_some_iff {t : Token} {k : Keyword} :
    t.keyword? = some k ↔ t.kind = .keyword ∧ t.text = k.toString := by
  rw [@eq_comm _ t.text, ← Keyword.ofString?_eq_some_iff]
  cases h : t.kind <;> simp [keyword?, h]

end Token

end ViewLang

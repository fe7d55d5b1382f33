import ViewLang.Text.Extending
import ViewLang.Text.Unprintable

/-!
# Quoted characters and texts

The form in which a character or a text is shown to people, between quotes and on one line. The null
character, tab, carriage return, line feed, the backslash and the quote in use are escaped by a
backslash and a letter. Characters without a shape of their own, and those that would combine with
the quote before them, are escaped by their code point. Everything else stands for itself.
-/

namespace ViewLang

namespace Quoted

/-- The escape of a character by its code point, in hexadecimal digits between braces. -/
def codePoint (c : Char) : List Char :=
  ['\\', 'u', '{'] ++ Nat.toDigits 16 c.toNat ++ ['}']

/-- Whether a character is escaped by its code point. -/
def isHidden (c : Char) : Bool :=
  CharSet.extending.contains c || CharSet.unprintable.contains c

/-- The form of one character where `quote` is the quote in use. -/
def escape (quote c : Char) : List Char :=
  if c = '\x00' then ['\\', '0']
  else if c = '\t' then ['\\', 't']
  else if c = '\r' then ['\\', 'r']
  else if c = '\n' then ['\\', 'n']
  else if c = '\\' ∨ c = quote then ['\\', c]
  else if isHidden c then codePoint c
  else [c]

end Quoted

/-- A character between single quotes. -/
def quoteChar (c : Char) : String :=
  String.ofList ('\'' :: (Quoted.escape '\'' c ++ ['\'']))

/-- A text between double quotes. -/
def quoteString (s : String) : String :=
  String.ofList ('"' :: (s.toList.flatMap (Quoted.escape '"') ++ ['"']))

end ViewLang

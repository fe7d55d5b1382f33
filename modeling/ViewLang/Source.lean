import ViewLang.Search
import ViewLang.Text.Utf8

/-!
# Sources

A source is a named text with an index of its lines: the bytes at which its line feeds stand. A line
ends with its line feed, so a line starts behind the line feed of the line before it, and a text
that ends with a line feed has an empty last line. Lines are counted from zero here; people are
shown numbers from one.
-/

namespace ViewLang

/-- The bytes at which the line feeds of a text stand, in order. -/
def lineFeeds (cs : List Char) : Array Nat :=
  go 0 #[] cs
where
  /-- Adds the line feeds of the characters that start at byte `offset`. -/
  go (offset : Nat) (found : Array Nat) : List Char → Array Nat
    | [] => found
    | c :: cs => go (offset + c.utf8Size) (if c = '\n' then found.push offset else found) cs

/-- A text with the name by which people know it, and with its line feeds recorded. -/
structure Source where
  name : String
  text : String
  lineBreaks : Array Nat := lineFeeds text.toList
  lineBreaks_eq : lineBreaks = lineFeeds text.toList := by rfl
deriving DecidableEq, Repr

/-- The source with a given name and text. -/
def Source.ofText (name text : String) : Source :=
  { name, text }

/-- Removes the character at the end, if it is `c`. -/
def dropTrailing (c : Char) (cs : List Char) : List Char :=
  if cs.getLast? = some c then cs.dropLast else cs

/-- A line as it is shown, without the line feed and without a carriage return before it. -/
def shownLine (line : List Char) : List Char :=
  dropTrailing '\r' (dropTrailing '\n' line)

namespace Source

variable (s : Source)

instance : Inhabited Source :=
  ⟨ofText "" ""⟩

/-- The characters of the text. -/
def chars : List Char :=
  s.text.toList

/-- The number of bytes of the text. -/
def size : Nat :=
  byteLength s.chars

/-- The number of lines, which is at least one. -/
def lineCount : Nat :=
  1 + s.lineBreaks.size

/-- The line of a byte, which is the number of line feeds before it. A line feed belongs to the line
that it ends, and the end of the text to the last line. -/
def lineOfByte? (byte : Nat) : Option Nat :=
  if byte ≤ s.size then
    match binarySearch s.lineBreaks byte with
    | .ok line | .error line => some line
  else
    none

/-- The byte at which a line starts. -/
def lineStart? (line : Nat) : Option Nat :=
  if line = 0 then some 0 else s.lineBreaks[line - 1]?.map (· + 1)

/-- The text between two bytes. -/
def slice? (start stop : Nat) : Option (List Char) :=
  sliceBytes? s.chars start stop

/-- A line as it is shown. -/
def line? (line : Nat) : Option String := do
  let start ← s.lineStart? line
  let cs ← s.slice? start ((s.lineStart? (line + 1)).getD s.size)
  return String.ofList (shownLine cs)

/-- The line and the column of a byte, both counted from one; columns count characters. -/
def lineColumn? (byte : Nat) : Option (Nat × Nat) := do
  let line ← s.lineOfByte? byte
  let start ← s.lineStart? line
  let before ← s.slice? start byte
  return (line + 1, before.length + 1)

end Source

end ViewLang

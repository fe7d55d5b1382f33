/-!
# JSON

Values with strings, whole numbers, arrays and objects, and their form on many lines: each item and
each field on a line of its own, two spaces deeper than what it is in. Empty arrays and objects stay
on one line. In strings, quotes, backslashes and control characters are escaped; everything else
stands for itself.
-/

namespace ViewLang

/-- A value. The fields of an object keep their order. -/
inductive Json where
  | string (value : String)
  | number (value : Int)
  | array (items : List Json)
  | object (fields : List (String × Json))
deriving Repr, Inhabited

namespace Json

/-! ### Strings -/

/-- The escape of a control character by its code point, in four hexadecimal digits. -/
def controlEscape (c : Char) : List Char :=
  ['\\', 'u', '0', '0', Nat.digitChar (c.toNat / 16), Nat.digitChar (c.toNat % 16)]

/-- A character as it is written in a string. -/
def escape (c : Char) : List Char :=
  if c = '"' ∨ c = '\\' then ['\\', c]
  else if c = '\x08' then ['\\', 'b']
  else if c = '\x0c' then ['\\', 'f']
  else if c = '\n' then ['\\', 'n']
  else if c = '\r' then ['\\', 'r']
  else if c = '\t' then ['\\', 't']
  else if c.toNat < 0x20 then controlEscape c
  else [c]

/-- A string between quotes. -/
def quote (s : String) : String :=
  String.ofList ('"' :: (s.toList.flatMap escape ++ ['"']))

/-! ### Values -/

/-- A line feed, and the blanks at the start of the line after it. -/
def newLine (depth : Nat) : String :=
  depth.fold (fun _ _ out => out ++ "  ") "\n"

mutual

/-- Writes a value that stands `depth` levels deep after what has been written before. -/
def write (depth : Nat) (out : String) : Json → String
  | string value => out ++ quote value
  | number value => out ++ toString value
  | array [] => out ++ "[]"
  | array (item :: items) =>
    writeItems (depth + 1) (write (depth + 1) (out ++ "[" ++ newLine (depth + 1)) item) items ++
      newLine depth ++ "]"
  | object [] => out ++ "\x7b\x7d"
  | object ((name, value) :: fields) =>
    writeFields (depth + 1)
      (write (depth + 1) (out ++ "\x7b" ++ newLine (depth + 1) ++ quote name ++ ": ") value) fields ++
      newLine depth ++ "\x7d"

/-- Writes the items of an array after the first, each after a comma. -/
def writeItems (depth : Nat) (out : String) : List Json → String
  | [] => out
  | item :: items =>
    writeItems depth (write depth (out ++ "," ++ newLine depth) item) items

/-- Writes the fields of an object after the first, each after a comma. -/
def writeFields (depth : Nat) (out : String) : List (String × Json) → String
  | [] => out
  | (name, value) :: fields =>
    writeFields depth (write depth (out ++ "," ++ newLine depth ++ quote name ++ ": ") value) fields

end

/-- A value on many lines. -/
def pretty (j : Json) : String :=
  j.write 0 ""

end Json

end ViewLang

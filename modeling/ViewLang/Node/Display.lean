import ViewLang.Node

/-!
# Statements on one line

The single-line form of a statement, which is itself program text. It is written piece by piece: the
writers here take what has been written so far, and a function that adds one more piece to it. With
string concatenation that yields the text; with an output that can fail, the pieces go there.
-/

namespace ViewLang

variable {ω : Type}

/-- Writes a literal: a string between quotes, a number in decimal. -/
def Literal.write (put : ω → String → ω) (out : ω) : Literal → ω
  | string value => put (put (put out "\"") value) "\""
  | number value => put out (toString value.toInt)

namespace Node

mutual

/-- Writes a statement on one line. -/
def write (put : ω → String → ω) (out : ω) : Node → ω
  | view elements => put (writeAll put (put out "View \x7b") elements) " \x7d"
  | assignment name value =>
    value.write put (put (put (put out "let ") name) " = ")
  | function name body =>
    put (writeAll put (put (put (put out "func ") name) "() \x7b") body) " \x7d"
  | component name body =>
    put (writeAll put (put (put (put out "component ") name) " \x7b") body) " \x7d"
  | call name => put (put out name) "()"
  | text content => put (put (put out "Text(\"") content) "\")"
  | button label => put (put (put out "Button(\"") label) "\")"

/-- Writes statements one after the other, each after a space. -/
def writeAll (put : ω → String → ω) (out : ω) : List Node → ω
  | [] => out
  | node :: nodes => writeAll put (write put (put out " ") node) nodes

end

/-- Writes statements in brackets, separated by commas. -/
def writeList (put : ω → String → ω) (out : ω) : List Node → ω
  | [] => put (put out "[") "]"
  | node :: nodes =>
    let rest := nodes.foldl (fun out node => node.write put (put out ", "))
    put (rest (node.write put (put out "["))) "]"

/-- The single-line form of a statement. -/
def display (node : Node) : String :=
  node.write (· ++ ·) ""

/-- The single-line form of a list of statements. -/
def displayList (nodes : List Node) : String :=
  writeList (· ++ ·) "" nodes

end Node

end ViewLang

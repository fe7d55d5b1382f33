import ViewLang.Node.Display

/-!
# Programs on many lines

The layout of a program: one line for each statement without a block and for each empty block, and
otherwise a header line, the block one level deeper, and a closing line.
-/

namespace ViewLang

/-- A line of a program, `depth` levels deep. -/
structure Node.Line where
  depth : Nat
  text : String
deriving DecidableEq, Repr

namespace Node

/-- The line as text: one `indent` for each level, and a line feed at the end. -/
def Line.print (indent : String) (line : Line) : String :=
  (List.replicate line.depth indent).foldl (· ++ ·) "" ++ line.text ++ "\n"

mutual

/-- Adds the lines of a statement to the lines before it. -/
def layout (depth : Nat) (done : Array Line) : Node → Array Line
  | view elements => layoutBlock depth done "View" elements
  | function name body => layoutBlock depth done ("func " ++ name ++ "()") body
  | component name body => layoutBlock depth done ("component " ++ name) body
  | leaf => done.push ⟨depth, leaf.display⟩

/-- Adds the lines of a statement that consists of `header` and a block. -/
def layoutBlock (depth : Nat) (done : Array Line) (header : String) : List Node → Array Line
  | [] => done.push ⟨depth, header ++ " \x7b\x7d"⟩
  | node :: nodes =>
    (layoutAll (depth + 1) (layout (depth + 1) (done.push ⟨depth, header ++ " \x7b"⟩) node) nodes).push
      ⟨depth, "\x7d"⟩

/-- Adds the lines of statements that follow one another. -/
def layoutAll (depth : Nat) (done : Array Line) : List Node → Array Line
  | [] => done
  | node :: nodes => layoutAll depth (layout depth done node) nodes

end

/-- A program as text, with its blocks indented by `indent`. -/
def print (indent : String) (nodes : List Node) : String :=
  (layoutAll 0 #[] nodes).foldl (fun out line => out ++ line.print indent) ""

/-- Four spaces, by which blocks are indented unless asked otherwise. -/
def defaultIndent : String := "    "

end Node

end ViewLang

/-!
# Programs

A program is a list of statements, and a statement is a tree: views, functions and components hold
statements of their own. Trees are compared by walking both at once.
-/

namespace ViewLang

/-- A value written in a program. -/
inductive Literal where
  /-- The characters between the quotes. -/
  | string (value : String)
  | number (value : Int64)
deriving DecidableEq, Repr

/-- A statement. -/
inductive Node where
  /-- A view with the elements it shows. -/
  | view (elements : List Node)
  /-- Gives a value to a name. -/
  | assignment (name : String) (value : Literal)
  /-- Defines a function. -/
  | function (name : String) (body : List Node)
  /-- Defines a component. -/
  | component (name : String) (body : List Node)
  /-- Calls the function or component of that name. -/
  | call (name : String)
  /-- Shows a text. -/
  | text (content : String)
  /-- Shows a button. -/
  | button (label : String)
deriving Repr, Inhabited

namespace Node

mutual

/-- Whether two statements are equal: the same constructor with equal names and contents, and blocks
that are equal statement by statement. -/
def same : Node → Node → Bool
  | view xs, view ys => sameAll xs ys
  | assignment n v, assignment m w => n == m && v == w
  | function n xs, function m ys => n == m && sameAll xs ys
  | component n xs, component m ys => n == m && sameAll xs ys
  | call n, call m => n == m
  | text s, text t => s == t
  | button s, button t => s == t
  | _, _ => false

/-- Whether two blocks are equally long and equal statement by statement. -/
def sameAll : List Node → List Node → Bool
  | [], [] => true
  | x :: xs, y :: ys => same x y && sameAll xs ys
  | _, _ => false

end

instance : BEq Node where
  beq := same

end Node

end ViewLang

import ViewLang.Span

/-!
# Diagnostics

A diagnostic is an error about one source, with snippets that point at places in it. How it is drawn
is another matter; here it is data.
-/

namespace ViewLang

/-- Whether a snippet marks where the error is, or only related source such as the opening of a
block that was never closed. -/
inductive Snippet.Kind where
  | primary
  | secondary
deriving DecidableEq, Repr

/-- A labelled place in a source. -/
structure Snippet where
  kind : Snippet.Kind
  label : String
  span : Span
deriving DecidableEq, Repr

/-- An error about one source. -/
structure Diagnostic where
  message : Option String := none
  /-- The marked places, in the order in which they were added. -/
  snippets : List Snippet := []
deriving DecidableEq, Repr, Inhabited

end ViewLang

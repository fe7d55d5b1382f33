import ViewLang.Text.Quoted
import ViewLang.Token

/-!
# Token listings

Tokens as a table for people: one line for each token, with its line number, its kind and its text
between quotes, separated by tabs. The quoted text has no tab and no line feed of its own, so the
columns and the lines stay apart.
-/

namespace ViewLang.Token

/-- The line of a token in a listing, with its line feed. -/
def row (t : Token) : String :=
  toString t.line.toNat ++ "\t" ++ t.kind.tag ++ "\t" ++ quoteString t.text ++ "\n"

/-- The listing of tokens. -/
def listing (tokens : List Token) : String :=
  tokens.foldl (fun out t => out ++ t.row) ""

end ViewLang.Token

import ViewLang.Diagnostic
import ViewLang.Lookahead
import ViewLang.Text.Alphanumeric
import ViewLang.Text.Blank
import ViewLang.Text.Quoted
import ViewLang.Text.Utf8
import ViewLang.Token

/-!
# Reading tokens

A source is cut into tokens from left to right. At each place the longest word of one of the kinds
is taken, and blanks between words are passed over. The first character at which no token starts
ends the reading with an error.

A reserved word is a keyword only when it is a whole word. A letter or digit of any script that
touches it turns it into an identifier, be it the end of a number before it or a letter behind it
with which names do not go on.
-/

namespace ViewLang

namespace Token

/-! ### Character classes -/

/-- Whether a name may start with the character. -/
def isWordStart (c : Char) : Bool :=
  c.isAlpha || c == '_'

/-- Whether a name may go on with the character. -/
def isWordChar (c : Char) : Bool :=
  c.isAlphanum || c == '_'

/-- Whether the character belongs to a word in some script. -/
def isScriptChar (c : Char) : Bool :=
  isAlphanumeric c || c == '_'

/-- Whether the character is a symbol. -/
def isSymbol (c : Char) : Bool :=
  ['(', ')', '{', '}', '[', ']', '.', ','].contains c

/-- Whether the character is an operator. -/
def isOperator (c : Char) : Bool :=
  ['+', '-', '*', '/', '=', '<', '>', '!', '&', '|'].contains c

/-! ### One token -/

/-- Whether what stands between two characters is a whole word: neither of them belongs to a word.
At the start and at the end of a source there is no such character. -/
def isWhole (before after : Option Char) : Bool :=
  !before.any isScriptChar && !after.any isScriptChar

/-- The kind of the word `cs` between two characters: a keyword, if it is reserved and whole. -/
def wordKind (before after : Option Char) (cs : List Char) : Kind :=
  match Keyword.ofString? (String.ofList cs) with
  | some _ => if isWhole before after then .keyword else .identifier
  | none => .identifier

/-- The token at the front of the characters, as its kind, its text and what remains. Blanks start
no token. `before` is the character directly before. -/
def first? (before : Option Char) : List Char → Option (Kind × List Char × List Char)
  | [] => none
  | c :: cs =>
    if isWordStart c then
      let (run, rest) := Lookahead.eatWhile isWordChar cs
      some (wordKind before (Lookahead.peek rest) (c :: run), c :: run, rest)
    else if c.isDigit then
      let (run, rest) := Lookahead.eatWhile Char.isDigit cs
      some (.number, c :: run, rest)
    else if c = '"' then
      let (body, rest) := Lookahead.eatWhile (· != '"') cs
      match rest with
      | quote :: rest => some (.string, c :: (body ++ [quote]), rest)
      | [] => none
    else if isSymbol c then
      some (.symbol, [c], cs)
    else if isOperator c then
      some (.operator, [c], cs)
    else
      none

/-- A token and what remains make up the characters it was taken from, and it is not empty. -/
theorem append_of_first?_eq_some {before : Option Char} {cs text rest : List Char} {kind : Kind}
    (h : first? before cs = some (kind, text, rest)) : text ++ rest = cs ∧ text ≠ [] := by
  cases cs with
  | nil => simp [first?] at h
  | cons c cs =>
    simp only [first?] at h
    split at h
    · obtain ⟨-, rfl, rfl⟩ := by simpa using h
      simp
    split at h
    · obtain ⟨-, rfl, rfl⟩ := by simpa using h
      simp
    split at h
    · split at h
      · next quote rest' hrest =>
        obtain ⟨-, rfl, rfl⟩ := by simpa using h
        have := Lookahead.eatWhile_append (· != '"') cs
        rw [hrest] at this
        exact ⟨by rw [List.cons_append, List.append_assoc, List.singleton_append, this], by simp⟩
      · simp at h
    split at h
    · obtain ⟨-, rfl, rfl⟩ := by simpa using h
      simp
    split at h
    · obtain ⟨-, rfl, rfl⟩ := by simpa using h
      simp
    · simp at h

theorem length_lt_of_first?_eq_some {before : Option Char} {cs text rest : List Char} {kind : Kind}
    (h : first? before cs = some (kind, text, rest)) : rest.length < cs.length := by
  obtain ⟨rfl, hne⟩ := append_of_first?_eq_some h
  have := List.length_pos_iff.2 hne
  simp only [List.length_append]
  omega

end Token

/-! ### The whole source -/

/-- No token starts at `character`. A quote is such a character when the string it opens is never
closed. -/
structure LexError where
  character : Char
  /-- The line of the character, counted from one. -/
  line : UInt32
  span : Span
deriving DecidableEq, Repr

namespace LexError

/-- What went wrong, without the place. -/
def summary (e : LexError) : String :=
  "unexpected character " ++ quoteChar e.character

/-- The error in one line. -/
def message (e : LexError) : String :=
  e.summary ++ " at line " ++ toString e.line.toNat

/-- The error as a diagnostic, which marks the character. -/
def diagnostic (e : LexError) : Diagnostic where
  message := e.summary
  snippets := [⟨.primary, "no token starts here", e.span⟩]

end LexError

/-- How far the reading of a source has come. -/
structure Place where
  /-- The character directly before the place. -/
  before : Option Char := none
  /-- The number of bytes before the place. -/
  offset : Nat := 0
  /-- The line of the place, counted from one. -/
  line : UInt32 := 1
deriving DecidableEq, Repr

namespace Place

/-- The place after the characters `eaten`. -/
def after (p : Place) (eaten : List Char) : Place where
  before := eaten.getLast?.or p.before
  offset := p.offset + byteLength eaten
  line := p.line + UInt32.ofNat (eaten.count '\n')

/-- The token with the characters `text` that starts at the place. -/
def token (p : Place) (kind : Token.Kind) (text : List Char) : Token where
  kind := kind
  text := String.ofList text
  line := p.line
  span := ⟨p.offset, p.offset + byteLength text⟩

/-- The error that no token starts at the place, where `c` stands. -/
def lexError (p : Place) (c : Char) : LexError where
  character := c
  line := p.line
  span := ⟨p.offset, p.offset + c.utf8Size⟩

end Place

/-- Reads the tokens of the characters that follow a place. `done` holds the tokens before it,
newest first. -/
def tokensFrom (p : Place) (done : List Token) : List Char → Except LexError (List Token)
  | [] => .ok done.reverse
  | c :: cs =>
    if isBlank c then
      let blanks := Lookahead.eatWhile isBlank cs
      tokensFrom (p.after (c :: blanks.1)) done blanks.2
    else
      match _h : Token.first? p.before (c :: cs) with
      | none => .error (p.lexError c)
      | some (kind, text, rest) => tokensFrom (p.after text) (p.token kind text :: done) rest
termination_by cs => cs.length
decreasing_by
  · exact Nat.lt_succ_of_le (Lookahead.length_snd_eatWhile_le isBlank cs)
  · exact Token.length_lt_of_first?_eq_some _h

/-- The tokens of a source, or the first place at which none starts. -/
def tokenize (source : String) : Except LexError (List Token) :=
  tokensFrom {} [] source.toList

end ViewLang

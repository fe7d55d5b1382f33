import ViewLang.Diagnostic
import ViewLang.Node
import ViewLang.Text.Decimal
import ViewLang.Token

/-!
# Reading programs

A program is a sequence of statements:

* a view: the word View and a block;
* an assignment: the word let, a name, an equals sign, and a string or a number;
* a function: the word func, a name, an empty parameter list, and a block;
* a component: the word component, a name, an empty parameter list that may be left out, and a
  block;
* a text or a button: its word, and a string in parentheses;
* a call: a name and an empty argument list.

A block is a sequence of statements in braces. Blocks nest as deep as the program likes, so the
blocks that are still open are kept in a list. Reading goes from left to right and stops at the
first token that no program could continue with.
-/

namespace ViewLang

/-! ### What went wrong -/

/-- What a program could have continued with. -/
inductive Expected where
  | statement
  /-- The token with that text. -/
  | word (text : String)
  /-- A token of that kind. -/
  | kind (kind : Token.Kind)
  | literal
  /-- A number that a literal can hold. -/
  | int64
deriving DecidableEq, Repr

/-- The expectation in prose. -/
def Expected.describe : Expected → String
  | statement => "a statement"
  | word text => "`" ++ text ++ "`"
  | kind k => k.name
  | literal => "a string or number literal"
  | int64 => "a number that fits in 64 bits"

/-- Why a list of tokens is no program, and where. -/
structure ParseError where
  expected : Expected
  /-- The text of the token that does not fit, or `none` at the end of the input. -/
  found : Option String
  line : UInt32
  span : Span
  /-- The brace that opened the innermost open block, if the input ended where a statement or the
  closing brace could have followed. -/
  openedAt : Option Span
deriving DecidableEq, Repr

namespace ParseError

/-- The token that does not fit, in prose. -/
def foundText (e : ParseError) : String :=
  match e.found with
  | some text => "`" ++ text ++ "`"
  | none => "end of input"

/-- What went wrong, without the place. -/
def summary (e : ParseError) : String :=
  "expected " ++ e.expected.describe ++ ", found " ++ e.foundText

/-- The error in one line. -/
def message (e : ParseError) : String :=
  e.summary ++ " at line " ++ toString e.line.toNat

/-- The error as a diagnostic, which marks the place and the block left open. -/
def diagnostic (e : ParseError) : Diagnostic where
  message := e.summary
  snippets :=
    ⟨.primary, "expected " ++ e.expected.describe ++ " here", e.span⟩ ::
      e.openedAt.toList.map fun brace => ⟨.secondary, "block opened here", brace⟩

end ParseError

namespace Node

/-! ### Reading single tokens -/

/-- A token that does not fit, or `none` for the end of the input, before its place is looked up. -/
structure Mismatch where
  expected : Expected
  found : Option Token
  openedAt : Option Span := none
deriving DecidableEq, Repr

/-- Something that is read from the front of a list of tokens. -/
abbrev Reader (α : Type) : Type := StateT (List Token) (Except Mismatch) α

namespace Reader

/-- Reads one token that satisfies `p`. -/
def token (expected : Expected) (p : Token → Bool) : Reader Token
  | [] => .error { expected, found := none }
  | t :: rest => if p t then .ok (t, rest) else .error { expected, found := some t }

/-- Reads the token with the given kind and text. -/
def word (kind : Token.Kind) (text : String) : Reader Token :=
  token (.word text) (·.is kind text)

/-- Reads a token of the given kind. -/
def ofKind (kind : Token.Kind) : Reader Token :=
  token (.kind kind) (·.kind == kind)

/-- Reads a name. -/
def name : Reader String := do
  return (← ofKind .identifier).text

/-- Reads an empty list of parameters or arguments. -/
def noParameters : Reader Unit := do
  let _ ← word .symbol "("
  let _ ← word .symbol ")"

/-- Reads an empty list of parameters, or nothing where none begins. -/
def optionalParameters : Reader Unit := do
  if (← get).head?.any (·.is .symbol "(") then noParameters

/-- The contents of a string token: its text without a quote at either end, or the whole text if it
does not have both. -/
def stringValue (t : Token) : String :=
  match t.text.toList with
  | '"' :: cs => if cs.getLast? = some '"' then String.ofList cs.dropLast else t.text
  | _ => t.text

/-- Reads a string in parentheses. -/
def argument : Reader String := do
  let _ ← word .symbol "("
  let t ← ofKind .string
  let _ ← word .symbol ")"
  return stringValue t

/-- Reads a literal. A number has to fit in 64 bits. -/
def literal : Reader Literal
  | [] => .error { expected := .literal, found := none }
  | t :: rest =>
    match t.kind with
    | .string => .ok (.string (stringValue t), rest)
    | .number =>
      match readInt64? t.text.toList with
      | some n => .ok (.number n, rest)
      | none => .error { expected := .int64, found := some t }
    | _ => .error { expected := .literal, found := some t }

end Reader

/-! ### Reading statements -/

/-- What stands before a block. -/
inductive Header where
  | view
  | function (name : String)
  | component (name : String)
deriving DecidableEq, Repr

/-- The statement that consists of a header and a block. -/
def Header.node : Header → List Node → Node
  | view, block => .view block
  | function name, block => .function name block
  | component name, block => .component name block

/-- The part of a program that is read in one go. -/
inductive Item where
  /-- A statement without a block. -/
  | leaf (node : Node)
  /-- A header and the brace after it, which opens a block. -/
  | opening (header : Header) (brace : Span)
deriving Repr

/-- Reads the brace that opens a block. -/
def Reader.opening (header : Header) : Reader Item := do
  return .opening header (← word .symbol "\x7b").span

/-- Reads the rest of an item that begins with the token `first`. -/
def Reader.item (first : Token) : Reader Item :=
  match first.keyword? with
  | some .view => opening .view
  | some .letWord => do
    let name ← name
    let _ ← word .operator "="
    let value ← literal
    return .leaf (.assignment name value)
  | some .func => do
    let name ← name
    noParameters
    opening (.function name)
  | some .component => do
    let name ← name
    optionalParameters
    opening (.component name)
  | some .text => return .leaf (.text (← argument))
  | some .button => return .leaf (.button (← argument))
  | some _ => throw { expected := .statement, found := some first }
  | none =>
    if first.kind = .identifier then do
      noParameters
      return .leaf (.call first.text)
    else
      throw { expected := .statement, found := some first }

/-! ### No reader gives tokens back -/

namespace Reader

variable {α β : Type}

/-- A reader that leaves no more tokens than it was given. -/
def Shrinking (r : Reader α) : Prop :=
  ∀ ts a rest, r ts = .ok (a, rest) → rest.length ≤ ts.length

private theorem Shrinking.pure (a : α) : Shrinking (pure a) := by
  intro ts b rest h
  cases h
  exact Nat.le_refl _

private theorem Shrinking.throw (e : Mismatch) : Shrinking (throw e : Reader α) := by
  intro ts b rest h
  cases h

private theorem Shrinking.bind {r : Reader α} {f : α → Reader β} (hr : r.Shrinking)
    (hf : ∀ a, (f a).Shrinking) : Shrinking (r >>= f) := by
  intro ts b rest h
  change (r ts).bind (fun p => f p.1 p.2) = _ at h
  cases hts : r ts with
  | error e => rw [hts] at h; cases h
  | ok p =>
    rw [hts] at h
    exact Nat.le_trans (hf _ _ _ _ h) (hr _ _ _ hts)

private theorem Shrinking.token (expected : Expected) (p : Token → Bool) :
    Shrinking (token expected p) := by
  intro ts a rest h
  cases ts with
  | nil => cases h
  | cons t ts =>
    simp only [Reader.token] at h
    split at h
    · cases h; simp
    · cases h

private theorem Shrinking.name : Shrinking name :=
  .bind (.token _ _) fun _ => .pure _

private theorem Shrinking.noParameters : Shrinking noParameters :=
  .bind (.token _ _) fun _ => .bind (.token _ _) fun _ => .pure _

private theorem Shrinking.optionalParameters : Shrinking optionalParameters := by
  refine .bind (fun ts a rest h => ?_) fun ts => ?_
  · cases h; simp
  · split
    · exact .noParameters
    · exact .pure _

private theorem Shrinking.argument : Shrinking argument :=
  .bind (.token _ _) fun _ => .bind (.token _ _) fun _ => .bind (.token _ _) fun _ => .pure _

private theorem Shrinking.literal : Shrinking literal := by
  intro ts a rest h
  cases ts with
  | nil => cases h
  | cons t ts =>
    simp only [Reader.literal] at h
    split at h
    · cases h; simp
    · split at h
      · cases h; simp
      · cases h
    · cases h

private theorem Shrinking.opening (header : Header) : Shrinking (opening header) :=
  .bind (.token _ _) fun _ => .pure _

theorem Shrinking.item (first : Token) : Shrinking (item first) := by
  unfold Reader.item
  split
  · exact .opening _
  · exact .bind .name fun _ => .bind (.token _ _) fun _ => .bind .literal fun _ => .pure _
  · exact .bind .name fun _ => .bind .noParameters fun _ => .opening _
  · exact .bind .name fun _ => .bind .optionalParameters fun _ => .opening _
  · exact .bind .argument fun _ => .pure _
  · exact .bind .argument fun _ => .pure _
  · exact .throw _
  · split
    · exact .bind .noParameters fun _ => .pure _
    · exact .throw _

end Reader

/-! ### Reading whole programs -/

/-- A block that has been opened and not yet closed. -/
structure OpenBlock where
  header : Header
  /-- The brace that opened it. -/
  brace : Span
  /-- The statements before its header in the block around it, newest first. -/
  before : List Node
deriving Repr

/-- Reads statements to the end of the input. `blocks` are the open blocks, innermost first, and
`done` the statements read in the innermost one, newest first. -/
def statements (blocks : List OpenBlock) (done : List Node) :
    List Token → Except Mismatch (List Node)
  | [] =>
    match blocks with
    | [] => .ok done.reverse
    | block :: _ =>
      .error { expected := .word "\x7d", found := none, openedAt := some block.brace }
  | t :: ts =>
    match blocks, t.is .symbol "\x7d" with
    | block :: outer, true => statements outer (block.header.node done.reverse :: block.before) ts
    | _, _ =>
      match _h : Reader.item t ts with
      | .error e => .error e
      | .ok (.leaf node, rest) => statements blocks (node :: done) rest
      | .ok (.opening header brace, rest) => statements (⟨header, brace, done⟩ :: blocks) [] rest
termination_by ts => ts.length
decreasing_by
  · simp
  · exact Nat.lt_succ_of_le (Reader.Shrinking.item t ts _ _ _h)
  · exact Nat.lt_succ_of_le (Reader.Shrinking.item t ts _ _ _h)

end Node

/-- The place where a list of tokens ends: the line on which its last token ends, and the empty span
behind that token. -/
def Token.inputEnd (ts : List Token) : UInt32 × Span :=
  match ts.getLast? with
  | none => (1, .empty 0)
  | some t => (t.line + UInt32.ofNat (t.text.toList.count '\n'), .empty t.span.stop)

/-- The error of a mismatch among the tokens `ts`. -/
def Node.Mismatch.error (e : Mismatch) (ts : List Token) : ParseError :=
  let place := match e.found with
    | some t => (t.line, t.span)
    | none => Token.inputEnd ts
  { expected := e.expected
    found := e.found.map Token.text
    line := place.1
    span := place.2
    openedAt := e.openedAt }

/-- The program that the tokens make up, or the first thing wrong with them. -/
def parse (ts : List Token) : Except ParseError (List Node) :=
  match Node.statements [] [] ts with
  | .ok nodes => .ok nodes
  | .error e => .error (e.error ts)

end ViewLang

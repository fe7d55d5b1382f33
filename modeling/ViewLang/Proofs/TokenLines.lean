import ViewLang.Proofs.Commands
import ViewLang.Proofs.JsonText
import ViewLang.Proofs.TextLines

/-!
# Token listings lose nothing

A listing has one line for each token, and the line tells what the token is: its line number, its
kind and its text can be read from it again (`Token.Entry.read?`). What could be in the way is the
text. A string may hold line feeds, tabs, backslashes, and what looks like an escape but is none.

* **Texts.** A quoted text is read from the left, one character at a time (`Quoted.unescape?`): an
  escape tells which character it stands for, and where it ends. The reader need not know which
  characters are escaped by their code points, so what is said here holds for any set of them
  (`Quoted.formIn`).
* **Columns and lines.** Line feeds and tabs have escapes of their own, so a quoted text has none.
  The tabs of a line are then those between its columns, and the line feeds of a listing those at
  the ends of its lines.

Only the spans of the tokens are not listed, and two listings are the same exactly when the tokens
are the same up to their spans (`Token.listing_eq_iff`).
-/

namespace ViewLang

/-- What separates the columns and the lines of a listing. -/
def Token.IsSeparator (c : Char) : Prop :=
  c = '\t' ∨ c = '\n'

/-! ### Quoted texts -/

namespace Quoted

open Token (IsSeparator)

/-! #### Hexadecimal digits -/

section Digits

/-- The number that hexadecimal digits stand for. -/
def ofHex (digits : List Char) : ℕ :=
  digits.foldl (fun n c => 16 * n + Json.hexValue c) 0

theorem ofHex_concat (digits : List Char) (c : Char) :
    ofHex (digits ++ [c]) = 16 * ofHex digits + Json.hexValue c := by
  simp [ofHex]

theorem ofHex_toDigits (n : ℕ) : ofHex (Nat.toDigits 16 n) = n := by
  induction n using Nat.strong_induction_on with
  | _ n ih =>
    by_cases h : n < 16
    · rw [Nat.toDigits_of_lt_base h]
      simp [ofHex, Json.hexValue_digitChar h]
    · rw [Nat.toDigits_of_base_le (by decide) (by omega), ofHex_concat, ih (n / 16) (by omega),
        Json.hexValue_digitChar (Nat.mod_lt n (by decide)), Nat.div_add_mod]

theorem exists_digitChar_of_mem_toDigits {n : ℕ} {c : Char} (h : c ∈ Nat.toDigits 16 n) :
    ∃ d < 16, c = Nat.digitChar d := by
  induction n using Nat.strong_induction_on with
  | _ n ih =>
    by_cases hn : n < 16
    · rw [Nat.toDigits_of_lt_base hn, List.mem_singleton] at h
      exact ⟨n, hn, h⟩
    · rw [Nat.toDigits_of_base_le (by decide) (by omega), List.mem_append,
        List.mem_singleton] at h
      rcases h with h | h
      · exact ih (n / 16) (by omega) h
      · exact ⟨n % 16, Nat.mod_lt n (by decide), h⟩

/-- No hexadecimal digit is a closing brace or a separator. -/
theorem ne_of_mem_toDigits {n : ℕ} {c : Char} (h : c ∈ Nat.toDigits 16 n) :
    c ≠ '\x7d' ∧ ¬IsSeparator c := by
  obtain ⟨d, hd, rfl⟩ := exists_digitChar_of_mem_toDigits h
  clear h
  rw [IsSeparator]
  revert d
  decide

end Digits

/-! #### Characters -/

section Characters

variable (hidden : Char → Bool)

/-- The form of a character between double quotes, where the hidden characters are escaped by their
code points. -/
def formIn (c : Char) : List Char :=
  if c = '\x00' then ['\\', '0']
  else if c = '\t' then ['\\', 't']
  else if c = '\r' then ['\\', 'r']
  else if c = '\n' then ['\\', 'n']
  else if c = '\\' ∨ c = '"' then ['\\', c]
  else if hidden c then codePoint c
  else [c]

theorem escape_eq_formIn : escape '"' = formIn isHidden := rfl

/-- The character whose escape goes on like this behind the backslash, and what follows the escape.
-/
def escaped? : List Char → Option (Char × List Char)
  | 'u' :: '\x7b' :: rest =>
    some (Char.ofNat (ofHex (Lookahead.eatWhile (· != '\x7d') rest).1),
      (Lookahead.eatWhile (· != '\x7d') rest).2.tail)
  | '0' :: rest => some ('\x00', rest)
  | 't' :: rest => some ('\t', rest)
  | 'r' :: rest => some ('\r', rest)
  | 'n' :: rest => some ('\n', rest)
  | c :: rest => some (c, rest)
  | [] => none

/-- The first character of a text, and what follows its form. -/
def unescape? : List Char → Option (Char × List Char)
  | [] => none
  | c :: rest => if c = '\\' then escaped? rest else some (c, rest)

theorem unescape?_codePoint_append (c : Char) (rest : List Char) :
    unescape? (codePoint c ++ rest) = some (c, rest) := by
  have hdigits : Lookahead.eatWhile (· != '\x7d') (Nat.toDigits 16 c.toNat ++ '\x7d' :: rest) =
      (Nat.toDigits 16 c.toNat, '\x7d' :: rest) :=
    Lookahead.eatWhile_append_of_stops
      (fun d hd => bne_iff_ne.mpr (ne_of_mem_toDigits hd).1) (Lookahead.stops_cons.mpr (by decide))
  simp only [codePoint, List.cons_append, List.nil_append, List.append_assoc, unescape?, escaped?,
    if_true, hdigits, ofHex_toDigits, Char.ofNat_toNat, List.tail_cons]

/-- **The form of a character tells which character it is and where it ends**, whatever follows it
and whichever characters are hidden. -/
theorem unescape?_append (c : Char) (rest : List Char) :
    unescape? (formIn hidden c ++ rest) = some (c, rest) := by
  fun_cases formIn hidden c with
  | case1 hc | case2 _ hc | case3 _ _ hc | case4 _ _ _ hc =>
    subst hc
    rfl
  | case5 _ _ _ _ hc => rcases hc with rfl | rfl <;> rfl
  | case6 => exact unescape?_codePoint_append c rest
  | case7 _ _ _ _ hc =>
    rw [List.singleton_append, unescape?, if_neg fun hslash => hc (.inl hslash)]

theorem notMem_codePoint {c d : Char} (h : IsSeparator d) : d ∉ codePoint c := by
  have hdigits : d ∉ Nat.toDigits 16 c.toNat := fun hmem => (ne_of_mem_toDigits hmem).2 h
  rcases h with rfl | rfl <;> simpa [codePoint] using hdigits

/-- A form has no separator. -/
theorem notMem_formIn {c d : Char} (h : IsSeparator d) : d ∉ formIn hidden c := by
  fun_cases formIn hidden c with
  | case1 | case2 | case3 | case4 => rcases h with rfl | rfl <;> decide
  | case5 _ _ _ _ hc => rcases h with rfl | rfl <;> rcases hc with rfl | rfl <;> decide
  | case6 => exact notMem_codePoint h
  | case7 _ htab _ hfeed =>
    rw [List.mem_singleton]
    rintro rfl
    exact h.elim htab hfeed

theorem length_lt_of_escaped? {cs rest : List Char} {c : Char} (h : escaped? cs = some (c, rest)) :
    rest.length < cs.length := by
  fun_cases escaped? cs with
  | case1 tail =>
    obtain ⟨-, rfl⟩ := Prod.mk.inj (Option.some.inj h)
    have hle := Lookahead.length_snd_eatWhile_le (· != '\x7d') tail
    simp only [List.length_tail, List.length_cons]
    omega
  | case7 => cases h
  | _ =>
    obtain ⟨-, rfl⟩ : _ ∧ _ = rest := by simpa [escaped?] using h
    exact Nat.lt_succ_self _

theorem length_lt_of_unescape? {cs rest : List Char} {c : Char}
    (h : unescape? cs = some (c, rest)) : rest.length < cs.length := by
  cases cs with
  | nil => cases h
  | cons d ds =>
    rw [unescape?] at h
    split at h
    · exact (length_lt_of_escaped? h).trans (Nat.lt_succ_self _)
    · obtain ⟨-, rfl⟩ := Prod.mk.inj (Option.some.inj h)
      exact Nat.lt_succ_self _

end Characters

/-! #### Texts -/

section Texts

variable (hidden : Char → Bool)

/-- The characters whose forms follow each other. -/
def unescape (cs : List Char) : List Char :=
  match h : unescape? cs with
  | none => []
  | some (c, rest) =>
    have := length_lt_of_unescape? h
    c :: unescape rest
termination_by cs.length

theorem unescape_eq_cons {cs rest : List Char} {c : Char} (h : unescape? cs = some (c, rest)) :
    unescape cs = c :: unescape rest := by
  rw [unescape]
  split
  · next hnone =>
    rw [h] at hnone
    cases hnone
  · next hsome =>
    rw [h] at hsome
    obtain ⟨rfl, rfl⟩ := Prod.mk.inj (Option.some.inj hsome)
    rfl

theorem unescape_flatMap_formIn (text : List Char) :
    unescape (text.flatMap (formIn hidden)) = text := by
  induction text with
  | nil => rw [List.flatMap_nil, unescape]; rfl
  | cons c text ih => rw [List.flatMap_cons, unescape_eq_cons (unescape?_append hidden c _), ih]

/-- The form of a text between double quotes, where the hidden characters are escaped by their code
points. -/
def quoteIn (text : String) : List Char :=
  '"' :: (text.toList.flatMap (formIn hidden) ++ ['"'])

theorem toList_quoteString (text : String) :
    (quoteString text).toList = quoteIn isHidden text := by
  rw [quoteString, String.toList_ofList, escape_eq_formIn, quoteIn]

/-- The text whose form this is. -/
def unquote (form : List Char) : String :=
  String.ofList (unescape form.tail.dropLast)

/-- **A text can be read from its form**, whichever characters are hidden. -/
theorem unquote_quoteIn (text : String) : unquote (quoteIn hidden text) = text := by
  rw [unquote, quoteIn, List.tail_cons, List.dropLast_concat, unescape_flatMap_formIn,
    String.ofList_toList]

theorem notMem_quoteIn {d : Char} (h : IsSeparator d) (text : String) :
    d ∉ quoteIn hidden text := by
  have hquote : d ≠ '"' := by rcases h with rfl | rfl <;> decide
  simp only [quoteIn, List.mem_cons, List.mem_append, List.mem_flatMap, List.not_mem_nil, or_false,
    hquote, false_or, not_exists, not_and]
  exact fun c _ => notMem_formIn hidden h

end Texts

end Quoted

namespace Token

/-! ### Lines -/

section Lines

/-- The kind that a listing names so. -/
def Kind.ofTag? (tag : String) : Option Kind :=
  [keyword, identifier, number, string, symbol, operator, newline].find? (·.tag == tag)

theorem Kind.ofTag?_tag (kind : Kind) : ofTag? kind.tag = some kind := by
  cases kind <;> rfl

/-- The name of a kind has no separator. -/
theorem Kind.notMem_tag (kind : Kind) {d : Char} (h : IsSeparator d) :
    d ∉ kind.tag.toList := by
  rcases h with rfl | rfl <;> cases kind <;> decide

/-- What a listing tells of a token: all but its span. -/
structure Entry where
  line : UInt32
  kind : Kind
  text : String
deriving DecidableEq, Repr

/-- What the listing tells of the token. -/
def entry (t : Token) : Entry :=
  ⟨t.line, t.kind, t.text⟩

namespace Entry

/-- The columns of an entry. -/
def columns (e : Entry) : List (List Char) :=
  [e.line.toNat.repr.toList, e.kind.tag.toList, Quoted.quoteIn Quoted.isHidden e.text]

/-- The line of an entry, without a line feed. -/
def chars (e : Entry) : List Char :=
  ['\t'].intercalate e.columns

/-- The entry that has these columns, if there is one. -/
def ofColumns? : List (List Char) → Option Entry
  | [number, tag, form] => do
    let line ← (String.ofList number).toNat?
    let kind ← Kind.ofTag? (String.ofList tag)
    return ⟨UInt32.ofNat line, kind, Quoted.unquote form⟩
  | _ => none

/-- The entry of a line without its line feed, if there is one. -/
def read? (line : List Char) : Option Entry :=
  ofColumns? (line.splitOn '\t')

variable (e : Entry)

/-- No column has a separator. -/
theorem notMem_of_mem_columns {d : Char} {column : List Char} (h : IsSeparator d)
    (hcolumn : column ∈ e.columns) : d ∉ column := by
  simp only [columns, List.mem_cons, List.not_mem_nil, or_false] at hcolumn
  rcases hcolumn with rfl | rfl | rfl
  · have hdigit : d.isDigit = false := by rcases h with rfl | rfl <;> rfl
    rw [Nat.toList_repr]
    intro hmem
    have hmem := Nat.isDigit_of_mem_toDigits (by decide) (by decide) hmem
    rw [hdigit] at hmem
    cases hmem
  · exact e.kind.notMem_tag h
  · exact Quoted.notMem_quoteIn Quoted.isHidden h e.text

theorem splitOn_chars : e.chars.splitOn '\t' = e.columns :=
  List.splitOn_intercalate '\t' (fun _ => e.notMem_of_mem_columns (.inl rfl)) (List.cons_ne_nil _ _)

theorem lineFeed_notMem_chars : '\n' ∉ e.chars := by
  have hcolumns : ∀ column ∈ e.columns, '\n' ∉ column :=
    fun _ => e.notMem_of_mem_columns (.inr rfl)
  simp only [columns, List.forall_mem_cons] at hcolumns
  obtain ⟨hnumber, htag, hform, -⟩ := hcolumns
  simp only [chars, columns, List.intercalate_cons_cons, List.intercalate_singleton,
    List.mem_append, List.mem_singleton, hnumber, htag, hform]
  decide

theorem ofColumns?_columns : ofColumns? e.columns = some e := by
  simp only [columns, ofColumns?, String.ofList_toList, Nat.toNat?_repr, Kind.ofTag?_tag,
    Quoted.unquote_quoteIn, UInt32.ofNat_toNat, Option.bind_eq_bind, Option.bind_some,
    Option.pure_def]

/-- **The line of an entry tells which entry it is.** -/
theorem read?_chars : read? e.chars = some e := by
  rw [read?, splitOn_chars, ofColumns?_columns]

end Entry

theorem toList_row (t : Token) : t.row.toList = t.entry.chars ++ ['\n'] := by
  simp [row, Entry.chars, Entry.columns, entry, Quoted.toList_quoteString]

end Lines

/-! ### Listings -/

section Listings

variable {ts us : List Token}

theorem toList_listing (ts : List Token) :
    (listing ts).toList = ((ts.map entry).map Entry.chars).flatMap (· ++ ['\n']) := by
  rw [listing_eq_join, String.toList_join, List.flatMap_map, List.map_map, List.flatMap_map]
  simp only [toList_row, Function.comp_apply]

/-- A listing has one line for each token, and behind the last line feed an empty one. -/
theorem linesOf_listing (ts : List Token) :
    linesOf (listing ts) = (ts.map entry).map Entry.chars ++ [[]] := by
  have hlines : ∀ line ∈ (ts.map entry).map Entry.chars, '\n' ∉ line :=
    List.forall_mem_map.mpr fun e _ => e.lineFeed_notMem_chars
  rw [linesOf, toList_listing, splitOn_flatMap_lineFeed hlines]

theorem lineFeedCount_listing (ts : List Token) : lineFeedCount (listing ts) = ts.length := by
  have hlength : (linesOf (listing ts)).length = lineFeedCount (listing ts) + 1 := length_linesOf
  rw [linesOf_listing] at hlength
  simpa using hlength.symm

/-- **The tokens can be read from their listing**, line by line. -/
theorem map_read?_linesOf_listing (ts : List Token) :
    (linesOf (listing ts)).map Entry.read? = (ts.map entry).map some ++ [none] := by
  have hread : Entry.read? ∘ Entry.chars = some := funext Entry.read?_chars
  rw [linesOf_listing, List.map_append, List.map_map, hread]
  rfl

/-- Two listings are the same exactly when the tokens are the same up to their spans. -/
theorem listing_eq_iff : listing ts = listing us ↔ ts.map entry = us.map entry := by
  constructor
  · intro h
    have hread := congrArg (fun text => (linesOf text).map Entry.read?) h
    simp only [map_read?_linesOf_listing, List.append_cancel_right_eq] at hread
    exact List.map_injective_iff.mpr (Option.some_injective Entry) hread
  · intro h
    rw [← String.toList_inj, toList_listing, toList_listing, h]

end Listings

end Token

/-! ### What the command prints -/

namespace Session

/-- **A token listing has one readable line for each token.** Let the output be a writer that never
fails, whatever it has accepted before, and let the source consist of tokens. Then the command that
lists them prints as many line feeds as there are tokens, and each of the lines that they end tells
the line number, the kind and the text of its token. So two sources leave the same bytes exactly
when their tokens have the same line numbers, kinds and texts. -/
theorem execute_tokens_readable {s : Session} {ts : List Token}
    (hts : tokenize s.source.text = .ok ts) (written : ByteArray) (input : Input) :
    let output : Writer := { written }
    s.execute output (.tokens input) = s.printed output (Token.listing ts) ∧
      lineFeedCount (Token.listing ts) = ts.length ∧
      (linesOf (Token.listing ts)).map Token.Entry.read? =
        (ts.map Token.entry).map some ++ [none] ∧
      ∀ {other : Session} {us : List Token} (path : Input),
        tokenize other.source.text = .ok us →
          ((s.execute output (.tokens input)).output.written =
              (other.execute output (.tokens path)).output.written ↔
            ts.map Token.entry = us.map Token.entry) := by
  intro output
  refine ⟨execute_tokens_of_ok input rfl hts, Token.lineFeedCount_listing ts,
    Token.map_read?_linesOf_listing ts, fun {other us} path hus => ?_⟩
  rw [execute_tokens_of_ok input rfl hts, execute_tokens_of_ok path rfl hus]
  calc written ++ (Token.listing ts).toUTF8 = written ++ (Token.listing us).toUTF8
    _ ↔ Token.listing ts = Token.listing us :=
      (ByteArray.append_right_inj written).trans String.toByteArray_inj
    _ ↔ ts.map Token.entry = us.map Token.entry := Token.listing_eq_iff

/-- A string of a tab and a line feed and one of what looks like their escapes take up a line each,
and the lines differ. -/
theorem execute_tokens_readable_of_lookalikes :
    let raw : Input := ⟨"\"\t\n\"", true⟩
    let lookalike : Input := ⟨"\"\\t\\n\"", true⟩
    let session (input : Input) : Session := { source := .ofText "" input.text }
    (∃ listing, (session raw).execute {} (.tokens raw) = (session raw).printed {} listing ∧
        lineFeedCount listing = 1) ∧
      ((session raw).execute {} (.tokens raw)).output.written ≠
        ((session lookalike).execute {} (.tokens lookalike)).output.written := by
  intro raw lookalike session
  have hts : tokenize (session raw).source.text =
      .ok [⟨.string, "\"\t\n\"", 1, ⟨0, 4⟩⟩] := by cbv
  have hus : tokenize (session lookalike).source.text =
      .ok [⟨.string, "\"\\t\\n\"", 1, ⟨0, 6⟩⟩] := by cbv
  obtain ⟨hprinted, hcount, -, hsame⟩ := execute_tokens_readable hts .empty raw
  exact ⟨⟨_, hprinted, hcount⟩, fun h => absurd ((hsame lookalike hus).mp h) (by decide)⟩

end Session

end ViewLang

import ViewLang.Text.Width.Classes
import ViewLang.Text.Width.Emoji

/-!
# Display width

How many columns a text takes on a terminal. Most of it is a property of single characters, but some
characters are drawn together with those after them: a letter and its ligature, a pictograph and its
selector, skin tone or partner, two letters that spell a flag. So a text is measured from its end,
and each character is measured knowing what stands to the right of it.
-/

namespace ViewLang

namespace Width

/-! ### What stands to the right -/

/-- What stands directly to the right, as far as the width of a character can depend on it. -/
inductive Shape where
  | other
  /-- A skin tone. -/
  | skinTone
  /-- One flag letter, or several. -/
  | flagLetter
  | flagLetters
  /-- A pictograph drawn in colour, and the same after a joiner. -/
  | emoji
  | joinedEmoji
  /-- An enclosing keycap before a joined pictograph. -/
  | joinedKeycap
  /-- Flag letters before a joined pictograph: one, an even number, an odd number. -/
  | joinedFlagLetter
  | joinedFlagLettersEven
  | joinedFlagLettersOdd
  /-- The end of a tag sequence before a joined pictograph, after `letters` tag letters. -/
  | tagLetters (letters : Nat)
  /-- The same, after `digits` tag digits before those letters. -/
  | tagDigits (digits : Nat)
  | arabicAlef
  | hebrewLamed
  | bugineseYa
  /-- The Buginese vowel sign i, joined to ya. -/
  | bugineseI
  | tifinagh
  /-- The Tifinagh consonant joiner before a consonant. -/
  | tifinaghJoiner
  | lisuTone
  | orkhonI
  | khmerLetter
deriving DecidableEq, Repr

/-- A selector of the form in which the character before it is drawn. -/
inductive Selector where
  | text
  | emoji
deriving DecidableEq, Repr

/-- What stands to the right of a character. -/
structure Right where
  shape : Shape := .other
  /-- Whether a joiner stands before a letter that can form a ligature. -/
  joined : Bool := false
  selector : Option Selector := none
deriving DecidableEq, Repr

/-- Whether selectors and joiners before the shape leave it in place: it is a letter that can form a
ligature. -/
def Shape.isLetter : Shape → Bool
  | arabicAlef | hebrewLamed | bugineseYa | bugineseI | tifinagh | tifinaghJoiner | lisuTone
  | orkhonI | khmerLetter => true
  | _ => false

/-- A selector for colour keeps letters and joined pictographs behind it in view. -/
def Right.selectEmoji (r : Right) : Right :=
  if r.shape.isLetter || r.shape == .joinedEmoji || r.shape == .joinedKeycap then
    { r with selector := some .emoji }
  else
    { selector := some .emoji }

/-- A selector for text keeps letters behind it in view. -/
def Right.selectText (r : Right) : Right :=
  if r.shape.isLetter then { r with selector := some .text } else { selector := some .text }

/-- A selector that does not apply to the character before it is passed over. -/
def Right.dropSelector (r : Right) : Right :=
  if r.shape.isLetter then { r with selector := none } else {}

/-! ### Single characters -/

/-- Whether the code point of the character lies between the bounds. -/
def within (c : Char) (lo hi : Nat) : Bool :=
  lo ≤ c.toNat && c.toNat ≤ hi

/-- The width of a character on its own. -/
def ofChar (c : Char) : Nat :=
  if CharSet.hidden.contains c then 0
  else if c.toNat == 0x17D8 then 3
  else if c.toNat == 0x17A4 || CharSet.wide.contains c then 2
  else 1

/-- Whether the character is one of the Khmer letters that can be written below another. -/
def isKhmerLetter (c : Char) : Bool :=
  within c 0x1780 0x1782 || within c 0x1784 0x1787 || within c 0x1789 0x178C ||
    within c 0x178E 0x1793 || within c 0x1795 0x1798 || within c 0x179B 0x179D ||
    within c 0x17A0 0x17A0 || within c 0x17A2 0x17A2 || within c 0x17A7 0x17A7 ||
    within c 0x17AB 0x17AC || within c 0x17AF 0x17AF

/-- Whether the character is a form of the Arabic letter alef. -/
def isAlef (c : Char) : Bool :=
  within c 0x622 0x623 || within c 0x625 0x625 || within c 0x627 0x627 || within c 0x671 0x673 ||
    within c 0x675 0x675 || within c 0x773 0x774 || within c 0x870 0x882

/-- Whether the character is a form of the Arabic letter lam. -/
def isLam (c : Char) : Bool :=
  within c 0x644 0x644 || within c 0x6B5 0x6B8 || within c 0x76A 0x76A || within c 0x8A6 0x8A6 ||
    within c 0x8C7 0x8C7

/-- Whether the character is a Tifinagh consonant. -/
def isTifinagh (c : Char) : Bool :=
  within c 0x2D31 0x2D65 || within c 0x2D6F 0x2D6F

/-- Whether the character is one of the letters that spell flags in pairs. -/
def isFlagLetter (c : Char) : Bool :=
  within c 0x1F1E6 0x1F1FF

/-- What a character is to the character before it. -/
def rightOf (c : Char) : Right :=
  if c == '\ufe0e' then { selector := some .text }
  else if c == '\ufe0f' then { selector := some .emoji }
  else if within c 0x1F3FB 0x1F3FF then { shape := .skinTone }
  else if isFlagLetter c then { shape := .flagLetter }
  else if CharSet.emojiPresentation.contains c then { shape := .emoji }
  else if isAlef c then { shape := .arabicAlef }
  else if c == '\u05dc' then { shape := .hebrewLamed }
  else if c == '\u1a10' then { shape := .bugineseYa }
  else if isTifinagh c then { shape := .tifinagh }
  else if within c 0xA4FC 0xA4FD then { shape := .lisuTone }
  else if within c 0x10C03 0x10C03 then { shape := .orkhonI }
  else if isKhmerLetter c then { shape := .khmerLetter }
  else {}

/-- Whether a pictograph can be drawn as text in one column. -/
def canBeText (c : Char) : Bool :=
  CharSet.emojiPresentation.contains c && CharSet.emojiVariationBase.contains c &&
    !within c 0x1F200 0x1F2FF

/-- Whether a character inside a ligature does not break it: a selector, or a mark that is ignored
by default. -/
def isInsideLigature (c : Char) : Bool :=
  within c 0x34F 0x34F || within c 0x17B4 0x17B5 || within c 0x180B 0x180D ||
    within c 0x180F 0x180F || within c 0xFE00 0xFE0F || within c 0xE0100 0xE01EF

/-! ### Characters in context -/

/-- What a character adds to the width, and what it is to the character before it, when it belongs
together with the shape to its right; `none` when the two are independent. The width can be
negative: then the shape has been counted already and takes no column after all. -/
def together? (c : Char) (shape : Shape) (joined : Bool) : Option (Int × Right) :=
  match shape with
  | .arabicAlef =>
    if joined then none
    else if isLam c then some (0, {})
    else if CharSet.hidden.contains c && !CharSet.separating.contains c then some (0, { shape := .arabicAlef })
    else none
  | .hebrewLamed => if joined && c == '\u05d0' then some (0, {}) else none
  | .khmerLetter => if c == '\u17d2' then some (-1, {}) else none
  | .bugineseYa => if joined && c == '\u1a17' then some (0, { shape := .bugineseI }) else none
  | .bugineseI => if c == '\u1a15' then some (0, {}) else none
  | .tifinagh =>
    if c == '\u2d7f' then some (1, { shape := .tifinaghJoiner })
    else if joined && isTifinagh c then some (0, {})
    else none
  | .tifinaghJoiner => if isTifinagh c then some (-1, {}) else none
  | .lisuTone => if within c 0xA4F8 0xA4FB then some (0, {}) else none
  | .orkhonI => if joined && within c 0x10C32 0x10C32 then some (0, {}) else none
  | .skinTone =>
    if CharSet.emojiModifierBase.contains c then some (0, { shape := .emoji })
    else if c == '\u200d' then some (0, { shape := .joinedEmoji })
    else none
  | .flagLetter => if isFlagLetter c then some (1, { shape := .flagLetters }) else none
  | .flagLetters =>
    if isFlagLetter c then some (1, { shape := .flagLetters })
    else if c == '\u200d' then some (0, { shape := .joinedEmoji })
    else none
  | .emoji => if c == '\u200d' then some (0, { shape := .joinedEmoji }) else none
  | .joinedEmoji =>
    if c == '\u20e3' then some (0, { shape := .joinedKeycap })
    else if isFlagLetter c then some (1, { shape := .joinedFlagLetter })
    else if within c 0x1F3FB 0x1F3FF then some (0, { shape := .skinTone })
    else if within c 0xE007F 0xE007F then some (0, { shape := .tagLetters 0 })
    else if CharSet.emojiPresentation.contains c then some (0, { shape := .emoji })
    else none
  | .joinedFlagLetter =>
    if isFlagLetter c then some (-1, { shape := .joinedFlagLettersEven }) else none
  | .joinedFlagLettersEven =>
    if isFlagLetter c then some (3, { shape := .joinedFlagLettersOdd })
    else if c == '\u200d' then some (0, { shape := .joinedEmoji })
    else none
  | .joinedFlagLettersOdd =>
    if isFlagLetter c then some (-1, { shape := .joinedFlagLettersEven })
    else if c == '\u200d' then some (0, { shape := .joinedEmoji })
    else none
  | .tagLetters n =>
    if within c 0xE0061 0xE007A && n < 6 then some (0, { shape := .tagLetters (n + 1) })
    else if within c 0xE0030 0xE0039 && n ≤ 4 then some (0, { shape := .tagDigits 1 })
    else if within c 0x1F3F4 0x1F3F4 && 3 ≤ n then some (0, { shape := .emoji })
    else none
  | .tagDigits n =>
    if within c 0xE0030 0xE0039 && n < 3 then some (0, { shape := .tagDigits (n + 1) })
    else if within c 0x1F3F4 0x1F3F4 && n == 3 then some (0, { shape := .emoji })
    else none
  | .joinedKeycap | .other => none

/-- What a character adds to the width, and what it is to the character before it, when no selector
applies to it. -/
def stepUnselected (c : Char) (r : Right) : Int × Right :=
  if r.shape.isLetter && c == '\u200d' then (0, { r with joined := true })
  else if r.shape.isLetter && isInsideLigature c then (0, r)
  else (together? c r.shape r.joined).getD (ofChar c, rightOf c)

/-- What a character adds to the width, and what it is to the character before it. -/
def step (c : Char) (r : Right) : Int × Right :=
  if r.selector == some .emoji && CharSet.emojiVariationBase.contains c then
    (if r.shape == .joinedEmoji || r.shape == .joinedKeycap then 0 else 2, { shape := .emoji })
  else
    let r := if r.selector == some .emoji then r.dropSelector else r
    if c.toNat ≤ 0xA0 then (1, {})
    else if c == '\ufe0f' then (0, r.selectEmoji)
    else if c == '\ufe0e' then (0, r.selectText)
    else if r.selector == some .text && canBeText c then (1, {})
    else stepUnselected c (if r.selector == some .text then r.dropSelector else r)

end Width

/-- The number of columns that the characters take. -/
def displayWidth (cs : List Char) : Nat :=
  (cs.foldr (fun c (width, right) =>
    let (more, right) := Width.step c right
    (width + more, right)) ((0 : Int), ({} : Width.Right))).1.toNat

end ViewLang

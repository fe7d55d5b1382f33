/-!
# Blank characters

The characters that separate tokens and mean nothing else: those with the Unicode property
White_Space.
-/

namespace ViewLang

/-- Whether the character is white space: the ASCII blanks and line breaks, the no-break space, and
the spaces and separators of the general punctuation block and its neighbours. -/
def isBlank (c : Char) : Bool :=
  let n := c.toNat
  (0x9 ≤ n && n ≤ 0xD) || n == 0x20 || n == 0x85 || n == 0xA0 || n == 0x1680 ||
    (0x2000 ≤ n && n ≤ 0x200A) || n == 0x2028 || n == 0x2029 || n == 0x202F || n == 0x205F ||
    n == 0x3000

end ViewLang

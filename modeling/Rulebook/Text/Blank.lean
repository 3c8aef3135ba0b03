import Rulebook.Text.CharSet

/-!
# White space

The characters of bidirectional type WS, B or S and the separators of category Zs.
-/

namespace Rulebook

/-- White space of every script, the information separators U+001C to U+001F included. -/
def isBlank (c : Char) : Bool :=
  let n := c.toNat
  (0x9 ≤ n && n ≤ 0xd) || (0x1c ≤ n && n ≤ 0x20) || n == 0x85 || n == 0xa0 || n == 0x1680 ||
    (0x2000 ≤ n && n ≤ 0x200a) || n == 0x2028 || n == 0x2029 || n == 0x202f || n == 0x205f ||
    n == 0x3000

/-- The text without the blanks at its two ends. -/
def strip (cs : List Char) : List Char :=
  ((cs.dropWhile isBlank).reverse.dropWhile isBlank).reverse

/-- A text is blank iff stripping leaves nothing. -/
def isBlankText (cs : List Char) : Bool := cs.all isBlank

end Rulebook

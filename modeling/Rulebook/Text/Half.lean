/-!
# Halves of characters

Where characters are numbered by 16 bits, those beyond 65535 are written as two halves, a high one
and a low one. No half is a character by itself.
-/

namespace Rulebook

/-- Whether a number is that of a high half. -/
def isHighHalf (n : Nat) : Bool := 0xD800 ≤ n && n < 0xDC00

/-- Whether a number is that of a low half. -/
def isLowHalf (n : Nat) : Bool := 0xDC00 ≤ n && n < 0xE000

/-- The character of two halves. -/
def joinHalves (high low : Nat) : Char :=
  Char.ofNat (0x10000 + (high - 0xD800) * 0x400 + (low - 0xDC00))

end Rulebook

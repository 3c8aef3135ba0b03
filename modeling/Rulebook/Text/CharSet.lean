/-!
# Sets of characters

A set of characters is kept as the increasing list of code points at which membership changes:
the first one is the first member, the second the first non-member after it, and so on. A
character belongs to the set iff an odd number of these points is not above it.
-/

namespace Rulebook

/-- A set of characters, given by the code points at which membership changes. -/
structure CharSet where
  toggles : Array Nat

namespace CharSet

/-- The number of entries of the increasing array `a` that are at most `x`, given that the first
`lo` are and that those from `hi` on are not. -/
private def countUpTo (a : Array Nat) (x : Nat) : Nat → Nat → Nat → Nat
  | 0, lo, _ => lo
  | fuel + 1, lo, hi =>
    if lo < hi then
      let mid := (lo + hi) / 2
      if (a[mid]?.getD 0) ≤ x then countUpTo a x fuel (mid + 1) hi
      else countUpTo a x fuel lo mid
    else lo

/-- Whether a character belongs to the set. Every step of the search halves the range, so its
size bounds the number of steps. -/
def contains (s : CharSet) (c : Char) : Bool :=
  countUpTo s.toggles c.toNat (s.toggles.size + 1) 0 s.toggles.size % 2 == 1

end CharSet

end Rulebook

/-!
# Powers of two and of ten

The powers that the units of binary and decimal numbers are.
-/

namespace Rulebook

/-- A power of two. -/
def twoPower (n : Nat) : Nat := Nat.pow 2 n

/-- A power of ten. -/
def tenPower (n : Nat) : Nat := Nat.pow 10 n

theorem twoPower_succ (n : Nat) : twoPower (n + 1) = twoPower n * 2 := rfl

theorem tenPower_succ (n : Nat) : tenPower (n + 1) = tenPower n * 10 := rfl

theorem twoPower_pos (n : Nat) : 0 < twoPower n := by
  induction n with
  | zero => decide
  | succ n ih => rw [twoPower_succ]; omega

theorem tenPower_pos (n : Nat) : 0 < tenPower n := by
  induction n with
  | zero => decide
  | succ n ih => rw [tenPower_succ]; omega

end Rulebook

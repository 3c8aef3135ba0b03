import Rulebook.Number.Decimal

/-!
# Exact comparison of numbers

Integers, binary and decimal numbers and fractions are compared by their exact values, whatever
their kinds.

* `Quantity.compare_zero`: against zero, a scaled quotient compares as its numerator.
* `Scaled.compare_self`: a scaled quotient is equal to itself.
-/

namespace Rulebook

/-- The exact value `num / den * 10 ^ exponent`. -/
structure Scaled where
  num : Int
  den : Nat
  exponent : Int

namespace Scaled

/-- The order of two positive values `a / b * 10 ^ d` and `c / e`. A difference in the exponents
that outweighs all digits settles it without computing the power. -/
def compareShifted (a b d c e : Nat) : Ordering :=
  if (c * b).log2 < d then .gt else compare (a * e * tenPower d) (c * b)

/-- The order of the absolute values of two nonzero values. -/
def compareAbs (x y : Scaled) : Ordering :=
  let d := x.exponent - y.exponent
  if 0 ≤ d then compareShifted x.num.natAbs x.den d.toNat y.num.natAbs y.den
  else (compareShifted y.num.natAbs y.den (-d).toNat x.num.natAbs x.den).swap

/-- The order of two values: by sign, then by absolute value. -/
def compare (x y : Scaled) : Ordering :=
  if 0 < x.num then (if 0 < y.num then compareAbs x y else .gt)
  else if x.num < 0 then (if y.num < 0 then (compareAbs x y).swap else .lt)
  else if 0 < y.num then .lt else if y.num < 0 then .gt else .eq

theorem compare_zero (x y : Scaled) (h : y.num = 0) :
    x.compare y = if 0 < x.num then .gt else if x.num < 0 then .lt else .eq := by
  simp [compare, h]

theorem compareShifted_self (a b : Nat) : compareShifted a b 0 a b = .eq := by
  simp [compareShifted, tenPower]

theorem compareAbs_self (x : Scaled) : x.compareAbs x = .eq := by
  simp [compareAbs, compareShifted_self]

theorem compare_self (x : Scaled) : x.compare x = .eq := by
  unfold compare
  split
  · exact compareAbs_self x
  · split
    · rw [compareAbs_self]
      rfl
    · rfl

end Scaled

/-- A real number, an infinity, or nothing that can be ordered. -/
inductive Quantity where
  | undefined
  | infinite (negative : Bool)
  | finite (value : Scaled)

namespace Quantity

/-- The quantity of an integer. -/
def ofInt (n : Int) : Quantity := .finite ⟨n, 1, 0⟩

/-- The quantity of a quotient. -/
def ofFraction (num : Int) (den : Nat) : Quantity := .finite ⟨num, den, 0⟩

/-- The quantity of a binary number. -/
def ofBinary : Binary → Quantity
  | .nan _ => .undefined
  | .infinite s => .infinite s
  | .finite s m e => let (n, d) := Binary.ratio s m e; .finite ⟨n, d, 0⟩

/-- The quantity of a decimal number. -/
def ofDecimal : Decimal → Quantity
  | .nan .. => .undefined
  | .infinite s => .infinite s
  | .finite s c e => .finite ⟨if s then -(c : Int) else c, 1, e⟩

/-- The order of two quantities, if both are defined. -/
def compare : Quantity → Quantity → Option Ordering
  | .undefined, _ => none
  | _, .undefined => none
  | .infinite s, .infinite t => some (if s == t then .eq else if s then .lt else .gt)
  | .infinite s, .finite _ => some (if s then .lt else .gt)
  | .finite _, .infinite s => some (if s then .gt else .lt)
  | .finite x, .finite y => some (x.compare y)

theorem compare_zero (x : Scaled) :
    compare (.finite x) (ofInt 0) =
      some (if 0 < x.num then .gt else if x.num < 0 then .lt else .eq) := by
  simp [compare, ofInt, Scaled.compare_zero]

end Quantity

end Rulebook

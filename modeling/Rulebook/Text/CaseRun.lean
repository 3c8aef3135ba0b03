import Rulebook.Text.CharSet

/-!
# Runs of case pairs

Case mappings of one character to one character come in runs: characters at equal distances that
all move by the same amount.
-/

namespace Rulebook

/-- The characters `first, first + step, …, last`, each of which moves by `shift`. -/
structure CaseRun where
  first : Nat
  last : Nat
  step : Nat
  shift : Int

namespace CaseRun

/-- Whether the run holds the code point. -/
def covers (r : CaseRun) (n : Nat) : Bool :=
  r.first ≤ n && n ≤ r.last && (n - r.first) % r.step == 0

/-- The image of a character under the run that holds it, and the character itself where no run
does. -/
def apply (runs : Array CaseRun) (c : Char) : Char :=
  match runs.find? (covers · c.toNat) with
  | some r => Char.ofNat (c.toNat + r.shift).toNat
  | none => c

end CaseRun

end Rulebook

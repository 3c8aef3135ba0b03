import Mathlib.Data.Sign.Defs
import Rulebook.Predicate

/-!
# Checks of signs

The sign of a number is read off its parts. It decides how the number compares with zero, however
the number is kept, and so what the checks of its sign answer. What is not a number has no sign, and
yet some of it counts among the numbers that are checked.

* `Value.sign?`: the sign of a value. `Value.isNaN`: numbers that are not numbers.
* `Quantity.compare_ofInt_zero`: a quantity is to zero as its sign is.
* `Predicate.checks_of_sign`: the answers for a value with a sign.
* `Predicate.sign_checks_part_iff`: the checks answer, and part the values, iff the value is not one
  of those that are not numbers.
-/

namespace Rulebook

/-- The sign of a number of this size. Zero has none of its own. -/
def signOf (negative : Bool) (size : Nat) : SignType :=
  if size = 0 then 0 else if negative then -1 else 1

/-- The sign of an integer. -/
def signOfInt (n : Int) : SignType := if 0 < n then 1 else if n < 0 then -1 else 0

theorem signOfInt_signed (negative : Bool) (n : Nat) :
    signOfInt (if negative then -(n : Int) else n) = signOf negative n := by
  unfold signOfInt signOf
  by_cases hn : n = 0
  · simp [hn]
  · have hnot : ¬ (n : Int) < 0 := by omega
    cases negative with
    | true => simp [hn, hnot]
    | false => simp [hn]

/-- A scaled mantissa has the sign of the mantissa. -/
theorem signOf_mul_twoPower (negative : Bool) (m e : Nat) :
    signOf negative (m * twoPower e) = signOf negative m := by
  have hzero : m * twoPower e = 0 ↔ m = 0 := by
    rw [Nat.mul_eq_zero]
    exact or_iff_left (Nat.ne_of_gt (twoPower_pos e))
  unfold signOf
  simp only [hzero]

/-- The sign of a binary number. -/
def Binary.sign? : Binary → Option SignType
  | .nan _ => none
  | .infinite negative => some (signOf negative 1)
  | .finite negative mantissa _ => some (signOf negative mantissa)

/-- The sign of a decimal number. -/
def Decimal.sign? : Decimal → Option SignType
  | .nan .. => none
  | .infinite negative => some (signOf negative 1)
  | .finite negative coefficient _ => some (signOf negative coefficient)

namespace Value

/-- The sign of a value that is a number. Truth values are none. -/
def sign? : Value → Option SignType
  | .int n => some (signOfInt n)
  | .float x => x.sign?
  | .decimal d => d.sign?
  | .fraction num _ => some (signOfInt num)
  | _ => Option.none

/-- Whether a value is of a kind of numbers without being one. -/
def isNaN : Value → Bool
  | .float x => x.isNaN
  | .decimal d => d.isNaN
  | _ => false

end Value

namespace Quantity

/-- The sign of a quantity. -/
def sign? : Quantity → Option SignType
  | .undefined => none
  | .infinite negative => some (signOf negative 1)
  | .finite x => some (signOfInt x.num)

/-- A quantity is to zero as its sign is. -/
theorem compare_ofInt_zero (q : Quantity) :
    q.compare (.ofInt 0) = q.sign?.map fun s => Ord.compare s 0 := by
  cases q with
  | undefined => rfl
  | infinite negative => cases negative <;> rfl
  | finite x =>
    rw [compare_zero, sign?, signOfInt]
    split
    · rfl
    · split <;> rfl

theorem sign?_ofBinary (x : Binary) : (ofBinary x).sign? = x.sign? := by
  cases x with
  | nan _ => rfl
  | infinite negative => rfl
  | finite negative m e =>
    show some (signOfInt (if negative then _ else _)) = _
    rw [signOfInt_signed, signOf_mul_twoPower]
    rfl

theorem sign?_ofDecimal (d : Decimal) : (ofDecimal d).sign? = d.sign? := by
  cases d with
  | nan _ _ _ _ => rfl
  | infinite negative => rfl
  | finite negative c e => exact congrArg some (signOfInt_signed negative c)

end Quantity

namespace Predicate

variable {v : Value}

/-- The quantity of a number has its sign. -/
theorem quantity_of_isNumber (h : isNumber v = true) :
    ∃ q, v.quantity? = some q ∧ q.sign? = v.sign? := by
  cases v with
  | int n => exact ⟨_, rfl, rfl⟩
  | float x => exact ⟨_, rfl, Quantity.sign?_ofBinary x⟩
  | decimal d => exact ⟨_, rfl, Quantity.sign?_ofDecimal d⟩
  | fraction num den => exact ⟨_, rfl, rfl⟩
  | _ => cases h

theorem isNumber_of_sign {s : SignType} (hs : v.sign? = some s) : isNumber v = true := by
  cases v with
  | int | float | decimal | fraction => rfl
  | _ => cases hs

/-- A number has a sign, or is not a number. -/
theorem sign?_eq_none_iff (h : isNumber v = true) : v.sign? = none ↔ v.isNaN = true := by
  cases v with
  | int n => simp [Value.sign?, Value.isNaN]
  | float x => cases x <;> simp [Value.sign?, Value.isNaN, Binary.sign?, Binary.isNaN]
  | decimal d => cases d <;> simp [Value.sign?, Value.isNaN, Decimal.sign?, Decimal.isNaN]
  | fraction num den => simp [Value.sign?, Value.isNaN]
  | _ => cases h

/-- What the checks answer for a number is what its quantity is to zero. -/
theorem checks_of_isNumber (h : isNumber v = true) {q : Quantity} (hq : v.quantity? = some q) :
    isPositive v = Value.orderNumbers .gt v zero q (.ofInt 0) ∧
      isNegative v = Value.orderNumbers .lt v zero q (.ofInt 0) ∧
      isNotZero v = (Value.numbersEqual v zero q (.ofInt 0)).map not := by
  have hordered : ∀ c, Value.ordered c v zero = Value.orderNumbers c v zero q (.ofInt 0) := by
    intro c
    cases v with
    | int | float | decimal | fraction =>
      cases hq
      simp [Value.ordered, zero, Value.quantity?]
    | _ => cases h
  have hequals : Value.equals v zero = Value.numbersEqual v zero q (.ofInt 0) := by
    cases v with
    | int | float | decimal | fraction =>
      cases hq
      simp [Value.equals, zero, Value.quantity?]
    | _ => cases h
  unfold isPositive isNegative isNotZero
  rw [if_pos h, if_pos h, if_pos h, hordered, hordered, hequals]
  exact ⟨rfl, rfl, rfl⟩

/-- What the checks answer for a value with a sign. -/
theorem checks_of_sign {s : SignType} (hs : v.sign? = some s) :
    isPositive v = .ok (s == 1) ∧ isNegative v = .ok (s == -1) ∧ isNotZero v = .ok (s != 0) := by
  have hnumber := isNumber_of_sign hs
  obtain ⟨q, hq, hsign⟩ := quantity_of_isNumber hnumber
  have hcompare : q.compare (.ofInt 0) = some (compare s 0) := by
    rw [Quantity.compare_ofInt_zero, hsign, hs]
    rfl
  -- Only a decimal number that is none could be signalling.
  have hequal : Value.numbersEqual v zero q (.ofInt 0) = .ok (some (compare s 0) == some .eq) := by
    rw [Value.numbersEqual, hcompare]
    cases v with
    | decimal d =>
      cases d with
      | nan => cases hs
      | _ => rfl
    | _ => rfl
  obtain ⟨hpositive, hnegative, hzero⟩ := checks_of_isNumber hnumber hq
  rw [hpositive, hnegative, hzero, Value.orderNumbers, Value.orderNumbers, hcompare, hequal]
  cases s <;> exact ⟨rfl, rfl, rfl⟩

/-! ## Values without a sign -/

theorem checks_of_not_isNumber (h : isNumber v = false) :
    isPositive v = .ok false ∧ isNegative v = .ok false ∧ isNotZero v = .ok false := by
  unfold isPositive isNegative isNotZero
  rw [h]
  exact ⟨rfl, rfl, rfl⟩

/-- A binary number that is not a number is on neither side of zero, and not equal to it. -/
theorem checks_of_binary_nan (i : Nat) :
    isPositive (.float (.nan i)) = .ok false ∧ isNegative (.float (.nan i)) = .ok false ∧
      isNotZero (.float (.nan i)) = .ok true := by
  obtain ⟨hpositive, hnegative, hzero⟩ := checks_of_isNumber (v := .float (.nan i)) rfl rfl
  exact ⟨hpositive, hnegative, hzero⟩

/-- A decimal number that is not a number may not be put in order with zero, and a signalling one
not be compared with it at all. -/
theorem checks_of_decimal_nan {d : Decimal} (hd : d.isNaN = true) :
    isPositive (.decimal d) = .error .decimalSignal ∧
      isNegative (.decimal d) = .error .decimalSignal ∧
      isNotZero (.decimal d) = if d.isSignaling then .error .decimalSignal else .ok true := by
  cases d with
  | nan id signaling negative payload =>
    obtain ⟨hpositive, hnegative, hzero⟩ :=
      checks_of_isNumber (v := .decimal (.nan id signaling negative payload)) rfl rfl
    refine ⟨hpositive, hnegative, hzero.trans ?_⟩
    cases signaling <;> rfl
  | _ => cases hd

/-! ## All values -/

/-- The checks of the sign of a value answer, it has at most one of the two signs, and it is other
than zero iff it has one of them. -/
def Parted (v : Value) : Prop :=
  ∃ positive negative, isPositive v = .ok positive ∧ isNegative v = .ok negative ∧
    isNotZero v = .ok (positive || negative) ∧ (positive && negative) = false

theorem parted_of_not_isNaN (h : v.isNaN = false) : Parted v := by
  cases hnumber : isNumber v with
  | false =>
    obtain ⟨hp, hn, hz⟩ := checks_of_not_isNumber hnumber
    exact ⟨false, false, hp, hn, hz, rfl⟩
  | true =>
    cases hsign : v.sign? with
    | none =>
      have hnan := (sign?_eq_none_iff hnumber).mp hsign
      rw [h] at hnan
      cases hnan
    | some s =>
      obtain ⟨hp, hn, hz⟩ := checks_of_sign hsign
      refine ⟨s == 1, s == -1, hp, hn, hz.trans (congrArg Except.ok ?_), ?_⟩
      · cases s <;> rfl
      · cases s <;> rfl

theorem not_parted_of_isNaN (h : v.isNaN = true) : ¬ Parted v := by
  rintro ⟨positive, negative, hpositive, hnegative, hzero, -⟩
  cases v with
  | float x =>
    cases x with
    | nan i =>
      obtain ⟨hp, hn, hz⟩ := checks_of_binary_nan i
      cases hp.symm.trans hpositive
      cases hn.symm.trans hnegative
      cases hz.symm.trans hzero
    | _ => cases h
  | decimal d => cases (checks_of_decimal_nan h).1.symm.trans hpositive
  | _ => cases h

/-- The checks part a value iff it is not a number that is none. What is of no kind of numbers
passes none of them; what has a sign passes that of its sign, and that for zero unless it is zero.
Of what is not a number, a binary one is on neither side of zero and yet other than it; for a
decimal one there is no answer on which side it is, nor, if it is signalling, on whether it is
zero. -/
theorem sign_checks_part_iff (v : Value) :
    (Parted v ↔ v.isNaN = false) ∧
    (isNumber v = false →
      isPositive v = .ok false ∧ isNegative v = .ok false ∧ isNotZero v = .ok false) ∧
    (∀ s, v.sign? = some s →
      isPositive v = .ok (s == 1) ∧ isNegative v = .ok (s == -1) ∧ isNotZero v = .ok (s != 0)) ∧
    (∀ i, v = .float (.nan i) →
      isPositive v = .ok false ∧ isNegative v = .ok false ∧ isNotZero v = .ok true) ∧
    ∀ d, v = .decimal d → d.isNaN = true →
      isPositive v = .error .decimalSignal ∧ isNegative v = .error .decimalSignal ∧
        isNotZero v = if d.isSignaling then .error .decimalSignal else .ok true := by
  refine ⟨⟨?_, parted_of_not_isNaN⟩, checks_of_not_isNumber, fun _ => checks_of_sign, ?_, ?_⟩
  · intro hparted
    rw [← Bool.not_eq_true]
    intro hnan
    exact not_parted_of_isNaN hnan hparted
  · rintro i rfl
    exact checks_of_binary_nan i
  · rintro d rfl hd
    exact checks_of_decimal_nan hd

/-- It is not answered whether a decimal number that is not a number is positive; and a binary one
passes the check for zero, although it has neither sign. -/
theorem isPositive_nan :
    (¬ ∃ b, isPositive (.decimal (.nan 0 false false "")) = .ok b) ∧
      isPositive (.float (.nan 0)) = .ok false ∧ isNegative (.float (.nan 0)) = .ok false ∧
      isNotZero (.float (.nan 0)) = .ok true := by
  refine ⟨?_, checks_of_binary_nan 0⟩
  rintro ⟨b, hb⟩
  cases (checks_of_decimal_nan rfl).1.symm.trans hb

end Predicate

end Rulebook

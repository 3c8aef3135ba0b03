import Rulebook.Number.Power

/-!
# Binary floating-point numbers

The numbers of the 64-bit binary format, kept as what they are: a sign, a natural mantissa and an
exponent of two. Nothing is computed with them but their exact value, so rounding happens in one
place only, where a rational number becomes a `Binary`.

The text of a number has the fewest digits that read back as it, and of those the nearest to it.
It is positional where the point stands at most 16 digits to the right and at most three zeros to
the left of the first digit, and has an exponent elsewhere.
-/

namespace Rulebook

/-- A binary floating-point number; a finite one is `mantissa * 2 ^ exponent` with its sign. What
is not a number has an identity, since two of them are told apart only by it. -/
inductive Binary where
  | nan (id : Nat)
  | infinite (negative : Bool)
  | finite (negative : Bool) (mantissa : Nat) (exponent : Int)
deriving DecidableEq, Repr

namespace Binary

/-- Mantissas have at most this many bits. -/
def precision : Nat := 53

/-- The least exponent. -/
def minExponent : Int := -1074

/-- The greatest exponent. -/
def maxExponent : Int := 971

/-- The quotient rounded to the nearest natural number, a half to the even neighbour. -/
def roundDiv (num den : Nat) : Nat :=
  let q := num / den
  let r := num % den
  if 2 * r < den then q else if den < 2 * r then q + 1 else if q % 2 = 0 then q else q + 1

/-- `num / (den * 2 ^ e)`, rounded to the nearest natural number. -/
def scaleDiv (num den : Nat) (e : Int) : Nat :=
  roundDiv (num * twoPower (-e).toNat) (den * twoPower e.toNat)

/-- The exponent at which `num / den` has a mantissa of full precision, or the least exponent. -/
def exponentFor (num den : Nat) : Int :=
  let guess : Int := (num.log2 : Int) - den.log2 - precision
  let e := if twoPower precision * (den * twoPower guess.toNat) ≤ num * twoPower (-guess).toNat
    then guess + 1 else guess
  max e minExponent

/-- The nearest number to `num / den` with the sign given; a half goes to the even mantissa and
what is too large to infinity. -/
def ofRatio (negative : Bool) (num den : Nat) : Binary :=
  if num = 0 then .finite negative 0 minExponent
  else
    let e := exponentFor num den
    let m := scaleDiv num den e
    let (m, e) := if m = twoPower precision then (twoPower (precision - 1), e + 1) else (m, e)
    if maxExponent < e then .infinite negative else .finite negative m e

/-- The nearest number to `digits * 10 ^ exponent`. Exponents far outside the format are settled
without computing the power. -/
def ofDecimal (negative : Bool) (digits : Nat) (exponent : Int) : Binary :=
  let size : Int := (Nat.toDigits 10 digits).length + exponent
  if digits = 0 || size < -400 then ofRatio negative 0 1
  else if 400 < size then .infinite negative
  else ofRatio negative (digits * tenPower exponent.toNat) (tenPower (-exponent).toNat)

/-- The nearest number to an integer. -/
def ofInt (n : Int) : Binary := ofRatio (n < 0) n.natAbs 1

/-- Whether it is not a number. -/
def isNaN : Binary → Bool
  | .nan _ => true
  | _ => false

/-- Whether it is one of the two zeros. -/
def isZero : Binary → Bool
  | .finite _ m _ => m == 0
  | _ => false

/-- Whether its sign is a minus. -/
def isNegative : Binary → Bool
  | .nan _ => false
  | .infinite s => s
  | .finite s _ _ => s

/-! ## Arithmetic

Sums and products are exact, and then rounded once. -/

/-- The exact value of a finite number as a quotient of integers. -/
def ratio (negative : Bool) (m : Nat) (e : Int) : Int × Nat :=
  let n : Int := (m * twoPower e.toNat : Nat)
  (if negative then -n else n, twoPower (-e).toNat)

/-- The sum of two numbers. -/
def add : Binary → Binary → Binary
  | .nan i, _ => .nan i
  | _, .nan i => .nan i
  | .infinite s, .infinite t => if s == t then .infinite s else .nan 0
  | .infinite s, _ => .infinite s
  | _, .infinite s => .infinite s
  | .finite s m e, .finite t n f =>
    let (a, b) := ratio s m e
    let (c, d) := ratio t n f
    let sum := a * d + c * b
    ofRatio (if sum = 0 then s && t else sum < 0) sum.natAbs (b * d)

/-- The product of a number and a natural number. -/
def mulNat : Binary → Nat → Binary
  | .finite s m e, k =>
    let (a, b) := ratio s m e
    ofRatio s (a.natAbs * k) b
  | x, _ => x

/-- The number with the other sign. -/
def neg : Binary → Binary
  | .nan i => .nan i
  | .infinite s => .infinite (!s)
  | .finite s m e => .finite (!s) m e

/-! ## The shortest text -/

/-- Whether the nonnegative rational `num / den` rounds to `m * 2 ^ e`: it lies between the two
midpoints to the neighbours, where the midpoints count iff `m` is even. Below a power of two the
neighbours are half as far. -/
def roundsTo (m : Nat) (e : Int) (num den : Nat) : Bool :=
  let narrow := m = twoPower (precision - 1) ∧ minExponent < e
  -- everything in quarters of the unit `2 ^ e`
  let value := 4 * num * twoPower (-e).toNat
  let unit := den * twoPower e.toNat
  let low := (4 * m - (if narrow then 1 else 2)) * unit
  let high := (4 * m + 2) * unit
  if m % 2 = 0 then low ≤ value && value ≤ high else low < value && value < high

/-- The position of the decimal point relative to the first digit of `num / den`: the least `p`
with `num / den < 10 ^ p`, found from a guess that is too low by at most the fuel. -/
def pointOf (num den : Nat) : Nat → Int → Int
  | 0, p => p
  | fuel + 1, p =>
    if num * tenPower (-p).toNat < den * tenPower p.toNat then p else pointOf num den fuel (p + 1)

/-- The shortest decimal `digits * 10 ^ exponent` that rounds to `m * 2 ^ e`, searched from `n`
digits on: of the two decimals of `n` digits beside the value, the nearer one that rounds to it. -/
def shortestFrom (m : Nat) (e : Int) (num den : Nat) (point : Int) : Nat → Nat → Nat × Int
  | 0, n =>
    let unit : Int := point - n
    (roundDiv (num * tenPower (-unit).toNat) (den * tenPower unit.toNat), unit)
  | fuel + 1, n =>
    let unit : Int := point - n
    let a := num * tenPower (-unit).toNat
    let b := den * tenPower unit.toNat
    let low := a / b
    let hits (d : Nat) : Bool := roundsTo m e (d * tenPower unit.toNat) (tenPower (-unit).toNat)
    let nearest := roundDiv a b
    let other := if nearest = low then low + 1 else low
    if hits nearest then (nearest, unit)
    else if hits other then (other, unit)
    else shortestFrom m e num den point fuel (n + 1)

/-- The fewest decimal digits, and the exponent of ten at the last one, of a positive number. -/
def shortest (m : Nat) (e : Int) : Nat × Int :=
  let num := m * twoPower e.toNat
  let den := twoPower (-e).toNat
  let guess : Int := ((num.log2 : Int) - den.log2 - 1) * 30103 / 100000 - 1
  shortestFrom m e num den (pointOf num den 8 guess) 17 1

/-- The digits without zeros at their end. -/
def trimZeros (digits : List Char) : List Char :=
  match (digits.reverse.dropWhile (· == '0')).reverse with
  | [] => ['0']
  | ds => ds

/-- The exponent part of a text: a sign and at least two digits. -/
def exponentText (x : Int) : String :=
  let digits := toString x.natAbs
  "e" ++ (if x < 0 then "-" else "+") ++ (if digits.length < 2 then "0" ++ digits else digits)

/-- The text of `0.digits * 10 ^ point`; `mark` is put behind a positional text without a point. -/
def layout (mark : String) (digits : List Char) (point : Int) : String :=
  let n : Int := digits.length
  if point ≤ -4 || 16 < point then
    let head := String.ofList (digits.take 1)
    let tail := digits.drop 1
    head ++ (if tail.isEmpty then "" else "." ++ String.ofList tail) ++ exponentText (point - 1)
  else if point ≤ 0 then
    "0." ++ String.ofList (List.replicate (-point).toNat '0' ++ digits)
  else if n ≤ point then
    String.ofList (digits ++ List.replicate (point - n).toNat '0') ++ mark
  else
    String.ofList (digits.take point.toNat) ++ "." ++ String.ofList (digits.drop point.toNat)

/-- The text of the absolute value. -/
def magnitudeText (mark : String) : Binary → String
  | .nan _ => "nan"
  | .infinite _ => "inf"
  | .finite _ m e =>
    if m = 0 then "0" ++ mark
    else
      let (d, x) := shortest m e
      let digits := Nat.toDigits 10 d
      layout mark (trimZeros digits) (x + digits.length)

/-- The text of a number with its sign; a whole number in positional form ends in `.0`. -/
def text (x : Binary) : String := (if x.isNegative then "-" else "") ++ x.magnitudeText ".0"

/-- The text of a part of a complex number, which has no `.0`. -/
def partText (x : Binary) : String := (if x.isNegative then "-" else "") ++ x.magnitudeText ""

end Binary

end Rulebook

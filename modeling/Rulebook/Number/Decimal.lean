import Rulebook.Number.Numeral

/-!
# Decimal numbers

Decimal numbers with an exponent of their own, so that `1.0` and `1.00` are equal and yet two
texts. Two kinds of them are not numbers; a signalling one may not even be compared.
-/

namespace Rulebook

/-- A decimal number; a finite one is `coefficient * 10 ^ exponent` with its sign. What is not a
number has an identity. -/
inductive Decimal where
  | nan (id : Nat) (signaling negative : Bool) (payload : String)
  | infinite (negative : Bool)
  | finite (negative : Bool) (coefficient : Nat) (exponent : Int)
deriving DecidableEq, Repr

namespace Decimal

/-- Whether it is not a number. -/
def isNaN : Decimal → Bool
  | .nan .. => true
  | _ => false

/-- Whether it is not a number and signalling. -/
def isSignaling : Decimal → Bool
  | .nan _ signaling _ _ => signaling
  | _ => false

/-- Whether it is a zero. -/
def isZero : Decimal → Bool
  | .finite _ c _ => c == 0
  | _ => false

/-- The digits of a finite number with the point put in place. Numbers with a positive exponent
or more than five zeros after the point have an exponent. -/
def layout (digits : List Char) (exponent : Int) : String :=
  let n : Int := digits.length
  let left := exponent + n
  let point := if exponent ≤ 0 ∧ -6 < left then left else 1
  let body :=
    if point ≤ 0 then "0." ++ String.ofList (List.replicate (-point).toNat '0' ++ digits)
    else if n ≤ point then String.ofList (digits ++ List.replicate (point - n).toNat '0')
    else String.ofList (digits.take point.toNat) ++ "." ++ String.ofList (digits.drop point.toNat)
  if left = point then body
  else body ++ "E" ++ (if left - point < 0 then "-" else "+") ++ toString (left - point).natAbs

/-- The text of a decimal number. -/
def text : Decimal → String
  | .nan _ signaling negative payload =>
    (if negative then "-" else "") ++ (if signaling then "sNaN" else "NaN") ++ payload
  | .infinite negative => (if negative then "-" else "") ++ "Infinity"
  | .finite negative c e => (if negative then "-" else "") ++ layout (Nat.toDigits 10 c) e

/-- The decimal number that a text stands for. The identity is given to what is not a number. -/
def ofText? (id : Nat) (s : String) : Option Decimal :=
  let (negative, body) := splitSign s.toList
  let word := body.map Char.toLower
  let payloadOf (cs : List Char) : Option String :=
    if cs.all isAsciiDigit then some (String.ofList (cs.dropWhile (· == '0'))) else none
  match word with
  | 'i' :: 'n' :: 'f' :: rest =>
    if rest.isEmpty || rest == ['i', 'n', 'i', 't', 'y'] then some (.infinite negative) else none
  | 's' :: 'n' :: 'a' :: 'n' :: rest => (payloadOf rest).map (.nan id true negative)
  | 'n' :: 'a' :: 'n' :: rest => (payloadOf rest).map (.nan id false negative)
  | _ => (Numeral.ofChars? s.toList).map fun n => .finite n.negative n.digits n.exponent

end Decimal

end Rulebook

/-!
# Bytes in base 64

Four digits of base 64 stand for three bytes. Characters that are no digits are passed over;
a sign at the end fills up the last group.

* `Base64.decode?`: the bytes of a text, unless its last group is not complete.
-/

namespace Rulebook

namespace Base64

/-- The value of a digit. -/
def digit? (c : Char) : Option Nat :=
  if 'A' ≤ c ∧ c ≤ 'Z' then some (c.toNat - 65)
  else if 'a' ≤ c ∧ c ≤ 'z' then some (c.toNat - 97 + 26)
  else if '0' ≤ c ∧ c ≤ '9' then some (c.toNat - 48 + 52)
  else if c = '+' then some 62
  else if c = '/' then some 63
  else none

/-- The bytes of a group of two, three or four digits. -/
def groupBytes : List Nat → List UInt8
  | [a, b] => [UInt8.ofNat (a * 4 + b / 16)]
  | [a, b, c] => [UInt8.ofNat (a * 4 + b / 16), UInt8.ofNat (b % 16 * 16 + c / 4)]
  | [a, b, c, d] =>
    [UInt8.ofNat (a * 4 + b / 16), UInt8.ofNat (b % 16 * 16 + c / 4), UInt8.ofNat (c % 4 * 64 + d)]
  | _ => []

/-- Reads digits onto the group that is open, of which `signs` places have been filled up. -/
def decodeFrom (group : List Nat) (signs : Nat) : List Char → Option (List UInt8)
  | [] => if group.isEmpty then some [] else none
  | c :: cs =>
    if c = '=' then
      if 2 ≤ group.length ∧ 4 ≤ group.length + signs + 1 then some (groupBytes group)
      else decodeFrom group (if 2 ≤ group.length then signs + 1 else signs) cs
    else
      match digit? c with
      | none => decodeFrom group signs cs
      | some d =>
        let group := group ++ [d]
        if group.length = 4 then (decodeFrom [] 0 cs).map (groupBytes group ++ ·)
        else decodeFrom group 0 cs

/-- The bytes of a text in base 64. -/
def decode? (cs : List Char) : Option (List UInt8) := decodeFrom [] 0 cs

end Base64

end Rulebook

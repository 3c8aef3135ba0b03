import Rulebook.Text.Quoted

/-!
# UTF-8

Text read from bytes. A character is a first byte and up to three further ones; the second one is
confined where the form would be too long, a half of a pair, or beyond the last character. What
cannot be read is reported with the bytes that were taken together.

* `Utf8.decode`: the characters of bytes, up to where they cannot be read, and why.
* `unifyLineEnds`: line ends of all three kinds as line feeds.
-/

namespace Rulebook

namespace Utf8

/-- Why bytes are no text. -/
inductive Reason where
  | start
  | continuation
  | ended
deriving DecidableEq, Repr

/-- The bytes that could not be read: where they start, and why. -/
structure DecodeError where
  position : Nat
  bytes : List UInt8
  reason : Reason
deriving DecidableEq, Repr

/-- The text of a reason. -/
def Reason.text : Reason → String
  | .start => "invalid start byte"
  | .continuation => "invalid continuation byte"
  | .ended => "unexpected end of data"

/-- The text of an error. One byte is shown, several are located. -/
def DecodeError.message (e : DecodeError) : String :=
  "'utf-8' codec can't decode " ++
    (match e.bytes with
      | [b] => "byte 0x" ++ hexDigits 2 b.toNat ++ " in position " ++ toString e.position
      | bytes => "bytes in position " ++ toString e.position ++ "-" ++
          toString (e.position + bytes.length - 1)) ++ ": " ++ e.reason.text

/-- Reads `n` further bytes onto a value; the first of them lies between `low` and `high`. An error
says how many bytes, counted from `seen`, were taken. -/
def follow (low high : Nat) (value seen : Nat) : Nat → List UInt8 → Except (Nat × Reason) Nat
  | 0, _ => .ok value
  | _ + 1, [] => .error (seen, .ended)
  | n + 1, b :: bytes =>
    if low ≤ b.toNat ∧ b.toNat ≤ high then
      follow 0x80 0xBF (value * 64 + (b.toNat - 0x80)) (seen + 1) n bytes
    else .error (seen, .continuation)

/-- What the first byte of a character says: it is all of it, or there is no such character, or `n`
bytes follow, of which the first lies between `low` and `high`, and `value` is what they go onto. -/
inductive Lead where
  | whole
  | none
  | before (n low high value : Nat)

/-- What a byte says as the first one of a character. -/
def lead (b : Nat) : Lead :=
  if b < 0x80 then .whole
  else if b < 0xC2 then .none
  else if b < 0xE0 then .before 1 0x80 0xBF (b - 0xC0)
  else if b = 0xE0 then .before 2 0xA0 0xBF 0
  else if b = 0xED then .before 2 0x80 0x9F 0xD
  else if b < 0xF0 then .before 2 0x80 0xBF (b - 0xE0)
  else if b = 0xF0 then .before 3 0x90 0xBF 0
  else if b = 0xF4 then .before 3 0x80 0x8F 4
  else if b < 0xF4 then .before 3 0x80 0xBF (b - 0xF0)
  else .none

/-- Reads a character from its first byte and those behind it: the character, and how many of
those belong to it. -/
def first (b : UInt8) (bytes : List UInt8) : Except (Nat × Reason) (Char × Nat) :=
  match lead b.toNat with
  | .whole => .ok (Char.ofNat b.toNat, 0)
  | .none => .error (1, .start)
  | .before n low high value =>
    (follow low high value 1 n bytes).map fun v => (Char.ofNat v, n)

/-- The characters of bytes, of which the first has the given position, up to the bytes that cannot
be read, if there are any. -/
def decode (position : Nat) (bytes : List UInt8) : List Char × Option DecodeError :=
  match bytes with
  | [] => ([], none)
  | b :: rest =>
    match first b rest with
    | .error (n, reason) => ([], some ⟨position, (b :: rest).take n, reason⟩)
    | .ok (c, n) =>
      let (cs, broken?) := decode (position + n + 1) (rest.drop n)
      (c :: cs, broken?)
termination_by bytes.length
decreasing_by
  simp only [List.length_drop, List.length_cons]
  omega

end Utf8

/-- The characters with every line end written as a line feed. -/
def unifyLineEnds : List Char → List Char
  | [] => []
  | '\r' :: '\n' :: cs => '\n' :: unifyLineEnds cs
  | '\r' :: cs => '\n' :: unifyLineEnds cs
  | c :: cs => c :: unifyLineEnds cs

end Rulebook

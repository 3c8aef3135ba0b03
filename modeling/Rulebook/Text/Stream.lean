import Rulebook.Text.Utf8

/-!
# Files that are read piece by piece

The bytes of a file of text are taken in pieces. Those at the end of a piece that only begin a
character are kept for the next one. A reader has the characters of the pieces so far before the
bytes of the next piece are looked at, so it may find fault with them first.

* `TextStream.ofBytes`: what reading the bytes of a file gives.
-/

namespace Rulebook

/-- What reading a file gives: characters, and behind them the end, or bytes that are no text. -/
structure TextStream where
  chars : List Char
  broken? : Option Utf8.DecodeError
deriving DecidableEq

namespace TextStream

/-- How many bytes are taken at a time. -/
def pieceSize : Nat := 8192

/-- The same behind other characters. -/
def behind (cs : List Char) (s : TextStream) : TextStream := { s with chars := cs ++ s.chars }

/-- What the rest of a file gives behind bytes that were kept. -/
def taken (kept rest : List UInt8) : TextStream :=
  match rest with
  | [] =>
    let (cs, broken?) := Utf8.decode 0 kept
    ⟨cs, broken?⟩
  | b :: bs =>
    let later := bs.drop (pieceSize - 1)
    match Utf8.decode 0 (kept ++ b :: bs.take (pieceSize - 1)) with
    | (cs, none) => (taken [] later).behind cs
    | (cs, some e) =>
      if e.reason = .ended then (taken e.bytes later).behind cs else ⟨[], some e⟩
termination_by rest.length
decreasing_by all_goals simp only [List.length_drop, List.length_cons]; omega

/-- What reading the bytes of a file gives. -/
def ofBytes (data : List UInt8) : TextStream :=
  let s := taken [] data
  { s with chars := unifyLineEnds s.chars }

end TextStream

end Rulebook

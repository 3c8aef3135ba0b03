import Rulebook.Text.Printable

/-!
# Quoted text

A text or a byte string shown between quotes: the single quote, unless the text has single and
no double quotes. Backslashes and the chosen quote are escaped by a backslash, line ends and tabs
have letters of their own, and all else that cannot be printed is shown by its number.
-/

namespace Rulebook

/-- The number in hexadecimal digits, filled up with zeros to the given width. -/
def hexDigits (width n : Nat) : String :=
  let digits := Nat.toDigits 16 n
  String.ofList (List.replicate (width - digits.length) '0' ++ digits)

namespace Quoted

/-- The quote a text is put in. -/
def quoteFor (cs : List Char) : Char := if '\'' ∈ cs ∧ '"' ∉ cs then '"' else '\''

/-- One character inside a text that is quoted by `quote`. -/
def encodeChar (quote c : Char) : String :=
  if c == quote || c == '\\' then String.ofList ['\\', c]
  else if c == '\t' then "\\t"
  else if c == '\n' then "\\n"
  else if c == '\r' then "\\r"
  else if printable.contains c then String.singleton c
  else if c.toNat < 0x100 then "\\x" ++ hexDigits 2 c.toNat
  else if c.toNat < 0x10000 then "\\u" ++ hexDigits 4 c.toNat
  else "\\U" ++ hexDigits 8 c.toNat

/-- A text between its quotes. -/
def encode (s : String) : String :=
  let quote := quoteFor s.toList
  String.singleton quote ++ String.join (s.toList.map (encodeChar quote)) ++ String.singleton quote

/-- One byte inside a byte string that is quoted by `quote`: ASCII is shown, all else numbered. -/
def encodeByte (quote : Char) (b : UInt8) : String :=
  if b < 0x7f then encodeChar quote (Char.ofNat b.toNat) else "\\x" ++ hexDigits 2 b.toNat

/-- A byte string between its quotes, behind a `b`. -/
def encodeBytes (data : List UInt8) : String :=
  let quote := quoteFor (data.map fun b => Char.ofNat b.toNat)
  "b" ++ String.singleton quote ++ String.join (data.map (encodeByte quote)) ++
    String.singleton quote

end Quoted

end Rulebook

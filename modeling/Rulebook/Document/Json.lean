import Rulebook.Text.Half
import Rulebook.Document.Fault
import Rulebook.Number.Numeral
import Rulebook.Value.Text

/-!
# Documents in JSON

A document is one value between blanks. Besides the values of the format itself, infinity and what
is not a number have names. Of two entries with one key the later value stays, in the place of the
first. Characters of texts may be written in halves.

* `Json.read`: the value of a document.
-/

namespace Rulebook

namespace Json

/-- What has been read, and the rest. -/
abbrev Reading (α : Type) := Except DocumentFault (α × List Char)

/-- Whether a character is a blank between parts of a document. -/
def isSpace (c : Char) : Bool := c == ' ' || c == '\t' || c == '\n' || c == '\r'

/-- The rest behind blanks. -/
def skipSpace (cs : List Char) : List Char := cs.dropWhile isSpace

/-! ## Numbers -/

/-- The digits of an integer without leading zeros. -/
def wholeDigits : List Char → Option (List Char × List Char)
  | '0' :: rest => some (['0'], rest)
  | c :: rest =>
    if isAsciiDigit c then
      some ((c :: rest).takeWhile isAsciiDigit, (c :: rest).dropWhile isAsciiDigit)
    else none
  | [] => none

/-- A mark and the digits behind it, if there are any. -/
def markedDigits (cs : List Char) : Option (List Char × List Char) :=
  match cs with
  | [] => none
  | mark :: rest =>
    let (signed, rest) := match rest with
      | '+' :: r => (['+'], r)
      | '-' :: r => (['-'], r)
      | r => ([], r)
    let digits := rest.takeWhile isAsciiDigit
    if digits.isEmpty then none
    else some (mark :: (signed ++ digits), rest.dropWhile isAsciiDigit)

/-- The fraction of a number, which has no sign. -/
def fraction (cs : List Char) : List Char × List Char :=
  match cs with
  | '.' :: d :: _ => if isAsciiDigit d then (markedDigits cs).getD ([], cs) else ([], cs)
  | _ => ([], cs)

/-- The exponent of a number. -/
def exponent (cs : List Char) : List Char × List Char :=
  match cs with
  | 'e' :: _ => (markedDigits cs).getD ([], cs)
  | 'E' :: _ => (markedDigits cs).getD ([], cs)
  | _ => ([], cs)

/-- A number without a sign: an integer if it has neither fraction nor exponent. -/
def number (negative : Bool) (cs : List Char) : Reading Value :=
  match wholeDigits cs with
  | none => .error .malformed
  | some (whole, rest) =>
    let (frac, rest) := fraction rest
    let (exp, rest) := exponent rest
    if frac.isEmpty && exp.isEmpty then
      if whole.length > maxDigits then .error (.fault (.tooManyDigits (some whole.length)))
      else
        let n : Int := natOfDigits whole
        .ok (.int (if negative then -n else n), rest)
    else
      let text := String.ofList ((if negative then ['-'] else []) ++ whole ++ frac ++ exp)
      match Binary.ofText? 0 text with
      | some x => .ok (.float x, rest)
      | none => .error .malformed

/-! ## Texts -/

/-- The value of four hexadecimal digits. -/
def hexUnit (cs : List Char) : Option (Nat × List Char) :=
  let digits := cs.take 4
  let isHex := fun c : Char => isAsciiDigit c || ('a' ≤ c && c ≤ 'f') || ('A' ≤ c && c ≤ 'F')
  if digits.length == 4 && digits.all isHex then some (natOfBase 16 digits, cs.drop 4) else none

/-- The character of a unit, which may be the first half of a pair. -/
def unitChar (unit : Nat) (rest : List Char) : Option (Char × List Char) :=
  if isHighHalf unit then
    match rest with
    | '\\' :: 'u' :: more =>
      match hexUnit more with
      | none => none
      | some (low, after) =>
        if isLowHalf low then some (joinHalves unit low, after)
        else some ('\uFFFD', rest)
    | _ => some ('\uFFFD', rest)
  else if isLowHalf unit then some ('\uFFFD', rest)
  else some (Char.ofNat unit, rest)

/-- The character of an escape, of which the backslash has been read. -/
def escape : List Char → Option (Char × List Char)
  | '"' :: rest => some ('"', rest)
  | '\\' :: rest => some ('\\', rest)
  | '/' :: rest => some ('/', rest)
  | 'b' :: rest => some ('\x08', rest)
  | 'f' :: rest => some ('\x0c', rest)
  | 'n' :: rest => some ('\n', rest)
  | 'r' :: rest => some ('\r', rest)
  | 't' :: rest => some ('\t', rest)
  | 'u' :: rest =>
    match hexUnit rest with
    | some (unit, after) => unitChar unit after
    | none => none
  | _ => none

/-- The characters of a text up to its closing quote. -/
def textFrom : Nat → List Char → List Char → Reading String
  | 0, _, _ => .error .malformed
  | fuel + 1, made, cs =>
    match cs with
    | [] => .error .malformed
    | '"' :: rest => .ok (String.ofList made.reverse, rest)
    | '\\' :: rest =>
      match escape rest with
      | some (c, after) => textFrom fuel (c :: made) after
      | none => .error .malformed
    | c :: rest => if c.toNat < 32 then .error .malformed else textFrom fuel (c :: made) rest

/-- The text whose opening quote has been read. -/
def text (cs : List Char) : Reading String := textFrom (cs.length + 1) [] cs

/-! ## Values -/

/-- The rest behind a word, if the characters start with it. -/
def afterWord (word : String) (cs : List Char) : Option (List Char) :=
  if word.toList.isPrefixOf cs then some (cs.drop word.length) else none

/-- The names of values, with what they stand for. -/
def names : List (String × Value) :=
  [("null", .none), ("true", .bool true), ("false", .bool false), ("NaN", .float (.nan 0)),
    ("Infinity", .float (.infinite false)), ("-Infinity", .float (.infinite true))]

/-- A value that has a name. -/
def namedValue (cs : List Char) : Option (Value × List Char) :=
  names.findSome? fun (word, v) => (afterWord word cs).map fun rest => (v, rest)

/-- The entries with a value put under a text. -/
def putEntry (entries : List (Value × Value)) (key : String) (v : Value) : List (Value × Value) :=
  let isKey : Value → Bool
    | .str k => k == key
    | _ => false
  if entries.any (isKey ·.1) then entries.map fun (k, w) => if isKey k then (k, v) else (k, w)
  else entries ++ [(.str key, v)]

mutual

/-- A value; every step of reading takes a character or comes from one that was taken. -/
def value : Nat → List Char → Reading Value
  | 0, _ => .error .malformed
  | fuel + 1, cs =>
    match cs with
    | '"' :: rest => (text rest).map fun (s, after) => (.str s, after)
    | '\x7b' :: rest =>
      match skipSpace rest with
      | '\x7d' :: after => .ok (.dict [], after)
      | after => members fuel [] after
    | '[' :: rest =>
      match skipSpace rest with
      | ']' :: after => .ok (.list [], after)
      | after => items fuel [] after
    | cs =>
      match namedValue cs, cs with
      | some r, _ => .ok r
      | none, '-' :: rest => number true rest
      | none, cs => number false cs

/-- The items of a list up to its closing bracket. -/
def items : Nat → List Value → List Char → Except DocumentFault (Value × List Char)
  | 0, _, _ => .error .malformed
  | fuel + 1, made, cs => do
    let (v, rest) ← value fuel cs
    match skipSpace rest with
    | ',' :: after => items fuel (v :: made) (skipSpace after)
    | ']' :: after => .ok (.list (v :: made).reverse, after)
    | _ => .error .malformed

/-- The entries of a mapping up to its closing brace. -/
def members : Nat → List (Value × Value) → List Char →
    Except DocumentFault (Value × List Char)
  | 0, _, _ => .error .malformed
  | fuel + 1, made, cs =>
    match cs with
    | '"' :: rest => do
      let (key, rest) ← text rest
      match skipSpace rest with
      | ':' :: rest => do
        let (v, rest) ← value fuel (skipSpace rest)
        let made := putEntry made key v
        match skipSpace rest with
        | ',' :: after => members fuel made (skipSpace after)
        | '\x7d' :: after => .ok (.dict made, after)
        | _ => .error .malformed
      | _ => .error .malformed
    | _ => .error .malformed

end

/-- The value of a document. A mark of the byte order is not accepted. -/
def read (cs : List Char) : Except DocumentFault Value := do
  let (v, rest) ← value (2 * cs.length + 2) (skipSpace cs)
  if (skipSpace rest).isEmpty then pure v else throw .malformed

end Json

end Rulebook

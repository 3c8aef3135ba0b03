import Rulebook.Arguments
import Rulebook.Value.Text
import Rulebook.Number.Numeral
import Rulebook.Text.Blank
import Rulebook.Text.Word

/-!
# Converting values

What a class of values makes of another value: an integer of a number or a numeral, a text of
anything, a truth value of anything.
-/

namespace Rulebook

namespace Value

/-- The digits of a numeral without the underscores between them, if every underscore stands
between two digits. -/
def ungroup : List Char → Option (List Char)
  | [] => some []
  | [c] => if c == '_' then Option.none else some [c]
  | c :: '_' :: d :: rest =>
    if isAsciiDigit c && isAsciiDigit d then (ungroup (d :: rest)).map (c :: ·) else Option.none
  | c :: d :: rest => if c == '_' then Option.none else (ungroup (d :: rest)).map (c :: ·)

/-- The integer that a text is, between blanks. Its digits may be those of any script. -/
def intOfText (s : String) (shown : String) : Except Fault Int := do
  let (negative, body) := splitSign ((strip s.toList).map toAsciiDigit)
  match ungroup body with
  | some digits =>
    if digits.isEmpty || !digits.all isAsciiDigit then throw (.notAnInteger shown)
    if digits.length > maxDigits then throw (.tooManyDigits (some digits.length))
    let n : Int := natOfDigits digits
    pure (if negative then -n else n)
  | Option.none => throw (.notAnInteger shown)

/-- The integer part of a value. -/
def toInt (v : Value) : Except Fault Int :=
  match v with
  | .bool b => .ok (if b then 1 else 0)
  | .int n => .ok n
  | .float (.finite s m e) =>
    let n : Int := (m * twoPower e.toNat / twoPower (-e).toNat : Nat)
    .ok (if s then -n else n)
  | .float (.nan _) => .error (.raised "ValueError" "cannot convert float NaN to integer")
  | .float (.infinite _) =>
    .error (.raised "OverflowError" "cannot convert float infinity to integer")
  | .decimal (.finite s c e) =>
    let n : Int := (c * tenPower e.toNat / tenPower (-e).toNat : Nat)
    .ok (if s then -n else n)
  | .decimal (.nan ..) => .error (.raised "ValueError" "cannot convert NaN to integer")
  | .decimal (.infinite _) =>
    .error (.raised "OverflowError" "cannot convert Infinity to integer")
  | .fraction num den => .ok (num.tdiv den)
  | .str s => intOfText s (Quoted.encode s)
  | .bytes data =>
    intOfText (String.ofList (data.map fun b => Char.ofNat b.toNat)) (Quoted.encodeBytes data)
  | v => .error (.badArgument
      ("int() argument must be a string, a bytes-like object or a real number, not '" ++
        v.typeName ++ "'"))

/-- What a class makes of arguments: integers, texts and truth values, records of their fields in
order, and objects without anything. -/
def construct (c : ClassInfo) (args : List Value) : Except Fault Value :=
  if c.id == ClassInfo.ofInt.id then
    match args with
    | [] => .ok (.int 0)
    | v :: _ => v.toInt.map .int
  else if c.id == ClassInfo.ofStr.id then
    match args with
    | [] => .ok (.str "")
    | v :: _ => v.text.map .str
  else if c.id == ClassInfo.ofBool.id then
    match args with
    | [] => .ok (.bool false)
    | v :: _ => .ok (.bool v.truthy)
  else
    match c.fields with
    | some names => do
      let given ← Arguments.fill (c.qualname ++ ".__init__") 1 names [] args
      pure (.object 0 c (names.zip given))
    | Option.none =>
      if args.isEmpty then .ok (.blank 0)
      else .error (.badArgument (c.name ++ "() takes no arguments"))

end Value

end Rulebook

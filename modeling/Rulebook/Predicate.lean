import Rulebook.Pattern.Parser
import Rulebook.Shape
import Rulebook.Text.Fold
import Rulebook.Url
import Rulebook.Value.Access

/-!
# Predicates

Questions about a single value. Every one answers false for nothing, unless nothing is what it
asks about; values that cannot be compared are a fault, since they point at a wrong rule.

Dates are compared with a moment: a plain date with the day of the moment, a time without an
offset as one of the local zone. The zone is given in seconds.
-/

namespace Rulebook

namespace Predicate

/-! ## Presence -/

/-- Whether there is no value. -/
def isNull : Value → Bool
  | .none => true
  | _ => false

/-- Whether there is a value. -/
def isNotNull (v : Value) : Bool := !isNull v

/-- Nothing, blank texts and collections without elements are empty. -/
def isEmpty : Value → Bool
  | .none => true
  | .str s => isBlankText s.toList
  | v => v.length? == some 0

/-- Whether a value is not empty. -/
def isNotEmpty (v : Value) : Bool := isNotNull v && !isEmpty v

/-! ## Length and text -/

/-- The number of elements of a value, or of characters of its text if it has none. -/
def size (v : Value) : Except Fault Nat :=
  match v.length? with
  | some n => .ok n
  | none => v.text.map String.length

/-- Runs a test on a value that is there. -/
def ifPresent (v : Value) (test : Except Fault Bool) : Except Fault Bool :=
  match v with
  | .none => .ok false
  | _ => test

/-- Whether a value is at least so long. -/
def hasMinLength (v length : Value) : Except Fault Bool :=
  ifPresent v do
    let n ← size v
    Value.ordered .ge (.int n) length

/-- Whether a value is at most so long. -/
def hasMaxLength (v length : Value) : Except Fault Bool :=
  ifPresent v do
    let n ← size v
    Value.ordered .le (.int n) length

/-- Whether a pattern, given as a text or compiled, occurs in a text. -/
def occurs (pattern : Value) (text : String) : Except Fault Bool :=
  match pattern with
  | .str source =>
    match Pattern.parse? source .none with
    | some (n, _) => .ok (Pattern.search n text)
    | none => .error .badPattern
  | .pattern source flags =>
    match Pattern.parse? source flags with
    | some (n, _) => .ok (Pattern.search n text)
    | none => .error .badPattern
  | .bytes data =>
    match Pattern.parse? (String.ofList (data.map fun b => Char.ofNat b.toNat)) .none with
    | some _ => .error .patternOfBytes
    | none => .error .badPattern
  | v => do
    v.checkHashable
    .error .patternNotText

/-- Whether a pattern occurs in the text of a value. -/
def hasMatch (v pattern : Value) : Except Fault Bool :=
  ifPresent v do
    let text ← v.text
    occurs pattern text

/-- Whether one of the texts, tried in order, satisfies the test. -/
def anyAffix (method : String) (test : List Char → Bool) : List Value → Except Fault Bool
  | [] => .ok false
  | .str s :: rest => if test s.toList then .ok true else anyAffix method test rest
  | v :: _ => .error (.affixItemNotText method v.typeName)

/-- Whether a text, or one of a tuple of texts, satisfies the test. -/
def affix (method : String) (test : List Char → Bool) : Value → Except Fault Bool
  | .str s => .ok (test s.toList)
  | .tuple items => anyAffix method test items
  | v => .error (.affixNotText method v.typeName)

/-- Whether the text of a value starts with a text. -/
def startsWith (v start : Value) : Except Fault Bool :=
  ifPresent v do
    let text ← v.text
    affix "startswith" (fun cs => cs.isPrefixOf text.toList) start

/-- Whether the text of a value ends with a text. -/
def endsWith (v end_ : Value) : Except Fault Bool :=
  ifPresent v do
    let text ← v.text
    affix "endswith" (fun cs => cs.isSuffixOf text.toList) end_

/-- Whether a text is part of another one when case is folded. -/
def containsFolded (text : String) : Value → Except Fault Bool
  | .str part => .ok (Value.isInfix (foldCase part.toList) (foldCase text.toList))
  | v => do
    let found ← v.getAttribute "casefold"
    .error (.notCallable found.typeName)

/-- Whether the text of a value contains a text; case counts only if asked for. -/
def contains (v part caseSensitive : Value) : Except Fault Bool :=
  ifPresent v do
    let text ← v.text
    if caseSensitive.truthy then Value.isIn part (.str text) else containsFolded text part

/-! ## Comparison -/

/-- Whether two values are equal. -/
def equals (v other : Value) : Except Fault Bool := Value.equals v other

/-- Whether a value is above another one. -/
def greaterThan (v threshold : Value) : Except Fault Bool :=
  ifPresent v (Value.ordered .gt v threshold)

/-- Whether a value is below another one. -/
def lessThan (v threshold : Value) : Except Fault Bool :=
  ifPresent v (Value.ordered .lt v threshold)

/-- Whether a value lies between two others, which count as well. -/
def between (v low high : Value) : Except Fault Bool :=
  ifPresent v do
    if ← Value.ordered .le low v then Value.ordered .le v high else pure false

/-! ## Numbers -/

/-- Whether a value is a real or decimal number; truth values are none. -/
def isNumber : Value → Bool
  | .int _ => true
  | .float _ => true
  | .decimal _ => true
  | .fraction _ _ => true
  | _ => false

/-- Zero. -/
def zero : Value := .int 0

/-- Whether a value is a number above zero. -/
def isPositive (v : Value) : Except Fault Bool :=
  if isNumber v then Value.ordered .gt v zero else .ok false

/-- Whether a value is a number below zero. -/
def isNegative (v : Value) : Except Fault Bool :=
  if isNumber v then Value.ordered .lt v zero else .ok false

/-- Whether a value is a number other than zero. -/
def isNotZero (v : Value) : Except Fault Bool :=
  if isNumber v then (Value.equals v zero).map not else .ok false

/-! ## Dates -/

/-- The moment that a value is. What is none lacks the attribute that is asked of it. -/
def moment (needed : String) : Value → Except Fault DateTime
  | .datetime t => .ok t
  | v => do
    let found ← v.getAttribute needed
    .error (.notCallable found.typeName)

/-- A fault of the calendar as a fault. -/
def zoned (r : Except ZoneError DateTime) : Except Fault DateTime := r.mapError .zone

/-- The current moment in the form in which a time is compared with it: if only one of them has
an offset, the moment is put on the local clock, and keeps the offset only if the time has one. -/
def align (zone : Int) (t now : DateTime) : Except Fault DateTime :=
  match t.offset, now.offset with
  | some _, none => zoned (now.toLocal zone)
  | none, some _ => (zoned (now.toLocal zone)).map fun r => { r with offset := none }
  | _, _ => .ok now

/-- Whether a date or time stands in the given order to the current moment. -/
def orderedWithNow (c : Comparison) (zone : Int) (v now : Value) : Except Fault Bool :=
  match v with
  | .date d => do
    let n ← moment "date" now
    pure (c.holds (compare d.ordinal n.date.ordinal))
  | .datetime t => do
    let n ← moment "tzinfo" now
    let n ← align zone t n
    match t.compare? n with
    | some o => pure (c.holds o)
    | none => .error .mixedOffsets
  | _ => .ok false

/-- Whether a date or time is after the current moment. -/
def isFuture (zone : Int) (v now : Value) : Except Fault Bool := orderedWithNow .gt zone v now

/-- Whether a date or time is before the current moment. -/
def isPast (zone : Int) (v now : Value) : Except Fault Bool := orderedWithNow .lt zone v now

/-- A time on the clock of another one, if both have offsets. -/
def onClockOf (t now : DateTime) : Except Fault DateTime :=
  match t.offset, now.offset with
  | some a, some b => zoned (t.moveZone a b)
  | _, _ => .ok t

/-- Whether a date or time falls on the day of the current moment. -/
def isToday (zone : Int) (v now : Value) : Except Fault Bool :=
  match v with
  | .date d => do
    let n ← moment "date" now
    pure (d == n.date)
  | .datetime t => do
    let n ← moment "tzinfo" now
    let n ← align zone t n
    let moved ← onClockOf t n
    pure (moved.date == n.date)
  | _ => .ok false

/-! ## Membership and collections -/

/-- Whether a value is in a container. -/
def isIn (v allowed : Value) : Except Fault Bool := Value.isIn v allowed

/-- Whether a value has exactly so many elements. -/
def hasCount (v count : Value) : Except Fault Bool :=
  match v.length? with
  | some n => Value.equals (.int n) count
  | none => .ok false

/-- Whether a value is a collection with elements. -/
def isNonEmptyCollection (v : Value) : Bool := v.length?.any (0 < ·)

/-! ## Shape -/

/-- Whether the text of a value has a shape. -/
def hasShape (shape : Pattern.Node) (v : Value) : Except Fault Bool :=
  ifPresent v (v.text.map (Shape.holds shape))

/-- Whether a value is made of letters and blanks. -/
def isAlpha (v : Value) : Except Fault Bool := hasShape Shape.alphabetic v

/-- Whether a value is made of letters, digits and underscores. -/
def isAlphanumeric (v : Value) : Except Fault Bool := hasShape Shape.alphanumeric v

/-- Whether a value is made of digits. -/
def isNumeric (v : Value) : Except Fault Bool := hasShape Shape.numeric v

/-- Whether a value is an address of electronic mail. -/
def isEmail (v : Value) : Except Fault Bool := hasShape Shape.email v

/-- Whether a value is an absolute web address. -/
def isUrl (v : Value) : Except Fault Bool :=
  ifPresent v (v.text.map fun s => Url.isWebAddress s.toList)

end Predicate

end Rulebook

import Rulebook.Document.Yaml.Base64
import Rulebook.Document.Yaml.Node
import Rulebook.Text.Lower
import Rulebook.Value.Access
import Rulebook.Value.Convert

/-!
# What a document means

The value of a node is made by its tag. A mapping takes the entries of those that are merged into
it before its own; keys have to be hashable. Numbers and moments that do not exist are faults of
their own kind; tags that stand for nothing are faults of the document.

* `Node.value`: the value of a node.
-/

namespace Rulebook

namespace Yaml

/-- What cannot be made, with the kind and text of its fault. -/
def cannot {α : Type} (kind message : String) : Except DocumentFault α :=
  .error (.fault (.raised kind message))

/-- A fault of a value as one of the document. -/
def lift {α : Type} (r : Except Fault α) : Except DocumentFault α := r.mapError .fault

/-! ## Scalars -/

/-- A text without underscores. -/
def ungrouped (text : String) : List Char := text.toList.filter (· != '_')

/-- The sign of a number and what is behind it. There has to be a first character. -/
def signed (cs : List Char) : Except DocumentFault (Bool × List Char) :=
  if cs.isEmpty then .error (.fault (.indexOutOfRange "string")) else .ok (splitSign cs)

/-- The letters that may stand behind a zero in front of the digits of a base. -/
def baseMarks (base : Nat) : List Char :=
  if base == 2 then ['b', 'B'] else if base == 8 then ['o', 'O'] else ['x', 'X']

/-- The integer of a text in base 2, 8 or 16, which may have a sign and name its base. -/
def integerOfBase (base : Nat) (cs : List Char) : Except DocumentFault Int :=
  let (negative, body) := splitSign (strip cs)
  let digits := match body with
    | '0' :: mark :: rest => if (baseMarks base).contains mark then rest else body
    | _ => body
  let isDigit (c : Char) : Bool := isHex c && digitValue c < base
  if digits.isEmpty || !digits.all isDigit then
    cannot "ValueError" ("invalid literal for int() with base " ++ toString base ++ ": " ++
      Quoted.encode (String.ofList cs))
  else
    let n : Int := natOfBase base digits
    .ok (if negative then -n else n)

/-- The integer of a text in base 10. -/
def decimalInteger (cs : List Char) : Except DocumentFault Int :=
  lift (Value.intOfText (String.ofList cs) (Quoted.encode (String.ofList cs)))

/-- The parts of a text between colons. -/
def colonParts (cs : List Char) : List (List Char) := cs.splitOn ':'

/-- The sum of parts in base 60. -/
def sixties (parts : List Int) : Int := parts.foldl (fun n d => n * 60 + d) 0

/-- The integer of a text. -/
def integer (text : String) : Except DocumentFault Int := do
  let (negative, cs) ← signed (ungrouped text)
  let n ← match cs with
    | [] => throw (.fault (.indexOutOfRange "string"))
    | ['0'] => pure 0
    | '0' :: 'b' :: digits => integerOfBase 2 digits
    | '0' :: 'x' :: digits => integerOfBase 16 digits
    | '0' :: _ => integerOfBase 8 cs
    | _ =>
      if cs.contains ':' then do
        let parts ← (colonParts cs).mapM decimalInteger
        pure (sixties parts)
      else decimalInteger cs
  pure (if negative then -n else n)

/-- A floating-point number from its text. -/
def binary (cs : List Char) : Except DocumentFault Binary :=
  match Binary.ofText? 0 (String.ofList ((strip cs).map toAsciiDigit)) with
  | some x => .ok x
  | none =>
    cannot "ValueError" ("could not convert string to float: " ++ Quoted.encode (String.ofList cs))

/-- The sum of parts in base 60, added from the last part on, each with its weight. -/
def binarySixties : Binary → Nat → List Binary → Binary
  | sum, _, [] => sum
  | sum, weight, d :: ds => binarySixties (sum.add (d.mulNat weight)) (weight * 60) ds

/-- The floating-point number of a text. -/
def float (text : String) : Except DocumentFault Binary := do
  let (negative, cs) ← signed (lowerText (String.ofList (ungrouped text))).toList
  let x ←
    if cs == ".inf".toList then pure (.infinite false)
    else if cs == ".nan".toList then pure (.nan 0)
    else if cs.contains ':' then do
      let parts ← (colonParts cs).mapM binary
      pure (binarySixties (Binary.ofInt 0) 1 parts.reverse)
    else binary cs
  pure (if negative then x.neg else x)

/-- The truth value of a word. -/
def truth (text : String) : Except DocumentFault Bool :=
  let word := lowerText text
  if ["yes", "true", "on"].contains word then .ok true
  else if ["no", "false", "off"].contains word then .ok false
  else cannot "KeyError" word

/-- The bytes of a text in base 64. -/
def bytes (text : String) : Except DocumentFault (List UInt8) :=
  if text.toList.all (·.toNat < 128) then
    match Base64.decode? text.toList with
    | some data => .ok data
    | none => .error .malformed
  else .error .malformed

/-! ## Moments -/

/-- The numbers of a written moment. The fraction is given by its digits, and the zone, if there
is one, by how far its clock is ahead. -/
structure Moment where
  year : Nat
  month : Nat
  day : Nat
  time : Option (Nat × Nat × Nat × List Char × Option Int)

/-- Between `least` and `most` digits and the rest. -/
def digitsOf (least most : Nat) (cs : List Char) : Option (Nat × List Char) :=
  let digits := (cs.take most).takeWhile isAsciiDigit
  if digits.length < least then none else some (natOfDigits digits, cs.drop digits.length)

/-- The rest behind a character. -/
def after (c : Char) : List Char → Option (List Char)
  | d :: rest => if c == d then some rest else none
  | [] => none

/-- Whether nothing is left but one line feed. -/
def atTextEnd (cs : List Char) : Bool := cs.isEmpty || cs == ['\n']

/-- How far the clock of a moment is ahead. -/
def zoneOf (cs : List Char) : Option (Option Int) :=
  if atTextEnd cs then some none
  else
    match cs.dropWhile fun c => c == ' ' || c == '\t' with
    | 'Z' :: rest => if atTextEnd rest then some (some 0) else none
    | sign :: rest =>
      if sign == '+' || sign == '-' then do
        let (hours, rest) ← digitsOf 1 2 rest
        let (minutes, rest) ← match rest with
          | ':' :: rest => digitsOf 2 2 rest
          | rest => some (0, rest)
        let ahead := DateTime.offsetOfSeconds (hours * 3600 + minutes * 60)
        if atTextEnd rest then some (some (if sign == '-' then -ahead else ahead)) else none
      else none
    | [] => none

/-- The gap between a day and a time. -/
def timeGap (cs : List Char) : Option (List Char) :=
  match cs with
  | [] => none
  | c :: rest =>
    if c == 'T' || c == 't' then some rest
    else if c == ' ' || c == '\t' then some (cs.dropWhile fun c => c == ' ' || c == '\t')
    else none

/-- The numbers of a written moment. -/
def momentOf (cs : List Char) : Option Moment := do
  let (year, rest) ← digitsOf 4 4 cs
  let rest ← after '-' rest
  let (month, rest) ← digitsOf 1 2 rest
  let rest ← after '-' rest
  let (day, rest) ← digitsOf 1 2 rest
  if atTextEnd rest then some ⟨year, month, day, none⟩
  else do
    let rest ← timeGap rest
    let (hour, rest) ← digitsOf 1 2 rest
    let rest ← after ':' rest
    let (minute, rest) ← digitsOf 2 2 rest
    let rest ← after ':' rest
    let (second, rest) ← digitsOf 2 2 rest
    let (fraction, rest) := match rest with
      | '.' :: rest => (rest.takeWhile isAsciiDigit, rest.dropWhile isAsciiDigit)
      | rest => ([], rest)
    let zone ← zoneOf rest
    some ⟨year, month, day, some (hour, minute, second, fraction, zone)⟩

/-- A day that is on the calendar. -/
def dateOf (year month day : Nat) : Except DocumentFault Date :=
  if year == 0 then cannot "ValueError" "year 0 is out of range"
  else if month == 0 || month > 12 then cannot "ValueError" "month must be in 1..12"
  else
    match Date.ofYmd? year month day with
    | some d => .ok d
    | none => cannot "ValueError" "day is out of range for month"

/-- A zone of less than a day. -/
def checkZone (zone : Option Int) : Except DocumentFault Unit :=
  match zone with
  | none => .ok ()
  | some ahead =>
    if ahead.natAbs < microsPerDay then .ok ()
    else cannot "ValueError" ("offset must be a timedelta strictly between " ++
      "-timedelta(hours=24) and timedelta(hours=24), not " ++ durationText ahead ++ ".")

/-- The day or time of a text. -/
def timestamp (text : String) : Except DocumentFault Value := do
  match momentOf text.toList with
  | none => throw (.fault (.noAttribute "NoneType" "groupdict"))
  | some ⟨year, month, day, none⟩ => do
    let d ← dateOf year month day
    pure (.date d)
  | some ⟨year, month, day, some (hour, minute, second, fraction, zone)⟩ => do
    checkZone zone
    let d ← dateOf year month day
    if hour > 23 then cannot "ValueError" "hour must be in 0..23"
    if minute > 59 then cannot "ValueError" "minute must be in 0..59"
    if second > 59 then cannot "ValueError" "second must be in 0..59"
    let micros := natOfDigits ((fraction ++ List.replicate 6 '0').take 6)
    let time := (hour * 3600 + minute * 60 + second) * 1000000 + micros
    match DateTime.ofDate? d time zone with
    | some t => pure (.datetime t)
    | none => cannot "ValueError" "day is out of range for month"

/-! ## Merging -/

/-- The tag of a node. -/
def Node.tag : Node → String
  | .scalar tag _ => tag
  | .sequence tag _ => tag
  | .mapping tag _ => tag

/-- The key of an entry; the mark for a value is a text where a key is meant. -/
def plainKey : Node → Node
  | .scalar tag text => .scalar (if tag == standard "value" then standard "str" else tag) text
  | n => n

/-- The entries of nodes that have to be mappings. -/
def mappingParts : List Node → Except DocumentFault (List (List (Node × Node)))
  | [] => .ok []
  | .mapping _ entries :: rest => (mappingParts rest).map (entries :: ·)
  | _ :: _ => .error .malformed

/-- The entries that a node gives to the mapping it is merged into. Of several mappings the first
one counts most, so it comes last. -/
def mergedEntries : Node → Except DocumentFault (List (Node × Node))
  | .mapping _ entries => .ok entries
  | .sequence _ items => (mappingParts items).map fun parts => parts.reverse.flatten
  | .scalar _ _ => .error .malformed

/-- The entries that are merged into a mapping. -/
def allMerged : List (Node × Node) → Except DocumentFault (List (Node × Node))
  | [] => .ok []
  | (k, v) :: rest => do
    let merged ← if k.tag == standard "merge" then mergedEntries v else pure []
    let others ← allMerged rest
    pure (merged ++ others)

/-- The entries of a mapping behind those that are merged into it. -/
def mergeEntries (entries : List (Node × Node)) : Except DocumentFault (List (Node × Node)) := do
  let merged ← allMerged entries
  let own := entries.filter fun (k, _) => k.tag != standard "merge"
  pure (merged ++ own.map fun (k, v) => (plainKey k, v))

mutual

/-- The node with all merging done inside of it. -/
def Node.merged : Node → Except DocumentFault Node
  | .scalar tag text => .ok (.scalar tag text)
  | .sequence tag items => do
    let items ← mergedAll items
    pure (.sequence tag items)
  | .mapping tag entries => do
    let entries ← mergedPairs entries
    if tag == standard "map" || tag == standard "set" then do
      let entries ← mergeEntries entries
      pure (.mapping tag entries)
    else pure (.mapping tag entries)

/-- The nodes with all merging done inside of them. -/
def mergedAll : List Node → Except DocumentFault (List Node)
  | [] => .ok []
  | n :: rest => do
    let n ← n.merged
    let rest ← mergedAll rest
    pure (n :: rest)

/-- The entries with all merging done inside of them. -/
def mergedPairs : List (Node × Node) → Except DocumentFault (List (Node × Node))
  | [] => .ok []
  | (k, v) :: rest => do
    let k ← k.merged
    let v ← v.merged
    let rest ← mergedPairs rest
    pure ((k, v) :: rest)

end

/-! ## Values -/

mutual

/-- The text that a node stands for. A mapping may give one under the mark for a value. -/
def Node.text : Node → Except DocumentFault String
  | .scalar _ text => .ok text
  | .sequence _ _ => .error .malformed
  | .mapping _ entries => valueText entries

/-- The text under the mark for a value. -/
def valueText : List (Node × Node) → Except DocumentFault String
  | [] => .error .malformed
  | (k, v) :: rest => if k.tag == standard "value" then v.text else valueText rest

end

/-- What a text means that has a tag. -/
def scalarValue (tag text : String) : Except DocumentFault Value :=
  if tag == standard "str" then .ok (.str text)
  else if tag == standard "null" then .ok .none
  else if tag == standard "bool" then (truth text).map .bool
  else if tag == standard "int" then (integer text).map .int
  else if tag == standard "float" then (float text).map .float
  else if tag == standard "timestamp" then timestamp text
  else if tag == standard "binary" then (bytes text).map .bytes
  else .error .malformed

/-- Whether a tag is one of scalars. -/
def isScalarTag (tag : String) : Bool :=
  ["str", "null", "bool", "int", "float", "timestamp", "binary"].any (tag == standard ·)

/-- Whether a value may be a key of a document. -/
def mayBeKey : Value → Bool
  | .list _ => false
  | .dict _ => false
  | .set _ => false
  | _ => true

mutual

/-- The value of a node in which all merging is done. -/
def Node.value : Node → Except DocumentFault Value
  | .scalar tag text => scalarValue tag text
  | .sequence tag items =>
    if tag == standard "seq" then do
      let vs ← valuesOf items
      pure (.list vs)
    else if tag == standard "omap" || tag == standard "pairs" then do
      let vs ← pairsOf items
      pure (.list vs)
    else .error .malformed
  | .mapping tag entries =>
    if tag == standard "map" then do
      let made ← entriesOf entries
      let made ← lift (Value.mapping made)
      pure (.dict made)
    else if tag == standard "set" then do
      let made ← entriesOf entries
      let made ← lift (Value.mapping made)
      pure (.set (made.map Prod.fst))
    else if isScalarTag tag then do
      let text ← valueText entries
      scalarValue tag text
    else .error .malformed

/-- The values of nodes in order. -/
def valuesOf : List Node → Except DocumentFault (List Value)
  | [] => .ok []
  | n :: rest => do
    let v ← n.value
    let vs ← valuesOf rest
    pure (v :: vs)

/-- Keys and values in order. -/
def entriesOf : List (Node × Node) → Except DocumentFault (List (Value × Value))
  | [] => .ok []
  | (k, v) :: rest => do
    let key ← k.value
    if !mayBeKey key then throw .malformed
    let value ← v.value
    let others ← entriesOf rest
    pure ((key, value) :: others)

/-- The pairs that mappings of one entry stand for. -/
def pairsOf : List Node → Except DocumentFault (List Value)
  | [] => .ok []
  | .mapping _ entries :: rest => do
    let pair ← pairOf entries
    let others ← pairsOf rest
    pure (pair :: others)
  | _ :: _ => .error .malformed

/-- The pair of the only entry of a mapping. -/
def pairOf : List (Node × Node) → Except DocumentFault Value
  | [(k, v)] => do
    let key ← k.value
    let value ← v.value
    pure (.tuple [key, value])
  | _ => .error .malformed

end

/-- The value that a node means. -/
def Node.meaning (n : Node) : Except DocumentFault Value := do
  let n ← n.merged
  n.value

end Yaml

end Rulebook

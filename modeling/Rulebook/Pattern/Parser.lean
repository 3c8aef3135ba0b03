import Rulebook.Pattern
import Rulebook.Number.Numeral
import Rulebook.Text.Identifier

/-!
# Reading patterns

A pattern is read in one pass from left to right. Every reader either fails, or gives a part and
leaves a rest of the text; parts inside parentheses are read by the same readers, with one unit
less of fuel, and no pattern nests deeper than it has characters.

* `parse?`: the pattern that a text is, if it is one.
-/

namespace Rulebook

namespace Pattern

/-- What is known while a pattern is read. -/
structure Reading where
  rest : List Char
  flags : PatternFlags
  /-- The number of the next group. -/
  nextGroup : Nat
  /-- The widths of the groups that are closed. -/
  closed : List (Nat × (Nat × Option Nat))
  names : List (String × Nat)
  /-- Inside a look behind: the number of the first group that was opened there. -/
  behindFrom : Option Nat
  /-- Groups that a choice refers to. -/
  chosen : List Nat

/-- A reader of a part of a pattern. -/
abbrev Reader := StateT Reading Option

namespace Reader

/-- The next character, without taking it. -/
def peek : Reader (Option Char) := do return (← get).rest.head?

/-- Takes the next character. -/
def next : Reader Char := do
  let s ← get
  match s.rest with
  | c :: rest => set { s with rest }; return c
  | [] => failure

/-- Takes the next character if it is the given one. -/
def accept (c : Char) : Reader Bool := do
  let s ← get
  match s.rest with
  | d :: rest => if c == d then do set { s with rest }; return true else return false
  | [] => return false

/-- Takes characters that satisfy a test, at most the given number. -/
def takeUpTo (n : Nat) (test : Char → Bool) : Reader (List Char) := do
  let s ← get
  let taken := (s.rest.take n).takeWhile test
  set { s with rest := s.rest.drop taken.length }
  return taken

/-- Takes all characters from here on that satisfy a test. -/
def takeAll (test : Char → Bool) : Reader (List Char) := do
  let s ← get
  set { s with rest := s.rest.dropWhile test }
  return s.rest.takeWhile test

/-- Takes a nonempty text and the character that ends it. -/
def takeUntil (stop : Char) : Reader String := do
  let taken ← takeAll (· != stop)
  if taken.isEmpty then failure
  let _ ← next
  return String.ofList taken

end Reader

open Reader

/-- How characters are compared under the options. -/
def caseRule (flags : PatternFlags) : CaseRule :=
  if flags.ignoreCase then (if flags.ascii then .ascii else .full) else .exact

/-- Whether a character is a hexadecimal digit. -/
def isHexDigit (c : Char) : Bool :=
  isAsciiDigit c || ('a' ≤ c && c ≤ 'f') || ('A' ≤ c && c ≤ 'F')

/-- Whether a character is an octal digit. -/
def isOctalDigit (c : Char) : Bool := '0' ≤ c && c ≤ '7'

/-- Whether a character is an ASCII letter. -/
def isAsciiLetter (c : Char) : Bool := ('a' ≤ c && c ≤ 'z') || ('A' ≤ c && c ≤ 'Z')

/-- The character that a letter behind a backslash stands for. -/
def escapedControl? : Char → Option Char
  | 'a' => some (Char.ofNat 7)
  | 'b' => some (Char.ofNat 8)
  | 'f' => some (Char.ofNat 12)
  | 'n' => some '\n'
  | 'r' => some '\r'
  | 't' => some '\t'
  | 'v' => some (Char.ofNat 11)
  | '\\' => some '\\'
  | _ => none

/-- The class of characters that a letter behind a backslash stands for. -/
def escapedCategory? (narrow : Bool) : Char → Option SetItem
  | 'd' => some (.category narrow false .digit)
  | 'D' => some (.category narrow true .digit)
  | 's' => some (.category narrow false .blank)
  | 'S' => some (.category narrow true .blank)
  | 'w' => some (.category narrow false .word)
  | 'W' => some (.category narrow true .word)
  | _ => none

/-- The place that a letter behind a backslash stands for. -/
def escapedAnchor? (narrow : Bool) : Char → Option Anchor
  | 'A' => some .start
  | 'Z' => some .finalEnd
  | 'b' => some (.wordEdge narrow)
  | 'B' => some (.noWordEdge narrow)
  | _ => none

/-- A character given by exactly `n` hexadecimal digits. -/
def hexEscape (n : Nat) : Reader Char := do
  let digits ← takeUpTo n isHexDigit
  if digits.length != n then failure
  let code := natOfBase 16 digits
  if code > 0x10ffff then failure
  return Char.ofNat code

/-- A character given by octal digits, the first of which has been taken. -/
def octalEscape (first : Char) : Reader Char := do
  let digits ← takeUpTo 2 isOctalDigit
  let code := natOfBase 8 (first :: digits)
  if code > 0o377 then failure
  return Char.ofNat code

/-- What follows a backslash inside a set of characters. -/
def setEscape (flags : PatternFlags) : Reader SetItem := do
  let c ← next
  match escapedControl? c, escapedCategory? flags.ascii c with
  | some d, _ => return .char d
  | none, some item => return item
  | none, none =>
    if c == 'x' then return .char (← hexEscape 2)
    else if c == 'u' then return .char (← hexEscape 4)
    else if c == 'U' then return .char (← hexEscape 8)
    else if isOctalDigit c then return .char (← octalEscape c)
    else if isAsciiDigit c || isAsciiLetter c then failure
    else return .char c

/-- Whether a group may be referred to: it is closed, and not opened in the same look behind. -/
def checkReference (index : Nat) : Reader Unit := do
  let s ← get
  if (s.closed.lookup index).isNone then failure
  match s.behindFrom with
  | some first => if first ≤ index then failure
  | none => return ()

/-- A reference to a group by a number whose first digit has been taken, or an octal escape of
three digits. -/
def numberEscape (flags : PatternFlags) (first : Char) : Reader Node := do
  let s ← get
  let more := (s.rest.take 2).takeWhile isOctalDigit
  if isOctalDigit first && more.length == 2 then
    let code := natOfBase 8 (first :: more)
    if code > 0o377 then failure
    set { s with rest := s.rest.drop 2 }
    return .char (caseRule flags) (Char.ofNat code)
  else
    let index := natOfDigits (first :: (← takeUpTo 1 isAsciiDigit))
    checkReference index
    return .backref (caseRule flags) index

/-- What follows a backslash outside of a set of characters. -/
def escape (flags : PatternFlags) : Reader Node := do
  let c ← next
  match escapedCategory? flags.ascii c, escapedAnchor? flags.ascii c, escapedControl? c with
  | some item, _, _ => return .set .exact false [item]
  | none, some a, _ => return .anchor a
  | none, none, some d => return .char (caseRule flags) d
  | none, none, none =>
    if c == 'x' then return .char (caseRule flags) (← hexEscape 2)
    else if c == 'u' then return .char (caseRule flags) (← hexEscape 4)
    else if c == 'U' then return .char (caseRule flags) (← hexEscape 8)
    else if c == '0' then return .char (caseRule flags) (← octalEscape c)
    else if isAsciiDigit c then numberEscape flags c
    else if isAsciiLetter c then failure
    else return .char (caseRule flags) c

/-- A member of a set of characters, or the first end of a range. -/
def setMember (flags : PatternFlags) (c : Char) : Reader SetItem :=
  if c == '\\' then setEscape flags else return .char c

/-- The members of a set of characters up to the closing bracket, which does not close an empty
set. -/
def setItems (flags : PatternFlags) : Nat → List SetItem → Reader (List SetItem)
  | 0, _ => failure
  | fuel + 1, items => do
    let c ← next
    if c == ']' && !items.isEmpty then return items.reverse
    let low ← setMember flags c
    if ← accept '-' then
      let d ← next
      if d == ']' then return (.char '-' :: low :: items).reverse
      let high ← setMember flags d
      match low, high with
      | .char a, .char b =>
        if b < a then failure
        setItems flags fuel (.range a.toNat b.toNat :: items)
      | _, _ => failure
    else setItems flags fuel (low :: items)

/-- A set of characters behind its opening bracket. -/
def charSet (flags : PatternFlags) : Reader Node := do
  let negated ← accept '^'
  let items ← setItems flags ((← get).rest.length + 1) []
  return .set (caseRule flags) negated items

/-- The bounds of a repetition behind an opening brace, if what follows are bounds. -/
def bounds? : Reader (Option (Nat × Option Nat)) := do
  let s ← get
  let low ← takeAll isAsciiDigit
  let high ← if ← accept ',' then takeAll isAsciiDigit else pure low
  if ← accept '}' then
    let least := natOfDigits low
    let most := if high.isEmpty then none else some (natOfDigits high)
    if least ≥ 4294967295 || most.any (· ≥ 4294967295) then failure
    if most.any (· < least) then failure
    return some (least, most)
  else do
    set s
    return none

/-- Whether a part may be repeated: it is no place and no repetition. -/
def isRepeatable : Node → Bool
  | .anchor _ => false
  | .repeat_ .. => false
  | _ => true

/-- The kind of a repetition, by what follows its bounds. -/
def greed : Reader Greed := do
  if ← accept '?' then return .lazy
  if ← accept '+' then return .possessive
  return .greedy

/-- The option that a letter stands for, and whether it says which characters count as letters. -/
def setFlag (flags : PatternFlags) (on : Bool) : Char → Option PatternFlags
  | 'i' => some { flags with ignoreCase := on }
  | 'm' => some { flags with multiline := on }
  | 's' => some { flags with dotAll := on }
  | 'x' => some { flags with verbose := on }
  | 'a' => if on then some { flags with ascii := true } else none
  | 'u' => if on then some { flags with ascii := false } else none
  | _ => none

/-- The options of a list of letters. -/
def setFlags (flags : PatternFlags) (on : Bool) (letters : List Char) : Option PatternFlags :=
  letters.foldlM (fun f c => setFlag f on c) flags

/-- The options behind a question mark: `none` for the rest if they hold for the whole pattern. -/
def inlineFlags (flags : PatternFlags) (first : Char) : Reader (PatternFlags × Bool) := do
  let isLetter (c : Char) := isAsciiLetter c
  let more ← if first == '-' then pure [] else takeAll isLetter
  let on := if first == '-' then [] else first :: more
  if on.contains 'a' && on.contains 'u' then failure
  let stop ← if first == '-' then pure '-' else next
  let added ← (setFlags flags true on : Option PatternFlags)
  if stop == ')' then return (added, true)
  else if stop == ':' then return (added, false)
  else if stop == '-' then do
    let off ← takeAll isLetter
    if off.isEmpty || off.any on.contains then failure
    if (← next) != ':' then failure
    return (← (setFlags added false off : Option PatternFlags), false)
  else failure

/-- Opens a group and gives its number. -/
def openGroup (name : Option String) : Reader Nat := do
  let s ← get
  match name with
  | none => set { s with nextGroup := s.nextGroup + 1 }
  | some n =>
    if !isIdentifier n || (s.names.lookup n).isSome then failure
    set { s with nextGroup := s.nextGroup + 1, names := (n, s.nextGroup) :: s.names }
  return s.nextGroup

/-- The widths of closed groups. -/
def groupWidth (s : Reading) (index : Nat) : Nat × Option Nat :=
  (s.closed.lookup index).getD (0, none)

/-- Closes a group. -/
def closeGroup (index : Nat) (body : Node) : Reader Unit :=
  modify fun s => { s with closed := (index, body.width (groupWidth s)) :: s.closed }

/-- Takes a closing parenthesis. -/
def closing : Reader Unit := do if (← next) != ')' then failure

/-- The number of a group that is named or numbered in a choice. -/
def chosenGroup (name : String) : Reader Nat := do
  let s ← get
  let index ←
    if isIdentifier name then (s.names.lookup name : Option Nat)
    else if name.toList.all isAsciiDigit then pure (natOfDigits name.toList)
    else failure
  if index == 0 then failure
  if s.behindFrom.isSome then checkReference index
  set { s with chosen := index :: s.chosen }
  return index

/-- What a parenthesis holds: a part, options for the whole pattern, or a comment. -/
inductive Parenthesis where
  | part (n : Node)
  | options (flags : PatternFlags)
  | comment

/-- Reads the parts of a sequence. The readers of choices inside are given. -/
structure Readers where
  branches : PatternFlags → Reader Node
  sequence : PatternFlags → Reader Node

/-- A part behind `(?<=` and the like. -/
def lookBehind (rs : Readers) (flags : PatternFlags) (negated : Bool) : Reader Node := do
  let before := (← get).behindFrom
  modify fun s => { s with behindFrom := some (before.getD s.nextGroup) }
  let body ← rs.branches flags
  modify fun s => { s with behindFrom := before }
  closing
  let s ← get
  match body.width (groupWidth s) with
  | (low, some high) => if low != high then failure else return .behind negated low body
  | _ => failure

/-- A part of a pattern whose choice depends on a group. -/
def choice (rs : Readers) (flags : PatternFlags) : Reader Node := do
  let index ← chosenGroup (← takeUntil ')')
  let yes ← rs.sequence flags
  let no ← if ← accept '|' then rs.sequence flags else pure (.seq [])
  closing
  return .choice index yes no

/-- A capturing group. -/
def capture (rs : Readers) (flags : PatternFlags) (name : Option String) : Reader Node := do
  let index ← openGroup name
  let body ← rs.branches flags
  closing
  closeGroup index body
  return .group index body

/-- What follows an opening parenthesis. -/
def parenthesis (rs : Readers) (flags : PatternFlags) : Reader Parenthesis := do
  if !(← accept '?') then return .part (← capture rs flags none)
  let c ← next
  if c == 'P' then
    if ← accept '<' then return .part (← capture rs flags (some (← takeUntil '>')))
    else if ← accept '=' then
      let name ← takeUntil ')'
      match (← get).names.lookup name with
      | some index => do
        checkReference index
        return .part (.backref (caseRule flags) index)
      | none => failure
    else failure
  else if c == ':' then do
    let body ← rs.branches flags
    closing
    return .part (.seq [body])
  else if c == '#' then do
    let _ ← takeAll (· != ')')
    closing
    return .comment
  else if c == '=' || c == '!' then do
    let body ← rs.branches flags
    closing
    return .part (.ahead (c == '!') body)
  else if c == '<' then do
    let d ← next
    if d == '=' || d == '!' then return .part (← lookBehind rs flags (d == '!')) else failure
  else if c == '(' then return .part (← choice rs flags)
  else if c == '>' then do
    let body ← rs.branches flags
    closing
    return .part (.atomic body)
  else do
    let (inner, whole) ← inlineFlags flags c
    if whole then return .options inner
    let body ← rs.branches inner
    closing
    return .part (.seq [body])

/-- Replaces the last part by a repetition of it. -/
def repeatLast (parts : List Node) (least : Nat) (most : Option Nat) : Reader (List Node) := do
  match parts with
  | [] => failure
  | last :: before =>
    if !isRepeatable last then failure
    let g ← greed
    return .repeat_ g least most last :: before

/-- The parts of a sequence, read in reverse up to a bar, a closing parenthesis or the end. Options
for the whole pattern may stand where nothing has been read yet. -/
def parts (rs : Readers) (first : Bool) : Nat → PatternFlags → List Node → Reader (List Node)
  | 0, _, _ => failure
  | fuel + 1, flags, read => do
    match ← peek with
    | none => return read
    | some c =>
      if c == '|' || c == ')' then return read
      let _ ← next
      if flags.verbose && (c == ' ' || (0x9 ≤ c.toNat && c.toNat ≤ 0xd)) then
        parts rs first fuel flags read
      else if flags.verbose && c == '#' then do
        let _ ← takeAll (· != '\n')
        let _ ← accept '\n'
        parts rs first fuel flags read
      else if c == '\\' then do
        let n ← escape flags
        parts rs first fuel flags (n :: read)
      else if c == '[' then do
        let n ← charSet flags
        parts rs first fuel flags (n :: read)
      else if c == '.' then parts rs first fuel flags (.any flags.dotAll :: read)
      else if c == '^' then
        parts rs first fuel flags
          (.anchor (if flags.multiline then .lineStart else .start) :: read)
      else if c == '$' then
        parts rs first fuel flags (.anchor (if flags.multiline then .lineEnd else .end_) :: read)
      else if c == '?' then do parts rs first fuel flags (← repeatLast read 0 (some 1))
      else if c == '*' then do parts rs first fuel flags (← repeatLast read 0 none)
      else if c == '+' then do parts rs first fuel flags (← repeatLast read 1 none)
      else if c == '{' then do
        if (← peek) == some '}' then
          parts rs first fuel flags (.char (caseRule flags) c :: read)
        else
          match ← bounds? with
          | some (least, most) => do parts rs first fuel flags (← repeatLast read least most)
          | none => parts rs first fuel flags (.char (caseRule flags) c :: read)
      else if c == '(' then do
        match ← parenthesis rs flags with
        | .part n => parts rs first fuel flags (n :: read)
        | .comment => parts rs first fuel flags read
        | .options inner =>
          if first && read.isEmpty then do
            modify fun s => { s with flags := inner }
            parts rs first fuel inner read
          else failure
      else parts rs first fuel flags (.char (caseRule flags) c :: read)

/-- A sequence of parts. -/
def sequence (rs : Readers) (first : Bool) (flags : PatternFlags) : Reader Node := do
  let read ← parts rs first ((← get).rest.length + 1) flags []
  return .seq read.reverse

/-- The branches of a choice up to a closing parenthesis or the end. Options for the whole pattern
that the first branch sets hold for the others. -/
def branches (rs : Readers) (outermost : Bool) (flags : PatternFlags) :
    Nat → List Node → Reader (List Node)
  | 0, _ => failure
  | fuel + 1, read => do
    let whole := (← get).flags
    let flags := if outermost then whole else flags
    let n ← sequence rs (outermost && read.isEmpty) flags
    if ← accept '|' then branches rs outermost flags fuel (n :: read)
    else return (n :: read).reverse

/-- A choice between the branches. -/
def oneOf : List Node → Node
  | [n] => n
  | ns => .alt ns

/-- The readers of parts nested at most as deep as the fuel. -/
def readers : Nat → Readers
  | 0 => ⟨fun _ => failure, fun _ => failure⟩
  | fuel + 1 =>
    { branches := fun flags => do
        let size := (← get).rest.length
        return oneOf (← branches (readers fuel) false flags (size + 1) [])
      sequence := fun flags => sequence (readers fuel) false flags }

/-- A whole pattern. -/
def whole (flags : PatternFlags) : Reader Node := do
  let size := (← get).rest.length
  let ns ← branches (readers size) true flags (size + 1) []
  let s ← get
  if !s.rest.isEmpty then failure
  if s.chosen.any (s.nextGroup ≤ ·) then failure
  return oneOf ns

/-- The pattern that a text is under the options, and the options with those set inside, if it is
one. -/
def parse? (s : String) (flags : PatternFlags) : Option (Node × PatternFlags) :=
  ((whole flags).run ⟨s.toList, flags, 1, [], [], none, []⟩).map fun (n, r) => (n, r.flags)

end Pattern

end Rulebook

import Rulebook.Text.Half
import Rulebook.Document.Fault
import Rulebook.Document.Yaml.Cursor
import Rulebook.Number.Numeral

/-!
# Written forms of scalars

A scalar is written plainly, between quotes of two kinds, or as a block of lines. In all of them
the end of a line becomes a blank, unless it is kept; empty lines in between stay.

* `Scalar.plain`, `Scalar.quoted`, `Scalar.block`: the text of a scalar and the place behind it.
-/

namespace Rulebook

namespace Yaml

/-- What goes wrong where a scalar is read. -/
abbrev Attempt (α : Type) := Except DocumentFault α

/-- The rest of a line that holds nothing but a comment, and its end. -/
def ignoredLine (c : Cursor) : Attempt Cursor :=
  let c := c.skipSpaces
  let c := if c.isAt ['#'] then c.skipWhile (!isBreak ·) else c
  if c.atLineEnd then .ok c.lineBreak.2 else .error .malformed

/-- Whether a character is a hexadecimal digit. -/
def isHex (c : Char) : Bool :=
  isAsciiDigit c || ('a' ≤ c && c ≤ 'f') || ('A' ≤ c && c ≤ 'F')

namespace Scalar

/-! ## Plain scalars -/

/-- Whether a colon in front of these characters ends a key. -/
def colonEnds (inFlow : Bool) : List Char → Bool
  | [] => true
  | d :: _ =>
    d == ' ' || d == '\t' || isBreak d ||
      (inFlow && [',', '[', ']', '\x7b', '\x7d'].contains d)

/-- Whether a word that is written plainly ends before these characters. -/
def wordEnds (inFlow : Bool) : List Char → Bool
  | [] => true
  | c :: rest =>
    c == ' ' || c == '\t' || isBreak c ||
      (c == ':' && colonEnds inFlow rest) ||
      (inFlow && [',', '?', '[', ']', '\x7b', '\x7d'].contains c)

/-- The length of a word that is written plainly. -/
def wordLength (inFlow : Bool) : List Char → Nat
  | [] => 0
  | c :: rest => if wordEnds inFlow (c :: rest) then 0 else wordLength inFlow rest + 1

/-- The breaks of empty lines in front of a plain word, and whether documents are separated
there. -/
def plainBreaks : Nat → List Char → Cursor → Option (List Char) × Cursor
  | 0, made, c => (some made, c)
  | fuel + 1, made, c =>
    if c.isAt [' '] then plainBreaks fuel made c.next
    else
      match c.lineBreak with
      | ([], _) => (some made, c)
      | (b, c) => if c.atSeparator then (none, c) else plainBreaks fuel (made ++ b) c

/-- What stands between two lines: the break is a blank unless it is kept or lines are empty. -/
def folded (break_ empty : List Char) : List Char :=
  if break_ != ['\n'] then break_ ++ empty else if empty.isEmpty then [' '] else empty

/-- What stands between two plain words, whether a line ended there, and the place behind it. -/
def plainSpaces (c : Cursor) : List Char × Bool × Cursor :=
  let (blanks, c) := c.takeWhile (· == ' ')
  match c.lineBreak with
  | ([], _) => (blanks, false, c)
  | (b, c) =>
    if c.atSeparator then ([], true, c)
    else
      match plainBreaks (c.rest.length + 1) [] c with
      | (none, c) => ([], true, c)
      | (some empty, c) => (folded b empty, true, c)

/-- Reads plain words. `spaces` is what stands before the next one, and `broken` tells whether a
line ended there. -/
def plainWords (inFlow : Bool) (indent : Nat) :
    Nat → List Char → List Char → Bool → Cursor → String × Bool × Cursor
  | 0, made, _, broken, c => (String.ofList made, broken, c)
  | fuel + 1, made, spaces, broken, c =>
    let n := if c.isAt ['#'] then 0 else wordLength inFlow c.rest
    if n == 0 then (String.ofList made, broken, c)
    else
      let made := made ++ spaces ++ c.rest.take n
      let (spaces, broken, c) := plainSpaces (c.advance n)
      if spaces.isEmpty || c.isAt ['#'] || (!inFlow && c.column < indent) then
        (String.ofList made, broken, c)
      else plainWords inFlow indent fuel made spaces broken c

/-- The text of a plain scalar, whether a line ended behind it, and the place behind it. -/
def plain (inFlow : Bool) (indent : Nat) (c : Cursor) : String × Bool × Cursor :=
  plainWords inFlow indent (c.rest.length + 1) [] [] false c

/-! ## Quoted scalars -/

/-- What an escape of one character stands for. -/
def escaped? : Char → Option Char
  | '0' => some '\x00'
  | 'a' => some '\x07'
  | 'b' => some '\x08'
  | 't' => some '\t'
  | '\t' => some '\t'
  | 'n' => some '\n'
  | 'v' => some '\x0b'
  | 'f' => some '\x0c'
  | 'r' => some '\r'
  | 'e' => some '\x1b'
  | ' ' => some ' '
  | '"' => some '"'
  | '\\' => some '\\'
  | '/' => some '/'
  | 'N' => some '\x85'
  | '_' => some '\xa0'
  | 'L' => some '\u2028'
  | 'P' => some '\u2029'
  | _ => none

/-- The number of digits of an escape that gives a number. -/
def escapeDigits? : Char → Option Nat
  | 'x' => some 2
  | 'u' => some 4
  | 'U' => some 8
  | _ => none

/-- The character of a number; numbers beyond the last character cannot be made. -/
def charOf (n : Nat) : Attempt Char :=
  if n < 0x110000 then .ok (if n.isValidChar then Char.ofNat n else '\uFFFD')
  else if n < 0x80000000 then
    .error (.fault (.raised "ValueError" "chr() arg not in range(0x110000)"))
  else .error (.fault (.raised "OverflowError" "Python int too large to convert to C int"))

/-- The breaks of empty lines in a quoted scalar. Documents may not be separated there. -/
def quotedBreaks : Nat → List Char → Cursor → Attempt (List Char × Cursor)
  | 0, made, c => .ok (made, c)
  | fuel + 1, made, c =>
    if c.atSeparator then .error .malformed
    else
      let c := c.skipWhile fun ch => ch == ' ' || ch == '\t'
      match c.lineBreak with
      | ([], _) => .ok (made, c)
      | (b, c) => quotedBreaks fuel (made ++ b) c

/-- The low half that an escape of its own gives. -/
def lowHalf? : List Char → Option Nat
  | '\\' :: 'u' :: cs =>
    let digits := cs.take 4
    let n := natOfBase 16 digits
    if digits.length == 4 && digits.all isHex && isLowHalf n then some n else none
  | _ => none

/-- The character of a number and the place behind it. A high half takes the low half that
follows. -/
def numbered (n : Nat) (c : Cursor) : Attempt (List Char × Cursor) :=
  match isHighHalf n, lowHalf? c.rest with
  | true, some low => .ok ([joinHalves n low], c.advance 6)
  | _, _ => do
    let ch ← charOf n
    pure ([ch], c)

/-- An escape behind its backslash. -/
def escape (c : Cursor) : Attempt (List Char × Cursor) :=
  match c.peek with
  | none => .error .malformed
  | some ch =>
    match escaped? ch, escapeDigits? ch with
    | some e, _ => .ok ([e], c.next)
    | none, some n =>
      let c := c.next
      let digits := c.rest.take n
      if digits.length == n && digits.all isHex then numbered (natOfBase 16 digits) (c.advance n)
      else .error .malformed
    | none, none =>
      if isBreak ch then
        let c := c.lineBreak.2
        quotedBreaks (c.rest.length + 1) [] c
      else .error .malformed

/-- Reads what is neither blank nor the closing quote. -/
def quotedText (double : Bool) : Nat → List Char → Cursor → Attempt (List Char × Cursor)
  | 0, made, c => .ok (made, c)
  | fuel + 1, made, c =>
    match c.peek with
    | none => .ok (made, c)
    | some ch =>
      if ch == ' ' || ch == '\t' || isBreak ch then .ok (made, c)
      else if double && ch == '\\' then do
        let (cs, c) ← escape c.next
        quotedText double fuel (made ++ cs) c
      else if !double && ch == '\'' && c.peekAt 1 == some '\'' then
        quotedText double fuel (made ++ ['\'']) (c.advance 2)
      else if ch == (if double then '"' else '\'') then .ok (made, c)
      else quotedText double fuel (made ++ [ch]) c.next

/-- Reads blanks and line ends in a quoted scalar. -/
def quotedSpaces (c : Cursor) : Attempt (List Char × Cursor) :=
  let (blanks, c) := c.takeWhile fun ch => ch == ' ' || ch == '\t'
  if c.atEnd then .error .malformed
  else
    match c.lineBreak with
    | ([], _) => .ok (blanks, c)
    | (b, c) => do
      let (empty, c) ← quotedBreaks (c.rest.length + 1) [] c
      pure (folded b empty, c)

/-- Reads a quoted scalar up to its closing quote. -/
def quotedFrom (double : Bool) : Nat → List Char → Cursor → Attempt (String × Cursor)
  | 0, _, _ => .error .malformed
  | fuel + 1, made, c => do
    let (text, c) ← quotedText double (c.rest.length + 1) [] c
    let made := made ++ text
    if c.isAt [if double then '"' else '\''] then pure (String.ofList made, c.next)
    else do
      let (spaces, c) ← quotedSpaces c
      quotedFrom double fuel (made ++ spaces) c

/-- The text of a quoted scalar and the place behind it; the cursor stands in front of the opening
quote. -/
def quoted (double : Bool) (c : Cursor) : Attempt (String × Cursor) :=
  quotedFrom double (c.rest.length + 1) [] c.next

/-! ## Blocks of lines -/

/-- What happens to the breaks behind the last line of a block. -/
inductive Chomping where
  /-- The first of them stays. -/
  | clip
  /-- None stays. -/
  | strip
  /-- All stay. -/
  | keep
deriving DecidableEq

/-- How the head of a block tells about chomping. -/
def chomping? (c : Cursor) : Option Chomping × Cursor :=
  match c.peek with
  | some '+' => (some .keep, c.next)
  | some '-' => (some .strip, c.next)
  | _ => (none, c)

/-- How the head of a block tells about its indentation, which is not zero. -/
def increment? (c : Cursor) : Attempt (Option Nat × Cursor) :=
  match c.peek with
  | some ch =>
    if ch == '0' then .error .malformed
    else if isAsciiDigit ch then .ok (some (natOfDigits [ch]), c.next)
    else .ok (none, c)
  | none => .ok (none, c)

/-- The head of a block: chomping and indentation in either order. -/
def blockHead (c : Cursor) : Attempt (Chomping × Option Nat × Cursor) := do
  let (before, c) := chomping? c
  let (increment, c) ← increment? c
  let (chomping, c) := match before with
    | some ch => (ch, c)
    | none => if increment.isSome then ((chomping? c).1.getD .clip, (chomping? c).2) else (.clip, c)
  if c.atGap then pure (chomping, increment, c) else throw .malformed

/-- The breaks of empty lines at the start of a block, and the deepest indentation among them. -/
def blockIndentation : Nat → List Char → Nat → Cursor → List Char × Nat × Cursor
  | 0, made, deepest, c => (made, deepest, c)
  | fuel + 1, made, deepest, c =>
    if c.isAt [' '] then blockIndentation fuel made (max deepest c.next.column) c.next
    else
      match c.lineBreak with
      | ([], _) => (made, deepest, c)
      | (b, c) => blockIndentation fuel (made ++ b) deepest c

/-- The place behind blanks up to an indentation. -/
def skipIndent (indent : Nat) : Nat → Cursor → Cursor
  | 0, c => c
  | fuel + 1, c =>
    if c.column < indent && c.isAt [' '] then skipIndent indent fuel c.next else c

/-- The breaks of empty lines in a block. -/
def blockBreaks (indent : Nat) : Nat → List Char → Cursor → List Char × Cursor
  | 0, made, c => (made, c)
  | fuel + 1, made, c =>
    let c := skipIndent indent indent c
    match c.lineBreak with
    | ([], _) => (made, c)
    | (b, c) => blockBreaks indent fuel (made ++ b) c

/-- What has been read of a block: its text, the break behind the last line, and those of empty
lines behind it. -/
structure Block where
  text : List Char
  lastBreak : List Char
  empty : List Char

/-- Reads the lines of a block. The end of a line is a blank where lines are joined and neither of
them is indented further. -/
def blockLines (joined : Bool) (indent : Nat) :
    Nat → List Char → List Char → Cursor → Block × Cursor
  | 0, made, empty, c => (⟨made, [], empty⟩, c)
  | fuel + 1, made, empty, c =>
    if c.column == indent && !c.atEnd then
      let flush := !c.isAt [' ', '\t']
      let (line, c) := c.takeWhile (!isBreak ·)
      let made := made ++ empty ++ line
      let (b, c) := c.lineBreak
      let (empty, c) := blockBreaks indent (c.rest.length + 1) [] c
      if c.column == indent && !c.atEnd then
        let between :=
          if joined && b == ['\n'] && flush && !c.isAt [' ', '\t'] then
            (if empty.isEmpty then [' '] else [])
          else b
        blockLines joined indent fuel (made ++ between) empty c
      else (⟨made, b, empty⟩, c)
    else (⟨made, [], empty⟩, c)

/-- The text of a block with what is left of its end. -/
def Block.chomp (b : Block) : Chomping → String
  | .strip => String.ofList b.text
  | .clip => String.ofList (b.text ++ b.lastBreak)
  | .keep => String.ofList (b.text ++ b.lastBreak ++ b.empty)

/-- The text of a block and the place behind it; the cursor stands in front of its mark. `least` is
the smallest indentation it may have. -/
def block (joined : Bool) (least : Nat) (c : Cursor) : Attempt (String × Cursor) := do
  let (chomping, increment, c) ← blockHead c.next
  let c ← ignoredLine c
  let fuel := c.rest.length + 1
  let (indent, empty, c) := match increment with
    | none =>
      let (empty, deepest, c) := blockIndentation fuel [] 0 c
      (max least deepest, empty, c)
    | some n =>
      let (empty, c) := blockBreaks (least + n - 1) fuel [] c
      (least + n - 1, empty, c)
  let (b, c) := blockLines joined indent fuel [] empty c
  pure (b.chomp chomping, c)

end Scalar

end Yaml

end Rulebook

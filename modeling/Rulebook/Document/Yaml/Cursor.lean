/-!
# Reading a document from place to place

A cursor stands in front of the characters that are left and knows how many came before it, in the
document and in its line. Lines are ended by line feeds and by the three other characters that are
made for it.

* `Cursor.next`: the place behind one character.
-/

namespace Rulebook

namespace Yaml

/-- Whether a character ends a line. -/
def isBreak (c : Char) : Bool := c == '\n' || c == '\x85' || c == '\u2028' || c == '\u2029'

/-- The mark of the byte order, which takes no place in a line. -/
def byteOrderMark : Char := '\uFEFF'

/-- A place in a document. -/
structure Cursor where
  rest : List Char
  index : Nat
  line : Nat
  column : Nat

namespace Cursor

/-- The start of a document. -/
def start (cs : List Char) : Cursor := ⟨cs, 0, 0, 0⟩

/-- The next character. -/
def peek (c : Cursor) : Option Char := c.rest.head?

/-- The character `n` places further on. -/
def peekAt (c : Cursor) (n : Nat) : Option Char := c.rest[n]?

/-- Whether nothing is left. -/
def atEnd (c : Cursor) : Bool := c.rest.isEmpty

/-- The place behind the next character. -/
def next (c : Cursor) : Cursor :=
  match c.rest with
  | [] => c
  | ch :: rest =>
    if isBreak ch then ⟨rest, c.index + 1, c.line + 1, 0⟩
    else ⟨rest, c.index + 1, c.line, if ch == byteOrderMark then c.column else c.column + 1⟩

/-- The place behind the next `n` characters. -/
def advance : Nat → Cursor → Cursor
  | 0, c => c
  | n + 1, c => advance n c.next

/-- The next characters that satisfy a test, and the place behind them. -/
def takeWhile (test : Char → Bool) (c : Cursor) : List Char × Cursor :=
  let taken := c.rest.takeWhile test
  (taken, c.advance taken.length)

/-- The place behind the next characters that satisfy a test. -/
def skipWhile (test : Char → Bool) (c : Cursor) : Cursor := (c.takeWhile test).2

/-- The place behind blanks. -/
def skipSpaces (c : Cursor) : Cursor := c.skipWhile (· == ' ')

/-- Whether the next character is one of some. -/
def isAt (c : Cursor) (chars : List Char) : Bool := c.peek.any chars.contains

/-- Whether the next character ends a line, or nothing is left. -/
def atLineEnd (c : Cursor) : Bool :=
  match c.peek with
  | none => true
  | some ch => isBreak ch

/-- Whether the next character is a blank or ends a line, or nothing is left. -/
def atGap (c : Cursor) : Bool := c.atLineEnd || c.isAt [' ']

/-- Whether the character `n` places further on is a blank or a tab or ends a line, or nothing is
left there. -/
def gapAt (c : Cursor) (n : Nat) : Bool :=
  match c.peekAt n with
  | none => true
  | some ch => ch == ' ' || ch == '\t' || isBreak ch

/-- The end of a line as it is kept: a line feed stands for itself and the next-line character. -/
def lineBreak (c : Cursor) : List Char × Cursor :=
  match c.peek with
  | none => ([], c)
  | some ch =>
    if ch == '\n' || ch == '\x85' then (['\n'], c.next)
    else if isBreak ch then ([ch], c.next)
    else ([], c)

/-- Whether three characters and a gap behind them come next. -/
def atMark (mark : Char) (c : Cursor) : Bool :=
  c.rest.take 3 == [mark, mark, mark] && c.gapAt 3

/-- Whether something comes next that separates documents. -/
def atSeparator (c : Cursor) : Bool := c.atMark '-' || c.atMark '.'

end Cursor

end Yaml

end Rulebook

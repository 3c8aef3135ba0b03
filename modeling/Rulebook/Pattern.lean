import Rulebook.Text.Blank
import Rulebook.Text.Lower
import Rulebook.Text.Word
import Rulebook.Value

/-!
# Search patterns

The structure of a search pattern, and the characters that its parts accept. Whether case counts
is settled for every part when a pattern is read.

* `Node.width`: the least and the greatest number of characters a part can match.
-/

namespace Rulebook

namespace Pattern

/-- How characters are compared. -/
inductive CaseRule where
  | exact
  /-- ASCII letters match in either case. -/
  | ascii
  /-- Letters of every script match in either case. -/
  | full
deriving DecidableEq, Repr

/-- Lower-case letters that match each other though they are not the same. -/
def caseTwins : List (Nat × List Nat) := [
  (0x69, [0x131]), (0x73, [0x17f]), (0xb5, [0x3bc]), (0x131, [0x69]), (0x17f, [0x73]),
  (0x345, [0x3b9, 0x1fbe]), (0x390, [0x1fd3]), (0x3b0, [0x1fe3]), (0x3b2, [0x3d0]),
  (0x3b5, [0x3f5]), (0x3b8, [0x3d1]), (0x3b9, [0x345, 0x1fbe]), (0x3ba, [0x3f0]),
  (0x3bc, [0xb5]), (0x3c0, [0x3d6]), (0x3c1, [0x3f1]), (0x3c2, [0x3c3]), (0x3c3, [0x3c2]),
  (0x3c6, [0x3d5]), (0x3d0, [0x3b2]), (0x3d1, [0x3b8]), (0x3d5, [0x3c6]), (0x3d6, [0x3c0]),
  (0x3f0, [0x3ba]), (0x3f1, [0x3c1]), (0x3f5, [0x3b5]), (0x432, [0x1c80]), (0x434, [0x1c81]),
  (0x43e, [0x1c82]), (0x441, [0x1c83]), (0x442, [0x1c84, 0x1c85]), (0x44a, [0x1c86]),
  (0x463, [0x1c87]), (0x1c80, [0x432]), (0x1c81, [0x434]), (0x1c82, [0x43e]), (0x1c83, [0x441]),
  (0x1c84, [0x442, 0x1c85]), (0x1c85, [0x442, 0x1c84]), (0x1c86, [0x44a]), (0x1c87, [0x463]),
  (0x1c88, [0xa64b]), (0x1e61, [0x1e9b]), (0x1e9b, [0x1e61]), (0x1fbe, [0x345, 0x3b9]),
  (0x1fd3, [0x390]), (0x1fe3, [0x3b0]), (0xa64b, [0x1c88]), (0xfb05, [0xfb06]),
  (0xfb06, [0xfb05])]

/-- The lower case of an ASCII letter. -/
def asciiLower (c : Char) : Char := if 'A' ≤ c ∧ c ≤ 'Z' then Char.ofNat (c.toNat + 32) else c

namespace CaseRule

/-- The form under which characters are compared. -/
def normalize : CaseRule → Char → Char
  | .exact, c => c
  | .ascii, c => asciiLower c
  | .full, c => lowerChar c

/-- The normal forms that match a normal form. -/
def twins : CaseRule → Char → List Char
  | .full, c => c :: ((caseTwins.lookup c.toNat).getD []).map Char.ofNat
  | _, c => [c]

/-- Whether a character of the pattern matches one of the text. -/
def same (r : CaseRule) (p c : Char) : Bool := r.normalize c ∈ r.twins (r.normalize p)

/-- The code points whose normal form is the given one. -/
def sources (r : CaseRule) (c : Char) : List Nat :=
  match r with
  | .exact => [c.toNat]
  | .ascii =>
    if 'a' ≤ c ∧ c ≤ 'z' then [c.toNat, c.toNat - 32]
    else if 'A' ≤ c ∧ c ≤ 'Z' then [] else [c.toNat]
  | .full =>
    let moved := lowerRuns.toList.filterMap fun run =>
      let n := ((c.toNat : Int) - run.shift).toNat
      if run.covers n then some n else none
    if lowerChar c == c then c.toNat :: moved else moved

/-- Whether a character matches some character of a range. -/
def inRange (r : CaseRule) (low high : Nat) (c : Char) : Bool :=
  match r with
  | .exact => low ≤ c.toNat && c.toNat ≤ high
  | r => (r.twins (r.normalize c)).any fun t =>
    (r.sources t).any fun n => low ≤ n && n ≤ high

end CaseRule

/-- A class of characters with a name of one letter. -/
inductive Category where
  | digit
  | blank
  | word
deriving DecidableEq, Repr

namespace Category

/-- Whether a character belongs to a class; the narrow classes hold ASCII characters only. -/
def contains (narrow : Bool) : Category → Char → Bool
  | .digit, c => if narrow then c.isDigit else decimalDigit.contains c
  | .blank, c =>
    if narrow then c == ' ' || (0x9 ≤ c.toNat && c.toNat ≤ 0xd) else isBlank c
  | .word, c => if narrow then c == '_' || c.isAlphanum else isWordChar c

end Category

/-- A member of a set of characters. -/
inductive SetItem where
  | char (c : Char)
  | range (low high : Nat)
  | category (narrow negated : Bool) (k : Category)
deriving DecidableEq, Repr

/-- Whether a member of a set accepts a character. -/
def SetItem.accepts (r : CaseRule) (c : Char) : SetItem → Bool
  | .char p => r.same p c
  | .range low high => r.inRange low high c
  | .category narrow negated k => k.contains narrow (r.normalize c) != negated

/-- A place in a text. -/
inductive Anchor where
  | start
  | lineStart
  | end_
  | lineEnd
  | finalEnd
  | wordEdge (narrow : Bool)
  | noWordEdge (narrow : Bool)
deriving DecidableEq, Repr

/-- How many repetitions are tried first. -/
inductive Greed where
  | greedy
  | lazy
  /-- As many as possible, and never fewer. -/
  | possessive
deriving DecidableEq, Repr

/-- A part of a pattern. -/
inductive Node where
  | char (r : CaseRule) (c : Char)
  /-- Any character; a line end only if `all`. -/
  | any (all : Bool)
  | set (r : CaseRule) (negated : Bool) (items : List SetItem)
  | anchor (a : Anchor)
  | seq (parts : List Node)
  | alt (branches : List Node)
  | group (index : Nat) (body : Node)
  | repeat_ (greed : Greed) (least : Nat) (most : Option Nat) (body : Node)
  | backref (r : CaseRule) (index : Nat)
  /-- What follows does, or does not, match. -/
  | ahead (negated : Bool) (body : Node)
  /-- The given number of characters before does, or does not, match. -/
  | behind (negated : Bool) (width : Nat) (body : Node)
  | atomic (body : Node)
  /-- One of two parts, by whether a group has matched. -/
  | choice (index : Nat) (yes no : Node)

namespace Node

/-- A sum of two bounds, of which `none` is no bound. -/
def addBound : Option Nat → Option Nat → Option Nat
  | some a, some b => some (a + b)
  | _, _ => none

/-- The greater of two bounds. -/
def maxBound : Option Nat → Option Nat → Option Nat
  | some a, some b => some (max a b)
  | _, _ => none

mutual

/-- The least and the greatest number of characters that a part can match, given those of the
groups. -/
def width (groups : Nat → Nat × Option Nat) : Node → Nat × Option Nat
  | .char _ _ => (1, some 1)
  | .any _ => (1, some 1)
  | .set _ _ _ => (1, some 1)
  | .anchor _ => (0, some 0)
  | .seq parts => sumWidth groups parts
  | .alt branches => altWidth groups branches
  | .group _ body => width groups body
  | .repeat_ _ least most body =>
    let (low, high) := width groups body
    (low * least, match most, high with
      | some m, some h => some (m * h)
      | _, some 0 => some 0
      | some 0, _ => some 0
      | _, _ => none)
  | .backref _ index => groups index
  | .ahead _ _ => (0, some 0)
  | .behind _ _ _ => (0, some 0)
  | .atomic body => width groups body
  | .choice _ yes no =>
    let (a, b) := width groups yes
    let (c, d) := width groups no
    (min a c, maxBound b d)

/-- The width of parts one after the other. -/
def sumWidth (groups : Nat → Nat × Option Nat) : List Node → Nat × Option Nat
  | [] => (0, some 0)
  | n :: ns =>
    let (a, b) := width groups n
    let (c, d) := sumWidth groups ns
    (a + c, addBound b d)

/-- The width of one of several parts. -/
def altWidth (groups : Nat → Nat × Option Nat) : List Node → Nat × Option Nat
  | [] => (0, some 0)
  | [n] => width groups n
  | n :: ns =>
    let (a, b) := width groups n
    let (c, d) := altWidth groups ns
    (min a c, maxBound b d)

end

end Node

end Pattern

end Rulebook

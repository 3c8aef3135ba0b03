import Rulebook.Pattern.Match

/-!
# Shapes of text

The patterns of a few common kinds of text. A text has a shape if it is not blank and the pattern
matches all of it.
-/

namespace Rulebook

namespace Shape

open Pattern

/-- One or more of the characters of a set. -/
def some_ (negated : Bool) (items : List SetItem) : Node :=
  .repeat_ .greedy 1 none (.set .exact negated items)

/-- A range of characters. -/
def span (a b : Char) : SetItem := .range a.toNat b.toNat

/-- Blanks of every script. -/
def blanks : SetItem := .category false false .blank

/-- Letters of ASCII text. -/
def letters : List SetItem := [span 'a' 'z', span 'A' 'Z']

/-- The accented vowels and the ñ of Spanish, in both cases. -/
def spanish : List SetItem :=
  ['á', 'é', 'í', 'ó', 'ú', 'Á', 'É', 'Í', 'Ó', 'Ú', 'ñ', 'Ñ'].map .char

/-- Letters and blanks. -/
def alphabetic : Node := some_ false (letters ++ spanish ++ [blanks])

/-- Letters, digits and underscores. -/
def alphanumeric : Node := some_ false (letters ++ [span '0' '9', .char '_'])

/-- Digits. -/
def numeric : Node := some_ false [span '0' '9']

/-- An at sign with text on both sides, and a dot with text on both sides behind it, without
blanks or another at sign. -/
def email : Node :=
  let word := some_ true [.char '@', blanks]
  .seq [word, .char .exact '@', word, .char .exact '.', word]

/-- Whether a text has a shape. -/
def holds (shape : Node) (s : String) : Bool :=
  !isBlankText s.toList && fullMatch shape s.toList

end Shape

end Rulebook

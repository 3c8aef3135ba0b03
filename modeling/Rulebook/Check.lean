import Rulebook.Predicate
import Rulebook.Template

/-!
# Checks

The checks that can be declared on a property, each with what it compares with and the template
of the message that is reported when it fails.

* `Check.template`, `Check.operands`: the message of a check.
-/

namespace Rulebook

/-- A check on the value of a property. -/
inductive Check where
  | notNull
  | null
  | notEmpty
  | empty
  | minLength (length : Value)
  | maxLength (length : Value)
  | hasMatch (pattern : Value)
  | startsWith (start : Value)
  | endsWith (end_ : Value)
  | contains (part caseSensitive : Value)
  | equalTo (other : Value)
  | greaterThan (threshold : Value)
  | lessThan (threshold : Value)
  | between (low high : Value)
  | positive
  | negative
  | notZero
  | future
  | past
  | today
  | isIn (allowed : List Value)
  | hasCount (count : Value)
  | nonEmptyCollection
  | alpha
  | alphanumeric
  | numeric
  | email
  | url
  /-- A check of one's own. -/
  | must (predicate : Value)
  /-- A check that every value passes. -/
  | always

namespace Check

/-- The template of the message of a check. -/
def template : Check → String
  | .notNull => "The \x7bfield\x7d field cannot be null."
  | .null => "The \x7bfield\x7d field must be null."
  | .notEmpty => "The \x7bfield\x7d field cannot be empty."
  | .empty => "The \x7bfield\x7d field must be empty."
  | .minLength _ => "The \x7bfield\x7d field must be at least \x7blength\x7d characters long."
  | .maxLength _ => "The \x7bfield\x7d field must be no longer than \x7blength\x7d characters."
  | .hasMatch _ => "The \x7bfield\x7d field is not in the correct format."
  | .startsWith _ => "The \x7bfield\x7d field must begin with '\x7bprefix\x7d'."
  | .endsWith _ => "The \x7bfield\x7d field must end with '\x7bsuffix\x7d'."
  | .contains _ _ => "The \x7bfield\x7d field must contain '\x7bsubstring\x7d'."
  | .equalTo _ => "The \x7bfield\x7d field must be equal to '\x7bother\x7d'."
  | .greaterThan _ => "The \x7bfield\x7d field must be greater than \x7bthreshold\x7d."
  | .lessThan _ => "The \x7bfield\x7d field must be less than \x7bthreshold\x7d."
  | .between _ _ =>
    "The \x7bfield\x7d field must be between \x7bminimum\x7d and \x7bmaximum\x7d."
  | .positive => "The \x7bfield\x7d field must be a positive number."
  | .negative => "The \x7bfield\x7d field must be a negative number."
  | .notZero => "The \x7bfield\x7d field must not be zero."
  | .future => "The \x7bfield\x7d field must be a future date."
  | .past => "The \x7bfield\x7d field must be a past date."
  | .today => "The \x7bfield\x7d field must be today's date."
  | .isIn _ => "The \x7bfield\x7d field must be in the list of allowed values."
  | .hasCount _ => "The \x7bfield\x7d field must contain exactly \x7bcount\x7d items."
  | .nonEmptyCollection => "The \x7bfield\x7d field must not be an empty collection."
  | .alpha => "The \x7bfield\x7d field must only contain alphabetic characters."
  | .alphanumeric => "The \x7bfield\x7d field must only contain alphanumeric characters."
  | .numeric => "The \x7bfield\x7d field must only contain numbers."
  | .email => "The \x7bfield\x7d field must be a valid email address."
  | .url => "The \x7bfield\x7d field must be a valid URL."
  | .must _ | .always => "The \x7bfield\x7d field does not meet the specified condition."

/-- What the template of a check names besides the property. -/
def operands : Check → Template.Operands
  | .minLength n => [("length", n)]
  | .maxLength n => [("length", n)]
  | .startsWith s => [("prefix", s)]
  | .endsWith s => [("suffix", s)]
  | .contains s _ => [("substring", s)]
  | .equalTo v => [("other", v)]
  | .greaterThan v => [("threshold", v)]
  | .lessThan v => [("threshold", v)]
  | .between a b => [("minimum", a), ("maximum", b)]
  | .hasCount n => [("count", n)]
  | _ => []

/-- The name under which a check that needs numbers is declared. -/
def numericName? : Check → Option String
  | .positive => some "positive"
  | .negative => some "negative"
  | .notZero => some "not_zero"
  | _ => none

/-- What the check asks of a value, for those that need nothing but the value. -/
def predicate? : Check → Option (Value → Except Fault Bool)
  | .notNull => some fun v => .ok (Predicate.isNotNull v)
  | .null => some fun v => .ok (Predicate.isNull v)
  | .notEmpty => some fun v => .ok (Predicate.isNotEmpty v)
  | .empty => some fun v => .ok (Predicate.isEmpty v)
  | .minLength n => some fun v => Predicate.hasMinLength v n
  | .maxLength n => some fun v => Predicate.hasMaxLength v n
  | .hasMatch p => some fun v => Predicate.hasMatch v p
  | .startsWith s => some fun v => Predicate.startsWith v s
  | .endsWith s => some fun v => Predicate.endsWith v s
  | .contains s c => some fun v => Predicate.contains v s c
  | .equalTo o => some fun v => Predicate.equals v o
  | .greaterThan t => some fun v => Predicate.greaterThan v t
  | .lessThan t => some fun v => Predicate.lessThan v t
  | .between a b => some fun v => Predicate.between v a b
  | .positive => some Predicate.isPositive
  | .negative => some Predicate.isNegative
  | .notZero => some Predicate.isNotZero
  | .isIn allowed => some fun v => Predicate.isIn v (.tuple allowed)
  | .hasCount n => some fun v => Predicate.hasCount v n
  | .nonEmptyCollection => some fun v => .ok (Predicate.isNonEmptyCollection v)
  | .alpha => some Predicate.isAlpha
  | .alphanumeric => some Predicate.isAlphanumeric
  | .numeric => some Predicate.isNumeric
  | .email => some Predicate.isEmail
  | .url => some Predicate.isUrl
  | .always => some fun _ => .ok true
  | .future | .past | .today | .must _ => none

/-- What the check asks of a value and the current moment, for those that look at a clock. -/
def datePredicate? : Check → Option (Int → Value → Value → Except Fault Bool)
  | .future => some Predicate.isFuture
  | .past => some Predicate.isPast
  | .today => some Predicate.isToday
  | _ => none

end Check

end Rulebook

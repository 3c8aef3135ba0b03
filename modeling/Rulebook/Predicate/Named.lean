import Rulebook.Arguments
import Rulebook.Predicate

/-!
# Predicates by name

Every predicate has a name, and arguments that can be given by position: the value first, then
what it is compared with.

* `Predicate.call`: the outcome of a predicate, given by its name, on arguments.
-/

namespace Rulebook

namespace Predicate

/-- A predicate under its name: the names of the arguments it needs, those it may have, and what it
answers when all of them are given. The first number is how many seconds the local clock is ahead
of universal time. -/
structure Named where
  name : String
  required : List String
  optional : List (String × Value)
  answer : Int → List Value → Except Fault Bool

/-- A predicate on a value alone. -/
private def unary (name : String) (p : Value → Except Fault Bool) : Named :=
  ⟨name, ["value"], [], fun _ args => p (args.headD .none)⟩

/-- A predicate on a value and something else. -/
private def binary (name second : String) (p : Value → Value → Except Fault Bool) : Named :=
  ⟨name, ["value", second], [], fun _ args => p (args.headD .none) (args[1]?.getD .none)⟩

/-- A predicate on a date and the current moment. -/
private def dated (name : String) (p : Int → Value → Value → Except Fault Bool) : Named :=
  ⟨name, ["value", "now"], [], fun zone args => p zone (args.headD .none) (args[1]?.getD .none)⟩

/-- All predicates. -/
def all : List Named := [
  unary "is_null" fun v => .ok (isNull v),
  unary "is_not_null" fun v => .ok (isNotNull v),
  unary "is_empty" fun v => .ok (isEmpty v),
  unary "is_not_empty" fun v => .ok (isNotEmpty v),
  binary "has_min_length" "length" hasMinLength,
  binary "has_max_length" "length" hasMaxLength,
  binary "matches" "pattern" hasMatch,
  binary "starts_with" "prefix" startsWith,
  binary "ends_with" "suffix" endsWith,
  ⟨"contains", ["value", "substring"], [("case_sensitive", .bool false)], fun _ args =>
    contains (args.headD .none) (args[1]?.getD .none) (args[2]?.getD .none)⟩,
  binary "equals" "other" equals,
  binary "greater_than" "threshold" greaterThan,
  binary "less_than" "threshold" lessThan,
  ⟨"between", ["value", "minimum", "maximum"], [], fun _ args =>
    between (args.headD .none) (args[1]?.getD .none) (args[2]?.getD .none)⟩,
  unary "is_number" fun v => .ok (isNumber v),
  unary "is_positive" isPositive,
  unary "is_negative" isNegative,
  unary "is_not_zero" isNotZero,
  dated "is_future" isFuture,
  dated "is_past" isPast,
  dated "is_today" isToday,
  binary "is_in" "allowed" isIn,
  binary "has_count" "count" hasCount,
  unary "is_non_empty_collection" fun v => .ok (isNonEmptyCollection v),
  unary "is_alpha" isAlpha,
  unary "is_alphanumeric" isAlphanumeric,
  unary "is_numeric" isNumeric,
  unary "is_email" isEmail,
  unary "is_url" isUrl]

/-- The outcome of the predicate of a name on arguments. -/
def call (zone : Int) (name : String) (args : List Value) : Except Fault Bool :=
  match all.find? (·.name == name) with
  | none => .error (.noModuleAttribute "ruleknobs_validation.predicates" name)
  | some p => do
    let args ← Arguments.fill name 0 p.required p.optional args
    p.answer zone args

end Predicate

end Rulebook

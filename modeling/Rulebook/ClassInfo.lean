/-!
# Classes

What is known of a class wherever it is named: how it is shown, where it stands in the tower of
numbers, and which of its members its objects answer for.
-/

namespace Rulebook

/-- Where a class stands in the tower of numbers. -/
inductive Tower where
  /-- Truth values count as integers and yet as no numbers. -/
  | truth
  /-- Real and decimal numbers, which have a sign. -/
  | real
  /-- Other numbers, and classes of numbers that may hold real ones. -/
  | number
  /-- No numbers. -/
  | other
deriving DecidableEq, Repr

/-- What a class member is to the objects of the class. -/
inductive MemberKind where
  /-- A value that all objects share. -/
  | shared
  /-- A method. -/
  | method
  /-- A property that is read from the attribute of its name behind an underscore. -/
  | computed
  /-- A property that cannot be read. -/
  | writeOnly
deriving DecidableEq, Repr

/-- A class. Two classes are the same iff their identities are. -/
structure ClassInfo where
  id : Nat
  name : String
  qualname : String
  module : String
  tower : Tower
  /-- Whether the class is made by the class of abstract classes. -/
  isAbstractBase : Bool
  /-- The names of the fields, for a class of records. -/
  fields : Option (List String)
  /-- The members, those of the class itself before those of its bases. -/
  members : List (String × MemberKind)
deriving DecidableEq, Repr

namespace ClassInfo

/-- A class of the language of values itself. -/
def builtin (id : Nat) (name : String) (module : String) (tower : Tower) : ClassInfo :=
  ⟨id, name, name, module, tower, false, none, []⟩

/-- The name with the module, which is left out for the classes of the language itself. -/
def fullName (c : ClassInfo) : String :=
  if c.module == "builtins" then c.qualname else c.module ++ "." ++ c.qualname

/-- How a class is shown. -/
def text (c : ClassInfo) : String := "<class '" ++ c.fullName ++ "'>"

/-- What a member of this name is, in the class nearest to the objects. -/
def member? (c : ClassInfo) (name : String) : Option MemberKind := c.members.lookup name

/-! ## The classes of values -/

def ofInt : ClassInfo := builtin 1 "int" "builtins" .real
def ofStr : ClassInfo := builtin 2 "str" "builtins" .other
def ofFloat : ClassInfo := builtin 3 "float" "builtins" .real
def ofBool : ClassInfo := builtin 4 "bool" "builtins" .truth
def ofComplex : ClassInfo := builtin 5 "complex" "builtins" .number
def ofBytes : ClassInfo := builtin 6 "bytes" "builtins" .other
def ofObject : ClassInfo := builtin 7 "object" "builtins" .other
def ofNone : ClassInfo := builtin 8 "NoneType" "builtins" .other
def ofList : ClassInfo := builtin 9 "list" "builtins" .other
def ofDict : ClassInfo := builtin 10 "dict" "builtins" .other
def ofTuple : ClassInfo := builtin 11 "tuple" "builtins" .other
def ofSet : ClassInfo := builtin 12 "set" "builtins" .other
def ofDecimal : ClassInfo := builtin 13 "Decimal" "decimal" .real
def ofFraction : ClassInfo := builtin 14 "Fraction" "fractions" .real
def ofNumber : ClassInfo := builtin 15 "Number" "numbers" .number
def ofComplexNumber : ClassInfo := builtin 16 "Complex" "numbers" .number
def ofRealNumber : ClassInfo := builtin 17 "Real" "numbers" .real
def ofRational : ClassInfo := builtin 18 "Rational" "numbers" .real
def ofIntegral : ClassInfo := builtin 19 "Integral" "numbers" .real
def ofDate : ClassInfo := builtin 20 "date" "datetime" .other
def ofDateTime : ClassInfo := builtin 21 "datetime" "datetime" .other

/-- The class of classes. -/
def ofClass : ClassInfo := builtin 22 "type" "builtins" .other

end ClassInfo

end Rulebook

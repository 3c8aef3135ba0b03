import Rulebook.Property

/-!
# Classes of validators

A class of validators may name the type it validates, by an attribute of its own or by the
argument of its base. A class that does neither has the type of its base.

* `ClassDeclaration.own?`: the type that a class names itself.
* `declaredModel`: the type that the nearest class of a chain names.
-/

namespace Rulebook

/-- The argument of the base of a class, as it is written. -/
inductive BaseArgument where
  | value (v : Value)
  /-- A variable that stands for any type. -/
  | variable (name : String)
  /-- A text that stands for a class that is not known yet. -/
  | forward (text : String)

/-- What a class says about the type it validates. -/
structure ClassDeclaration where
  /-- The attribute of its own, which may be nothing. -/
  explicit : Option Value
  argument : Option BaseArgument

namespace ClassDeclaration

/-- The type that a class names itself. The attribute comes before the argument, and of arguments
only classes count. -/
def own? (d : ClassDeclaration) : Option Value :=
  match d.explicit, d.argument with
  | some v, _ => some v
  | none, some (.value v) => if v.isClass then some v else none
  | none, _ => none

end ClassDeclaration

/-- The type that the nearest class of a chain names, and nothing if none does. -/
def declaredModel (chain : List ClassDeclaration) : Value :=
  match chain with
  | [] => .none
  | d :: farther => (d.own?).getD (declaredModel farther)

/-- A class of validators: the class, what it and its bases declare, and whether something is left
open that an object would need. -/
structure ValidatorClass where
  info : ClassInfo
  chain : List ClassDeclaration
  isAbstract : Bool

namespace ValidatorClass

/-- The type that objects of the class validate. -/
def model (c : ValidatorClass) : Value := declaredModel c.chain

/-- Whether the class names the type itself. -/
def namesModel (c : ValidatorClass) : Bool := ((c.chain.head?).bind (·.own?)).isSome

/-- The class that all classes of validators come from. -/
def base : ClassInfo :=
  ⟨50, "Validator", "Validator", "ruleknobs_validation.validator", .other, false, none, []⟩

/-- The class of validators that does not validate anything. -/
def root : ValidatorClass := ⟨base, [⟨some .none, none⟩], false⟩

/-- The class as a value. -/
def value (c : ValidatorClass) : Value := .class c.info [("model", c.model)]

end ValidatorClass

end Rulebook

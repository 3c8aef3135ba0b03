import Rulebook.Fault
import Rulebook.Number.Power

/-!
# The text of declared types

A declared type is shown as it would be written, with the constants that stand in it. An integer of
more than 4300 digits has no text, and neither has a type that such a constant stands in.

* `DeclaredType.text`: how a declared type is shown.
-/

namespace Rulebook

/-- The most digits an integer may have to be written out. -/
def maxDigits : Nat := 4300

/-- The decimal text of an integer, unless it is too long. -/
def intText (n : Int) : Except Fault String :=
  if n.natAbs < tenPower maxDigits then .ok (toString n) else .error (.tooManyDigits none)

/-- How a constant is shown. -/
def Constant.text : Constant → Except Fault String
  | .none => .ok "None"
  | .bool b => .ok (if b then "True" else "False")
  | .int n => intText n
  | .str s => .ok (Quoted.encode s)
  | .bytes data => .ok (Quoted.encodeBytes data)

/-- How constants are shown. -/
def Constant.texts : List Constant → Except Fault (List String)
  | [] => .ok []
  | c :: cs => do
    let text ← c.text
    let texts ← texts cs
    pure (text :: texts)

namespace DeclaredType

/-- How a union is shown, given its members and how they are shown. -/
def unionText : UnionStyle → List DeclaredType → List String → String
  | .named, [a, b], [left, right] =>
    if a.isNoneType then "typing.Optional[" ++ right ++ "]"
    else if b.isNoneType then "typing.Optional[" ++ left ++ "]"
    else "typing.Union[" ++ left ++ ", " ++ right ++ "]"
  | .named, _, texts => "typing.Union[" ++ ", ".intercalate texts ++ "]"
  | .bar, members, texts =>
    " | ".intercalate ((members.zip texts).map fun (a, text) =>
      if a.isNoneType then "None" else text)

mutual

/-- How a type is shown inside another one: a class by its name alone. -/
def partText : DeclaredType → Except Fault String
  | .nothing => .ok "None"
  | .any => .ok "typing.Any"
  | .class c => .ok c.fullName
  | .union style members => do
    let texts ← partTexts members
    pure (unionText style members texts)
  | .noted a notes => do
    let text ← partText a
    pure ("typing.Annotated[" ++ ", ".intercalate (text :: notes.map Quoted.encode) ++ "]")
  | .generic c as => do
    let texts ← partTexts as
    pure (c.fullName ++ "[" ++ ", ".intercalate texts ++ "]")
  | .classVariable a => do
    let text ← partText a
    pure ("typing.ClassVar[" ++ text ++ "]")
  | .literal values => do
    let texts ← Constant.texts values
    pure ("typing.Literal[" ++ ", ".intercalate texts ++ "]")
  | .quoted s => .ok (Quoted.encode s)
  | .forward s => .ok ("ForwardRef(" ++ Quoted.encode s ++ ")")
  | .constant c => c.text

/-- How the parts of a type are shown. -/
def partTexts : List DeclaredType → Except Fault (List String)
  | [] => .ok []
  | a :: as => do
    let text ← partText a
    let texts ← partTexts as
    pure (text :: texts)

end

/-- How a type is shown. -/
def text : DeclaredType → Except Fault String
  | .class c => .ok c.text
  | a => a.partText

end DeclaredType

end Rulebook

import Rulebook.Pattern.Match
import Rulebook.Pattern.Parser

/-!
# The kinds of plain scalars

A plain scalar without a tag is given one by its form: truth values, numbers in several bases and
in sixties, moments, nothing, and two marks of mappings. Forms are only tried if the first
character allows them, in a fixed order; what has none of the forms is a text.

* `implicitTag`: the tag that a plain scalar has by its form.
-/

namespace Rulebook

namespace Yaml

/-- The tag of a kind of the format itself. -/
def standard (kind : String) : String := "tag:yaml.org,2002:" ++ kind

/-- A form of scalars: its kind, the characters it may start with, and the pattern of the text. -/
structure Form where
  kind : String
  firsts : List Char
  pattern : String

/-- All forms, in the order in which they are tried. -/
def forms : List Form := [
  ⟨"bool", "yYnNtTfFoO".toList,
    "^(?:yes|Yes|YES|no|No|NO|true|True|TRUE|false|False|FALSE|on|On|ON|off|Off|OFF)$"⟩,
  ⟨"float", "-+0123456789.".toList,
    "^(?:[-+]?(?:[0-9][0-9_]*)\\.[0-9_]*(?:[eE][-+][0-9]+)?" ++
      "|\\.[0-9][0-9_]*(?:[eE][-+][0-9]+)?" ++
      "|[-+]?[0-9][0-9_]*(?::[0-5]?[0-9])+\\.[0-9_]*" ++
      "|[-+]?\\.(?:inf|Inf|INF)|\\.(?:nan|NaN|NAN))$"⟩,
  ⟨"int", "-+0123456789".toList,
    "^(?:[-+]?0b[0-1_]+|[-+]?0[0-7_]+|[-+]?(?:0|[1-9][0-9_]*)|[-+]?0x[0-9a-fA-F_]+" ++
      "|[-+]?[1-9][0-9_]*(?::[0-5]?[0-9])+)$"⟩,
  ⟨"merge", ['<'], "^(?:<<)$"⟩,
  ⟨"null", ['~', 'n', 'N'], "^(?:~|null|Null|NULL|)$"⟩,
  ⟨"timestamp", "0123456789".toList,
    "^(?:[0-9][0-9][0-9][0-9]-[0-9][0-9]-[0-9][0-9]" ++
      "|[0-9][0-9][0-9][0-9]-[0-9][0-9]?-[0-9][0-9]?(?:[Tt]|[ \\t]+)[0-9][0-9]?" ++
      ":[0-9][0-9]:[0-9][0-9](?:\\.[0-9]*)?(?:[ \\t]*(?:Z|[-+][0-9][0-9]?(?::[0-9][0-9])?))?)$"⟩,
  ⟨"value", ['='], "^(?:=)$"⟩,
  ⟨"yaml", ['!', '&', '*'], "^(?:!|&|\\*)$"⟩]

/-- Whether a text has a form, given its first character. -/
def Form.fits (f : Form) (text : String) (first : Char) : Bool :=
  f.firsts.contains first &&
    (Pattern.parse? f.pattern .none).any fun (n, _) => Pattern.search n text

/-- The tag that a plain scalar has by its form. The empty one is nothing. -/
def implicitTag (text : String) : String :=
  match text.toList with
  | [] => standard "null"
  | c :: _ =>
    match forms.find? (·.fits text c) with
    | some f => standard f.kind
    | none => standard "str"

end Yaml

end Rulebook

import Rulebook.Document.Json
import Rulebook.Settings.Mapping
import Rulebook.Text.Path
import Rulebook.Text.Stream

/-!
# Settings from files

A settings file holds a document in one of two formats, which its name tells. The settings are the
entries of its mapping, or those under a key of it. What is wrong with a file is reported under its
path; faults of its bytes and of what cannot be made keep their own kind. How documents in YAML are
read is not said here: whoever wants settings gives the reader.

* `Settings.ofFile`: the settings of a file.
-/

namespace Rulebook

/-- What there is under a path. -/
inductive FileContent where
  | bytes (data : List UInt8)
  | directory
  /-- Something that may not be opened. -/
  | closed
deriving DecidableEq

/-- What reads a document from a file. -/
abbrev DocumentReader := TextStream → Except DocumentFault Value

namespace Settings

/-- The formats of a settings file. -/
inductive Format where
  | json
  | yaml
deriving DecidableEq

/-- What a path ends in, in small letters. -/
def suffixOf (path : String) : String := lowerText (Path.suffix path)

/-- The format of a suffix. -/
def formatOf? (suffix : String) : Option Format :=
  if suffix == ".yaml" || suffix == ".yml" then some .yaml
  else if suffix == ".json" then some .json
  else none

/-- The characters of a file that is read at once. -/
def decodeFile (data : List UInt8) : Except Fault (List Char) :=
  match Utf8.decode 0 data with
  | (cs, none) => .ok (unifyLineEnds cs)
  | (_, some e) => .error (.notText e.message)

/-- A fault of a document as one of the file under a path. -/
def fileFault (path : String) : DocumentFault → Fault
  | .malformed => .fileUnparsed (Path.text path)
  | .fault f => f

/-- The value in the bytes of a file. A document in JSON is read at once, and one in YAML piece by
piece. -/
def readFile (yaml : DocumentReader) (path : String) (data : List UInt8) : Except Fault Value :=
  match formatOf? (suffixOf path) with
  | none => .error (.fileFormat (suffixOf path) (Path.text path))
  | some .json => do
    let cs ← decodeFile data
    (Json.read cs).mapError (fileFault path)
  | some .yaml => (yaml (.ofBytes data)).mapError (fileFault path)

/-- The name of the key under which settings may stand. -/
def sectionName : String := "validation"

/-- The settings in the value of a document. Nothing counts as an empty mapping. -/
def ofDocument (path : String) (v : Value) : Logged Settings :=
  match v with
  | .none => ofEntries []
  | .dict entries => do
    let found ← Value.lookup entries (.str sectionName)
    ofMapping (found.getD (.dict entries))
  | v => throw (.fileNotMapping (Path.text path) v.className)

/-- The settings of a file. -/
def ofFile (yaml : DocumentReader) (path : String) (content : Option FileContent) :
    Logged Settings :=
  match content with
  | none => throw (.fileMissing (Path.text path))
  | some .directory => throw (.isADirectory (Path.text path))
  | some .closed => throw (.notPermitted (Path.text path))
  | some (.bytes data) => do
    let v ← readFile yaml path data
    ofDocument path v

end Settings

end Rulebook

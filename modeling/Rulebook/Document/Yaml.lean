import Rulebook.Document.Yaml.Meaning
import Rulebook.Text.Stream

/-!
# Documents in YAML

A document is read in steps: its characters as tokens, the tokens as a node, and the node as a
value. An empty document means nothing at all.

* `Yaml.read`: the value of a document.
* `Yaml.load`: the value of a document in a file.
-/

namespace Rulebook

namespace Yaml

/-- Whether a character may be in a document. -/
def isPrintable (c : Char) : Bool :=
  let n := c.toNat
  n == 0x09 || n == 0x0A || n == 0x0D || (0x20 ≤ n && n ≤ 0x7E) || n == 0x85 ||
    (0xA0 ≤ n && n ≤ 0xD7FF) || (0xE000 ≤ n && n ≤ 0xFFFD) || 0x10000 ≤ n

/-- The value of a document. -/
def read (cs : List Char) : Except DocumentFault Value := do
  if !cs.all isPrintable then throw .malformed
  match ← Node.ofTokens? (.ofText cs) with
  | some n => n.meaning
  | none => pure .none

/-- How many characters are asked of a file at a time. -/
def pieceSize : Nat := 4096

/-- The value of a document in a file. A character that may not be in a document is found before
the bytes behind its piece are read. -/
def load (s : TextStream) : Except DocumentFault Value :=
  match s.broken? with
  | none => read s.chars
  | some e =>
    let seen := s.chars.take (s.chars.length / pieceSize * pieceSize)
    if seen.all isPrintable then .error (.fault (.notText e.message)) else .error .malformed

end Yaml

end Rulebook

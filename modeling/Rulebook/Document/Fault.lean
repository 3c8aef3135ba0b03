import Rulebook.Fault

/-!
# Faults of documents

A document in one of the formats either has a value or does not. What is not well-formed is told
apart from what cannot be made: the former is a fault of the document, the latter one of its own
kind.
-/

namespace Rulebook

/-- Why a document cannot be read. -/
inductive DocumentFault where
  /-- It is not well-formed, or means nothing. -/
  | malformed
  /-- Something in it cannot be made. -/
  | fault (f : Fault)

end Rulebook

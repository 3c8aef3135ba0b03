import Rulebook.Table

/-!
# Reports

What a validation reports: for every property with errors its messages. Properties stand in the
order in which they first had an error, and messages in the order in which checks failed.

* `Report.add`: one more message, at the end of those of its property.
* `Report.merge`: all messages of another report behind one's own.
* `Report.mergeInPlace`: a report merged into itself, which may never end.
-/

namespace Rulebook

/-- The messages of every property with errors. -/
structure Report where
  errors : List (Value × List Value)

namespace Report

/-- A report without errors. -/
def empty : Report := ⟨[]⟩

/-- Whether no property has errors. -/
def isValid (r : Report) : Bool := r.errors.isEmpty

/-- The errors with one more message for a property. -/
def addTo (errors : List (Value × List Value)) (name message : Value) :
    List (Value × List Value) :=
  match errors with
  | [] => [(name, [message])]
  | (n, ms) :: rest =>
    if n.sameKey name then (n, ms ++ [message]) :: rest
    else (n, ms) :: addTo rest name message

/-- The report with one more message for a property. -/
def add (r : Report) (name message : Value) : Report := ⟨addTo r.errors name message⟩

/-- The report with messages for one property added in order. -/
def addAll (r : Report) (name : Value) (messages : List Value) : Report :=
  messages.foldl (fun r m => r.add name m) r

/-- The report with all messages of another one behind its own. -/
def merge (r other : Report) : Report :=
  other.errors.foldl (fun r (name, messages) => r.addAll name messages) r

/-- Where the merge of a report into itself stands: the property that is looked at, which of its
messages is read next, and what has become of the report. -/
structure SelfMerge where
  property : Nat
  message : Nat
  report : Report

namespace SelfMerge

/-- What the merge does next, unless it is done: it adds the message that it reads to the report
that it reads from. Behind the last message of a property it goes on to the next property. -/
def next (m : SelfMerge) : Option SelfMerge :=
  match m.report.errors[m.property]? with
  | none => none
  | some (name, messages) =>
    match messages[m.message]? with
    | none => some { m with property := m.property + 1, message := 0 }
    | some text => some { m with message := m.message + 1, report := m.report.add name text }

/-- The report that is there when the merge is done; nothing if it never is. -/
def finish (m : SelfMerge) : Option Report :=
  match m.next with
  | none => some m.report
  | some after => after |>.finish
partial_fixpoint

end SelfMerge

/-- Merges a report into itself: the messages are read while they are added. -/
def mergeInPlace (r : Report) : Option Report := SelfMerge.finish ⟨0, 0, r⟩

/-- The report as a mapping from names to lists of messages, put together entry by entry. -/
def toMapping (r : Report) : Table (List Value) :=
  r.errors.foldl (fun made (name, messages) => made.insert name messages) []

/-- A mapping from names to lists of messages as a value. -/
def mappingValue (errors : List (Value × List Value)) : Value :=
  .dict (errors.map fun (name, messages) => (name, .list messages))

/-- The mapping with one more message for a property; the property has to be there. -/
def appendMessage (errors : List (Value × List Value)) (name message : Value) :
    Except Fault (List (Value × List Value)) := do
  name.checkHashable
  if errors.any (fun (n, _) => n.sameKey name) then pure (addTo errors name message)
  else do
    let shown ← name.shown
    throw (.keyMissing shown)

/-- Fails with the errors of the report if there are any. -/
def raise (r : Report) : Except Fault Unit :=
  if r.isValid then .ok ()
  else do
    let failing ← Value.joinTexts ", " (r.errors.map Prod.fst)
    throw (.validationFailed failing (mappingValue r.toMapping))

/-- How a report is shown. -/
def shown (r : Report) : Except Fault String := do
  let errors ← (mappingValue r.errors).shown
  pure ("ValidationResult(errors=" ++ errors ++ ")")

/-- Whether two reports have equal errors. -/
def equals (a b : Report) : Except Fault Bool :=
  Value.equals (mappingValue a.errors) (mappingValue b.errors)

end Report

end Rulebook

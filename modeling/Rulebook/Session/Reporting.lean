import Rulebook.Session.Eval

/-!
# Steps on reports

Reports made by hand: adding messages, merging, looking at them, and failing with their errors.
-/

namespace Rulebook

namespace Session

/-- A report by its number. -/
def reportAt (r : Nat) : Play Report := do return ((← Play.state).reports[r]?).getD .empty

/-- Changes a report. -/
def setReport (r : Nat) (report : Report) : Play Unit :=
  Play.modifyState fun s => { s with reports := s.reports.set r report }

/-- The messages under the names of a mapping. -/
def errorsOf : List (Value × Value) → Except Fault (List (Value × List Value))
  | [] => .ok []
  | (name, v) :: rest => do
    let messages ← v.elements
    let errors ← errorsOf rest
    pure ((name, messages) :: errors)

/-- Makes a report under a name. -/
def newReport (id : String) (errors : Option Term) : Play Answer := do
  let given ← evalOption errors
  let errors ← match given with
    | some (.dict entries) => errorsOf entries
    | _ => pure []
  let report : Report := ⟨errors⟩
  let n := (← Play.state).reports.length
  Play.modifyState fun s => { s with reports := s.reports ++ [report] }
  Play.bindName id (.report n)
  pure (.report report none)

/-- Adds messages to a report one after the other. -/
def addMessages (r : Nat) : List (Term × Term) → Play Unit
  | [] => pure ()
  | (name, message) :: rest => do
    let name ← name.eval
    let message ← message.eval
    name.checkHashable
    let report ← reportAt r
    setReport r (report.add name message)
    addMessages r rest

/-- Adds messages to the report of a name. -/
def addErrors (id : String) (errors : List (Term × Term)) : Play Answer := do
  let r ← Play.reportNamed id
  addMessages r errors
  return .report (← reportAt r) none

/-- Merges a report into another one, or into itself. -/
def mergeInto (r o : Nat) : Play Answer := do
  let report ← reportAt r
  let merged ←
    if r == o then
      match report.mergeInPlace with
      | some merged => pure merged
      | none => throw .unbounded
    else do
      let second ← reportAt o
      pure (report.merge second)
  setReport r merged
  pure (.report merged none)

/-- Merges the report of a name into that of another one. -/
def mergeReports (id other : String) : Play Answer := do
  let r ← Play.reportNamed id
  let o ← Play.reportNamed other
  mergeInto r o

/-- What is told of a report. -/
def describeReport (id : String) : Play Answer := do
  let r ← Play.reportNamed id
  let report ← reportAt r
  let text ← report.shown
  pure (.reportInfo report.isValid text (Report.mappingValue report.toMapping))

/-- Adds a message to a copy of the errors of a report; the report stays as it is. -/
def editCopy (id : String) (property message : Term) : Play Answer := do
  let r ← Play.reportNamed id
  let property ← property.eval
  let message ← message.eval
  let report ← reportAt r
  let copy ← Report.appendMessage report.toMapping property message
  pure (.reportCopy (Report.mappingValue copy) report)

/-- Fails with the errors of a report, if it has any. -/
def raiseErrors (id : String) : Play Answer := do
  let r ← Play.reportNamed id
  let report ← reportAt r
  report.raise
  pure (.value .none)

/-! ## Faults -/

/-- The kinds that a fault of a kind belongs to. -/
def kindsOf : LibraryFault → List LibraryFault
  | .base => [.base]
  | kind => [.base, kind]

/-- The first of two values that is true, and an empty mapping if neither is. -/
def firstTrue (a b : Value) : Value :=
  if a.truthy then a else if b.truthy then b else .dict []

/-- The errors among the details of a fault. -/
def errorsIn : Value → Except Fault Value
  | .dict entries => do
    let found ← Value.lookup entries (.str "errors")
    pure (found.getD (.dict []))
  | v => .error (.noAttribute v.typeName "get")

/-- Makes a fault of the library. Details come before a context. -/
def describeFault (kind : LibraryFault) (message : Term) (context details : Option Term) :
    Play Answer := do
  let message ← message.eval
  let context ← evalOrNone context
  let details ← evalOrNone details
  let text ← message.text
  let kept := firstTrue details context
  let errors ← match kind with
    | .validation => do
      let errors ← errorsIn kept
      pure (some errors)
    | _ => pure none
  pure (.fault text kept (kindsOf kind) errors)

end Session

end Rulebook

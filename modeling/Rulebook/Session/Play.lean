import Rulebook.Session.Call
import Rulebook.Session.Configuring
import Rulebook.Session.Opening
import Rulebook.Session.Registering
import Rulebook.Session.Reporting
import Rulebook.Session.Validation

/-!
# Playing a session

The steps of a session run in order on one state. A step that fails does not stop the session; it
leaves what it had changed. A function that is called by a step may run steps itself, and so on to
a depth that is bounded.

* `Script.play`: the outcomes of the steps of a session.
-/

namespace Rulebook

namespace Session

/-- Whether two named objects are equal. -/
def sameNamed (a b : Named) : Play Bool := do
  match a, b with
  | .report r, .report o => do
    let s ← Play.state
    let first := (s.reports[r]?).getD .empty
    let second := (s.reports[o]?).getD .empty
    first.equals second
  | .settings m, .settings n => do
    if m == n then pure true
    else do
      let first ← settingsAt m
      let second ← settingsAt n
      sameSettings first second
  | .validator v, .validator w => pure (v == w)
  | .chain c, .chain d => pure (c == d)
  | .registry g, .registry h => pure (g == h)
  | _, _ => pure false

/-- Whether the objects of two names are equal. -/
def sameObjects (a b : String) : Play Answer := do
  let first ← Play.named a some
  let second ← Play.named b some
  let same ← sameNamed first second
  pure (.value (.bool same))

/-- Runs a step at a place. -/
def runStep (host : Host State) (place : Place) : Step → Play Answer
  | .newValidator id className settings => newValidator id className settings
  | .classModel className => classModel className
  | .rule validator selector id calls => addRule validator selector id calls
  | .more id calls => addCalls id calls
  | .chain id => describeChain id
  | .rules validator => listRules validator
  | .validate validator object way cancel save =>
    runValidator host place validator object way cancel save
  | .runRule validator index object => runOneRule host place validator index object
  | .setNow validator moment => setNow validator moment
  | .setTemplate validator template => setTemplate validator template
  | .resolve selector model object => resolveSelector host place selector model object
  | .accessor name object => readAttribute name object
  | .newReport id errors => newReport id errors
  | .addErrors id errors => addErrors id errors
  | .mergeReport id other => mergeReports id other
  | .report id => describeReport id
  | .editCopy id property message => editCopy id property message
  | .same a b => sameObjects a b
  | .raiseErrors id => raiseErrors id
  | .newSettings id source => newSettings id source
  | .now id => momentOf host place id
  | .newRegistry id name validators => newRegistry id name validators
  | .registry id => describeRegistry id
  | .register id key item metadata overwrite => registerItem id key item metadata overwrite
  | .ask id question key => askRegistry id question key
  | .editMetadata id key name => editMetadata id key name
  | .registerValidator id validator model overwrite => registerClass id validator model overwrite
  | .registerModule id name => registerKnown id name
  | .registerImport id name => registerImport id name
  | .create id model settings name => createValidator id model settings name
  | .describeKey key => describeKeyOf key
  | .fault kind message context details => describeFault kind message context details

/-- How deeply steps may be run by functions that are called by steps. -/
def maxDepth : Nat := 1000

/-- What calls do, down to a depth. -/
def hostFor (zone : Int) : Nat → Host State
  | 0 => ⟨zone, fun _ _ _ => throw .unbounded, pure .none, Play.freshId⟩
  | depth + 1 =>
    ⟨zone, fun place f args => callValue (fun s => runStep (hostFor zone depth) place s) f args,
      pure .none, Play.freshId⟩

/-- The place at which the steps of a session run: no loop is running there. -/
def ground : Place := ⟨none, 0, 0⟩

/-- What came of a step: its outcome, and what was left in the trace and in the log meanwhile. -/
structure StepRecord where
  outcome : Except Fault Answer
  trace : List TraceEntry
  log : List LogRecord

/-- Runs a step with an empty trace and log. -/
def recordStep (host : Host State) (store : Store State) (step : Step) :
    StepRecord × Store State :=
  let start := { store with log := [], extra := { store.extra with trace := [] } }
  let (outcome, store) := (runStep host ground step).run start
  (⟨outcome, store.extra.trace, store.log⟩, store)

/-- Runs steps in order. -/
def recordSteps (host : Host State) : List Step → Store State → List StepRecord
  | [], _ => []
  | step :: rest, store =>
    let (record, store) := recordStep host store step
    record :: recordSteps host rest store

/-- The outcomes of the steps of a session, after its classes and modules have been made. -/
def Script.play (script : Script) : Except Fault (List StepRecord) :=
  let (opened, store) := (opening script).run (.empty (.start script.zone))
  opened.map fun _ => recordSteps (hostFor script.zone maxDepth) script.steps store

/-- A predicate with its arguments. -/
structure Inquiry where
  predicate : String
  args : List Term

/-- The answers of predicates to inquiries, each by itself. -/
def answerInquiries (zone : Int) (inquiries : List Inquiry) : List (Except Fault Bool) :=
  inquiries.map fun q =>
    let (args, _) := (Term.evalAll q.args).run (.empty (.start zone))
    args.bind (Predicate.call zone q.predicate)

end Session

end Rulebook

import Rulebook.Store

/-!
# Running rules

A validator runs the rules that it has at the start, one after the other: `validate` from code
that does not wait, `validateAsync` from code that does. They differ in what they do with a rule
that may have to be waited for. The one drives it to its end in a loop of its own, on a thread of
its own if a loop is running already; the other awaits it where it is. A rule reads its property
once, and a chain is read right after that. A signal is asked before every rule.

* `resolveBlocking`: something that has to be waited for, driven from code that does not wait.
* `validate`, `validateAsync`: the report on an object.
-/

namespace Rulebook

namespace Run

variable {ω : Type}

/-- Calls a value. What has to be waited for is not run yet. -/
def invoke (host : Host ω) (place : Place) (f : Value) (args : List Value) : Action ω Value :=
  match f with
  | .callable c =>
    if c.awaited.isSome then pure (.pending c args) else host.body place f args
  | f => host.body place f args

/-- Waits for a value if it is a call that has not run yet. -/
def await (host : Host ω) (place : Place) (v : Value) : Action ω Value :=
  match v with
  | .pending c args => host.body place (.callable c) args
  | v => pure v

/-- Reads a property of an object. -/
def readProperty (host : Host ω) (place : Place) (p : Property) (object : Value) :
    Action ω Value :=
  match p.accessor with
  | .attribute_ name => object.read name
  | .call f => invoke host place f [object]

/-- The current moment on the clock of the settings. -/
def now (host : Host ω) (place : Place) (settings : Settings) : Action ω Value :=
  match settings.clock with
  | .system => host.systemTime
  | .fixed v => pure v
  | .call f => invoke host place f []

/-- Whether a value passes a check. -/
def passes (host : Host ω) (place : Place) (validator : Nat) (check : Check) (v : Value) :
    Action ω Bool :=
  match check with
  | .must f => do
    let outcome ← invoke host place f [v]
    pure outcome.truthy
  | check =>
    match check.predicate?, check.datePredicate? with
    | some test, _ => test v
    | none, some test => do
      let settings := (← get).settingsOf validator
      let moment ← now host place settings
      test host.zone v moment
    | none, none => pure true

/-- The messages of the checks that a value does not pass. -/
def failing (host : Host ω) (place : Place) (validator : Nat) (v : Value) :
    List Entry → Action ω (List Value)
  | [] => pure []
  | e :: es => do
    let passed ← passes host place validator e.check v
    let messages ← failing host place validator v es
    pure (if passed then messages else e.message :: messages)

/-- The messages of a chain for an object. The chain is read once its property has been. -/
def batched (host : Host ω) (place : Place) (p : Property) (chain : Nat) (object : Value) :
    Action ω (List Value) := do
  let v ← readProperty host place p object
  let s ← get
  let validator := (s.chains[chain]?).elim 0 (·.validator)
  failing host place validator v (s.entriesOf chain)

/-- Turns the fault that ends an iteration into one that says so: it cannot leave something that
is waited for. -/
def insideCoroutine {α : Type} (a : Action ω α) : Action ω α :=
  tryCatch a fun
    | .raised "StopIteration" _ => throw .stopInsideCoroutine
    | e => throw e

/-- Calls the predicate of a check that may have to be waited for. -/
def callStandalone (host : Host ω) (place : Place) (p : Property) (check : StandaloneCheck)
    (object : Value) : Action ω Value :=
  match check with
  | .own f => do
    let v ← readProperty host place p object
    invoke host place f [v]
  | .dependent other f => do
    let v ← readProperty host place p object
    let w ← readProperty host place other object
    invoke host place f [v, w]

/-- The messages of a check that may have to be waited for, at the place where it is driven. -/
def standalone (host : Host ω) (place : Place) (p : Property) (check : StandaloneCheck)
    (message object : Value) : Action ω (List Value) :=
  insideCoroutine do
    let outcome ← callStandalone host place p check object
    let outcome ← await host place outcome
    pure (if outcome.truthy then [] else [message])

/-! ## Waiting in code that does not wait -/

/-- Starts a loop on the thread of a place. What it drives has a copy of the context there. -/
def startLoop (host : Host ω) (place : Place) : Action ω Place := do
  let loop ← host.fresh
  let context ← host.fresh
  pure { place with loop := some loop, context }

/-- Starts a thread. It has a context of its own, and no loop is running on it. -/
def startThread (host : Host ω) : Action ω Place := do
  let thread ← host.fresh
  let context ← host.fresh
  pure ⟨none, thread, context⟩

/-- Drives something that has to be waited for to its end. If a loop is running already, this
blocks it, which the settings have to allow. -/
def resolveBlocking {α : Type} (host : Host ω) (place : Place) (validator : Nat)
    (coroutine : Place → Action ω α) : Action ω α := do
  if !place.hasLoop then do
    let inside ← startLoop host place
    coroutine inside
  else do
    let s ← get
    if !(s.settingsOf validator).allowBlocking.truthy then
      throw (.blockingForbidden (s.classNameOf validator))
    else do
      let thread ← startThread host
      let inside ← startLoop host thread
      coroutine inside

/-! ## Rules one after the other -/

/-- The report with the messages of a rule added under the name of its property. -/
def collect (report : Report) (name : Value) (messages : List Value) : Except Fault Report :=
  if messages.isEmpty then .ok report
  else do
    name.checkHashable
    pure (report.addAll name messages)

/-- Whether a signal, if there is one, is set. -/
def isCancelled (signal : Option Nat) : Action ω Bool :=
  match signal with
  | none => pure false
  | some g => Action.poll g

/-- The record of a run that was stopped. -/
def cancelledText (className : String) (done total : Nat) : String :=
  className ++ ": validation cancelled after " ++ toString done ++ " of " ++ toString total ++
    " rules"

/-- Leaves the record of a run that was stopped. -/
def logCancelled (validator done total : Nat) : Action ω Unit := do
  let s ← get
  Action.log .info (cancelledText (s.classNameOf validator) done total)

/-- Runs rules in order from code that does not wait, and adds what they report; `done` rules of
`total` have been run. -/
def validateRules (host : Host ω) (place : Place) (validator : Nat) (object : Value)
    (signal : Option Nat) (total : Nat) : List Rule → Nat → Report → Action ω Report
  | [], _, report => pure report
  | r :: rs, done, report => do
    if ← isCancelled signal then
      logCancelled validator done total
      pure report
    else do
      let messages ← match r with
        | .batched p chain => batched host place p chain object
        | .standalone p check message =>
          resolveBlocking host place validator fun inside =>
            standalone host inside p check message object
      let report ← collect report r.property.name messages
      validateRules host place validator object signal total rs (done + 1) report

/-- The report of a validator on an object. Rules that may have to be waited for are driven to
their end one by one. -/
def validate (host : Host ω) (place : Place) (validator : Nat) (object : Value)
    (signal : Option Nat) : Action ω Report := do
  let rules := (← get).rulesOf validator
  validateRules host place validator object signal rules.length rules 0 .empty

/-- Runs rules in order from code that waits, and adds what they report; `done` rules of `total`
have been run. -/
def awaitRules (host : Host ω) (place : Place) (validator : Nat) (object : Value)
    (signal : Option Nat) (total : Nat) : List Rule → Nat → Report → Action ω Report
  | [], _, report => pure report
  | r :: rs, done, report => do
    if ← isCancelled signal then
      logCancelled validator done total
      pure report
    else do
      let messages ← match r with
        | .batched p chain => batched host place p chain object
        | .standalone p check message => standalone host place p check message object
      let report ← collect report r.property.name messages
      awaitRules host place validator object signal total rs (done + 1) report

/-- The report of a validator on an object, as something to be waited for. Rules that may have to
be waited for are awaited in the loop that runs it. -/
def validateAsync (host : Host ω) (place : Place) (validator : Nat) (object : Value)
    (signal : Option Nat) : Action ω Report :=
  insideCoroutine do
    let rules := (← get).rulesOf validator
    awaitRules host place validator object signal rules.length rules 0 .empty

end Run

end Rulebook

import Rulebook.Proofs.Action

/-!
# The two loops of a run

`Run.validate` and `Run.validateAsync` go through the rules in loops of their own, which differ in
a rule that may have to be waited for. What the two have in common is said of one loop with a mode;
each of them is this loop in its mode.

* `Mode`: how a validator is run, and where.
* `Run.drivenAt`: the place where a rule that may have to be waited for is driven.
* `Run.runRules`: the common loop; it is the loop of both (`Run.validateRules_eq`,
  `Run.awaitRules_eq`).
* `Run.run`: a validation in a mode.
-/

namespace Rulebook

variable {ω α : Type}

/-- How a validator is run, and where. -/
inductive Mode where
  /-- From code that does not wait. -/
  | blocking (place : Place)
  /-- From code that waits. -/
  | awaited (place : Place)

/-- Where a run in the mode is. -/
def Mode.place : Mode → Place
  | .blocking place => place
  | .awaited place => place

namespace Run

open Rulebook.Action

variable (host : Host ω) (mode : Mode) (validator : Nat) (object : Value)

/-- Where a rule that may have to be waited for is driven, if it is not refused. -/
def drivenAt : Action ω Place :=
  match mode with
  | .blocking place => resolveBlocking host place validator pure
  | .awaited place => pure place

/-- The messages of a rule for an object. -/
def runRule : Rule → Action ω (List Value)
  | .batched p chain => batched host mode.place p chain object
  | .standalone p check message => do
    let inside ← drivenAt host mode validator
    standalone host inside p check message object

/-- Runs rules in order and adds what they report; `done` rules of `total` have been run. -/
def runRules (signal : Option Nat) (total : Nat) : List Rule → Nat → Report → Action ω Report
  | [], _, report => pure report
  | r :: rs, done, report => do
    let stop ← isCancelled signal
    if stop then do
      logCancelled validator done total
      pure report
    else do
      let messages ← runRule host mode validator object r
      let report ← collect report r.property.name messages
      runRules signal total rs (done + 1) report

/-- Runs the rules that a validator has now. -/
def runAll (signal : Option Nat) : Action ω Report := do
  let rules := (← get).rulesOf validator
  runRules host mode validator object signal rules.length rules 0 .empty

/-- The report of a validator on an object, in a mode. -/
def run (signal : Option Nat) : Action ω Report :=
  match mode with
  | .blocking place => validate host place validator object signal
  | .awaited place => validateAsync host place validator object signal

variable {host mode validator object}

/-- Something that has to be waited for runs where it is driven. -/
theorem resolveBlocking_eq (place : Place) (coroutine : Place → Action ω α) :
    resolveBlocking host place validator coroutine =
      resolveBlocking host place validator pure >>= coroutine := by
  unfold resolveBlocking
  split
  · simp
  · simp only [bind_assoc]
    refine congrArg _ (funext fun s => ?_)
    split <;> simp

/-- The loop of code that does not wait is the common one. -/
theorem validateRules_eq (place : Place) (signal : Option Nat) (total : Nat) (rs : List Rule)
    (done : Nat) (report : Report) :
    validateRules host place validator object signal total rs done report =
      runRules host (.blocking place) validator object signal total rs done report := by
  induction rs generalizing done report with
  | nil => rfl
  | cons r rs ih =>
    cases r with
    | batched p chain => simp only [validateRules, runRules, runRule, Mode.place, ih]
    | standalone p check message =>
      simp only [validateRules, runRules, runRule, drivenAt, ih]
      rw [resolveBlocking_eq]

/-- The loop of code that waits is the common one. -/
theorem awaitRules_eq (place : Place) (signal : Option Nat) (total : Nat) (rs : List Rule)
    (done : Nat) (report : Report) :
    awaitRules host place validator object signal total rs done report =
      runRules host (.awaited place) validator object signal total rs done report := by
  induction rs generalizing done report with
  | nil => rfl
  | cons r rs ih =>
    cases r with
    | batched p chain => simp only [awaitRules, runRules, runRule, Mode.place, ih]
    | standalone p check message =>
      simp only [awaitRules, runRules, runRule, drivenAt, pure_bind, ih]

theorem validate_eq (place : Place) (signal : Option Nat) :
    validate host place validator object signal =
      runAll host (.blocking place) validator object signal := by
  simp only [validate, runAll, validateRules_eq]

theorem validateAsync_eq (place : Place) (signal : Option Nat) :
    validateAsync host place validator object signal =
      insideCoroutine (runAll host (.awaited place) validator object signal) := by
  simp only [validateAsync, runAll, awaitRules_eq]

end Run

end Rulebook

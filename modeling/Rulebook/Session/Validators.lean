import Rulebook.Declare
import Rulebook.Session.Eval
import Rulebook.Settings.Mapping

/-!
# Validators of a session

A validator is made of its class: it gets settings, and then declares the rules of its class in
order. Nothing is undone if that fails; the validator is just not found under a name.
-/

namespace Rulebook

namespace Session

/-! ## Settings -/

/-- Adds settings and gives their number. -/
def addSettings (settings : Settings) : Play Nat := do
  let n := (← get).settings.length
  modify fun s => { s with settings := s.settings ++ [settings] }
  pure n

/-- Settings of what is given; a moment that is given stands still. -/
def givenSettings (message blocking moment : Option Term) : Play Settings := do
  let message ← evalOption message
  let blocking ← evalOption blocking
  let moment ← evalOption moment
  Settings.make ((moment.map .fixed).getD .system) (message.getD (.str defaultTemplate))
    (blocking.getD (.bool true))

/-- The number of the settings that a term stands for. -/
def settingsOf : SettingsTerm → Play Nat
  | .named id => Play.settingsNamed id
  | .given message blocking moment => do
    let settings ← givenSettings message blocking moment
    addSettings settings

/-- The number of the settings of a term, if there is one. -/
def settingsOption : Option SettingsTerm → Play (Option Nat)
  | none => pure none
  | some t => do return some (← settingsOf t)

/-! ## Rules -/

/-- Calls on a chain in order. The first one that fails ends them. -/
def makeCalls (chain : Nat) : List (String × List Term) → Play Unit
  | [] => pure ()
  | (method, args) :: rest => do
    let args ← Term.evalAll args
    Chain.call chain method args
    makeCalls chain rest

/-- Declares rules on properties of a validator. -/
def declareRules (validator : Nat) : List RuleTerm → Play Unit
  | [] => pure ()
  | r :: rest => do
    let selector ← r.selector.eval
    let chain ← Validator.ruleFor validator selector
    makeCalls chain r.calls
    declareRules validator rest

/-! ## Validators -/

/-- The validated type of a class, if it names one. -/
def modelOfClass (s : State) (c : ValidatorClass) : Option Model :=
  match c.model with
  | .none => none
  | v => some (s.modelOfValue v)

/-- Makes a validator of a class and gives its number. -/
def makeValidator (c : KnownClass) (settings : Option Nat) : Play Nat := do
  if c.class_.isAbstract then throw (.abstractClass c.class_.info.name)
  let settings ← match settings with
    | some n => pure n
    | none => addSettings .default
  let model := modelOfClass (← Play.state) c.class_
  let n := (← get).validators.length
  modify fun s => { s with
    validators := s.validators ++ [⟨c.class_.info.name, model, settings, []⟩] }
  declareRules n c.rules
  pure n

/-- A validator. -/
def validatorAt (v : Nat) : Play Validator := do
  match (← get).validators[v]? with
  | some validator => pure validator
  | none => throw .unbounded

/-- How a validator is shown. -/
def validatorText (v : Nat) : Play String := do
  let validator ← validatorAt v
  validator.shown

/-- How a chain is shown. -/
def chainText (c : Nat) : Play String := do
  let chain ← Chain.find c
  chain.shown

end Session

end Rulebook

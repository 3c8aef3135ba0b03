import Rulebook.Session.Validators

/-!
# Steps on validators

Making validators, declaring rules on them and looking at them; running them with a signal or
without; reading properties.
-/

namespace Rulebook

namespace Session

/-! ## Validators and rules -/

/-- The class of validators of a name. -/
def classNamed (name : String) : Play KnownClass := do
  match (← Play.state).class? name with
  | some c => pure c
  | none => throw (.unknownId name)

/-- Makes a validator of a class under a name. -/
def newValidator (id className : String) (settings : Option SettingsTerm) : Play Answer := do
  let settings ← settingsOption settings
  let c ← classNamed className
  let v ← makeValidator c settings
  Play.bindName id (.validator v)
  return .value (.str (← validatorText v))

/-- The type that a class of validators validates. -/
def classModel (className : String) : Play Answer := do
  let c ← classNamed className
  pure (.value c.class_.model)

/-- Starts a chain under a name and makes calls on it. The chain keeps its name if they fail. -/
def addRule (validator : String) (selector : Term) (id : String)
    (calls : List (String × List Term)) : Play Answer := do
  let v ← Play.validatorNamed validator
  let selector ← selector.eval
  let c ← Validator.ruleFor v selector
  Play.bindName id (.chain c)
  makeCalls c calls
  return .value (.str (← chainText c))

/-- Makes more calls on a chain. -/
def addCalls (id : String) (calls : List (String × List Term)) : Play Answer := do
  let c ← Play.chainNamed id
  makeCalls c calls
  return .value (.str (← chainText c))

/-- What is told of a chain. -/
def describeChain (id : String) : Play Answer := do
  let c ← Play.chainNamed id
  let chain ← Chain.find c
  let text ← chain.shown
  pure (.chain text chain.property.name chain.registered (chain.entries.map (·.message)))

/-- The messages of a rule. -/
def ruleMessages (s : Store State) : Rule → List Value
  | .batched _ c => (s.entriesOf c).map (·.message)
  | .standalone _ _ message => [message]

/-- What is told of a rule. -/
def describeRule (s : Store State) (r : Rule) : Except Fault RuleAnswer := do
  let text ← r.shown s
  pure ⟨r.property.name, r.suspending, text, ruleMessages s r⟩

/-- What is told of rules. -/
def describeRules (s : Store State) : List Rule → Except Fault (List RuleAnswer)
  | [] => .ok []
  | r :: rs => do
    let answer ← describeRule s r
    let answers ← describeRules s rs
    pure (answer :: answers)

/-- What is told of the rules of a validator. -/
def listRules (validator : String) : Play Answer := do
  let v ← Play.validatorNamed validator
  let text ← validatorText v
  let s ← get
  let rules ← describeRules s (s.rulesOf v)
  pure (.rules text rules)

/-! ## Running -/

/-- A new signal that is set as told, and its number. -/
def addSignal (c : Cancellation) : Play Nat := do
  let signal : Signal := match c with
    | .always => ⟨fun _ => true, false, 0⟩
    | .never => ⟨fun _ => false, false, 0⟩
    | .after n => ⟨fun polls => decide (n ≤ polls), false, 0⟩
  let g := (← get).signals.length
  modify fun s => { s with signals := s.signals ++ [signal] }
  pure g

/-- Runs something as a validation that has a signal. -/
def withSignal {α : Type} (signal : Option Nat) (a : Play α) : Play α :=
  match signal with
  | none => a
  | some g => do
    Play.modifyState fun s => { s with signals := g :: s.signals }
    Play.andAfter a fun s =>
      { s with extra := { s.extra with signals := s.extra.signals.drop 1 } }

/-- How often a signal was asked. -/
def pollsOf (signal : Option Nat) : Play (Option Nat) := do
  let s ← get
  pure (signal.map fun g => (s.signals[g]?).elim 0 (·.polls))

/-- Adds a report and gives its number. -/
def addReport (r : Report) : Play Nat := do
  let n := (← Play.state).reports.length
  Play.modifyState fun s => { s with reports := s.reports ++ [r] }
  pure n

/-- The report of a validator on an object, made in one of the ways at a place. What is run in a
loop of its own is waited for. -/
def reportOn (host : Host State) (place : Place) (v : Nat) (object : Value) (way : Way)
    (signal : Option Nat) : Play Report :=
  match way with
  | .blocking => Run.validate host place v object signal
  | .inLoop => do
    let inside ← Run.startLoop host place
    Run.insideCoroutine (Run.validate host inside v object signal)
  | .awaited => do
    let inside ← Run.startLoop host place
    Run.validateAsync host inside v object signal

/-- Runs a validator on an object and keeps the report under a name. -/
def runValidator (host : Host State) (place : Place) (validator : String) (object : Term)
    (way : Way) (cancel : Option Cancellation) (save : String) : Play Answer := do
  let v ← Play.validatorNamed validator
  let object ← object.eval
  let signal ← match cancel with
    | none => pure none
    | some c => do
      let g ← addSignal c
      pure (some g)
  let report ← withSignal signal (reportOn host place v object way signal)
  let r ← addReport report
  Play.bindName save (.report r)
  let polls ← pollsOf signal
  pure (.report report polls)

/-- The messages of a rule for an object. One that may have to be waited for gets a loop. -/
def messagesOf (host : Host State) (place : Place) (object : Value) : Rule → Play (List Value)
  | .batched p chain => Run.batched host place p chain object
  | .standalone p check message => do
    let inside ← Run.startLoop host place
    Run.standalone host inside p check message object

/-- Runs one rule of a validator on an object. -/
def runOneRule (host : Host State) (place : Place) (validator : String) (index : Nat)
    (object : Term) : Play Answer := do
  let v ← Play.validatorNamed validator
  let object ← object.eval
  match ((← get).rulesOf v)[index]? with
  | none => throw (.indexOutOfRange "tuple")
  | some r => do
    let messages ← messagesOf host place object r
    pure (.value (.list (messages.map fun m => .tuple [r.property.name, m])))

/-! ## Settings of a validator -/

/-- Changes the settings of a validator. -/
def changeSettings (validator : String) (f : Settings → Settings) : Play Answer := do
  let v ← Play.validatorNamed validator
  let validator ← validatorAt v
  modify fun s => { s with settings := s.settings.modify validator.settings f }
  pure (.value .none)

/-- Gives the settings of a validator a clock that stands still. -/
def setNow (validator : String) (moment : Term) : Play Answer := do
  let moment ← moment.eval
  changeSettings validator fun s => { s with clock := .fixed moment }

/-- Gives the settings of a validator a default message, which is not looked at. -/
def setTemplate (validator : String) (template : Term) : Play Answer := do
  let template ← template.eval
  changeSettings validator fun s => { s with defaultMessage := template }

/-! ## Properties -/

/-- Whether a selector is a property already. -/
def isProperty : Value → Bool
  | .property _ _ _ => true
  | _ => false

/-- How the declared type of a property is shown, if there is one. -/
def typeText : DeclaredType → Except Fault (Option String)
  | .nothing => .ok none
  | a => a.text.map some

/-- The property that a selector stands for, and what it reads from an object. -/
def resolveSelector (host : Host State) (place : Place) (selector : Term) (model : Option String)
    (object : Option Term) : Play Answer := do
  let selector ← selector.eval
  let s ← Play.state
  let p ← Property.resolve selector (model.map fun name => s.modelOfValue (s.classValue name))
  let read ← match object with
    | none => pure none
    | some t => do
      let object ← t.eval
      let v ← Run.readProperty host place p object
      pure (some v)
  let shown ← typeText p.declared
  pure (.property p.name shown (isProperty selector) read)

/-- What reads the property of a name, and what it reads from an object. -/
def readAttribute (name : String) (object : Term) : Play Answer := do
  let object ← object.eval
  let v ← object.read name
  pure (.accessor ("read_" ++ name) v)

end Session

end Rulebook

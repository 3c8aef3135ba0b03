import Rulebook.Check
import Rulebook.Property
import Rulebook.Report

/-!
# Validators and their rules

A validator has a list of rules. The checks that are declared one after the other on a property
form a chain; the first of them registers one rule for the whole chain, and this rule reads the
chain whenever it runs. Checks that may have to be waited for have rules of their own.

All of this lives in a store that declarations and the things they call can change. An action
runs on a store and leaves one, whether it fails or not.

* `Action`: what runs on a store.
* `Place`: where code runs.
* `Host`: what a call does there, given from outside.
-/

namespace Rulebook

/-- What tells the current moment. -/
inductive Clock where
  /-- The clock of the surroundings. -/
  | system
  /-- A clock that stands still. -/
  | fixed (moment : Value)
  /-- Something to be called. -/
  | call (f : Value)

/-- What the rules of a validator share. -/
structure Settings where
  clock : Clock
  defaultMessage : Value
  allowBlocking : Value

/-- The message template of the settings if none is given. -/
def defaultTemplate : String := "The \x7bfield\x7d field is invalid."

/-- The settings if none are given. -/
def Settings.default : Settings := ⟨.system, .str defaultTemplate, .bool true⟩

/-- A check with its message. -/
structure Entry where
  check : Check
  message : Value

/-- The checks declared on a property, and whether a rule reads them. -/
structure Chain where
  validator : Nat
  property : Property
  entries : List Entry
  registered : Bool

/-- A check that may have to be waited for. -/
inductive StandaloneCheck where
  /-- On the property itself. -/
  | own (predicate : Value)
  /-- On the property and another one. -/
  | dependent (other : Property) (predicate : Value)

/-- A rule of a validator. -/
inductive Rule where
  /-- The checks of a chain. -/
  | batched (property : Property) (chain : Nat)
  | standalone (property : Property) (check : StandaloneCheck) (message : Value)

namespace Rule

/-- The property of a rule. -/
def property : Rule → Property
  | .batched p _ => p
  | .standalone p _ _ => p

/-- Whether the rule may have to be waited for. -/
def suspending : Rule → Bool
  | .batched _ _ => false
  | .standalone _ _ _ => true

end Rule

/-- A validator: the name of its class, the validated type, its settings and its rules. -/
structure Validator where
  className : String
  model : Option Model
  settings : Nat
  rules : List Rule

/-- A signal to stop: what it answers when it is asked for the nth time, whether it has been set,
and how often it has been asked. -/
structure Signal where
  answers : Nat → Bool
  isSet : Bool
  polls : Nat

/-- How important a record of the log is. -/
inductive LogLevel where
  | info
  | warning
deriving DecidableEq, Repr

/-- A record of the log. -/
structure LogRecord where
  level : LogLevel
  text : String
deriving DecidableEq, Repr

/-- Everything that declarations and runs can change; `extra` is for those who call. -/
structure Store (ω : Type) where
  validators : List Validator
  chains : List Chain
  settings : List Settings
  signals : List Signal
  log : List LogRecord
  /-- How many items iterators have given. -/
  drained : List (Nat × Nat)
  extra : ω

/-- What runs on a store. -/
abbrev Action (ω : Type) (α : Type) := ExceptT Fault (StateM (Store ω)) α

/-- Where code runs: the loop that is running there, if there is one, the thread and the context,
each by its number. -/
structure Place where
  loop : Option Nat
  thread : Nat
  context : Nat
deriving DecidableEq, Repr

/-- Whether a loop is running at the place. -/
def Place.hasLoop (place : Place) : Bool := place.loop.isSome

/-- What is given from outside: what a call does, what the clocks show, and the loops, threads and
contexts that can be had. -/
structure Host (ω : Type) where
  /-- How many seconds the local clock is ahead of universal time. -/
  zone : Int
  /-- What the body of a call does at a place. -/
  body : Place → Value → List Value → Action ω Value
  /-- The moment on the clock of the surroundings. -/
  systemTime : Action ω Value
  /-- The number of the next loop, thread or context that is made. -/
  fresh : Action ω Nat

namespace Store

variable {ω : Type}

/-- A store with nothing in it. -/
def empty (extra : ω) : Store ω := ⟨[], [], [], [], [], [], extra⟩

/-- The rules of a validator. -/
def rulesOf (s : Store ω) (v : Nat) : List Rule :=
  match s.validators[v]? with
  | some validator => validator.rules
  | none => []

/-- The checks of a chain. -/
def entriesOf (s : Store ω) (c : Nat) : List Entry :=
  match s.chains[c]? with
  | some chain => chain.entries
  | none => []

/-- The settings of a validator. -/
def settingsOf (s : Store ω) (v : Nat) : Settings :=
  match s.validators[v]? with
  | some validator => (s.settings[validator.settings]?).getD .default
  | none => .default

/-- The validated type of a validator. -/
def modelOf (s : Store ω) (v : Nat) : Option Model := (s.validators[v]?).bind (·.model)

/-- The class name of a validator. -/
def classNameOf (s : Store ω) (v : Nat) : String :=
  match s.validators[v]? with
  | some validator => validator.className
  | none => ""

/-- Changes a validator. -/
def modifyValidator (s : Store ω) (v : Nat) (f : Validator → Validator) : Store ω :=
  { s with validators := s.validators.modify v f }

/-- Changes a chain. -/
def modifyChain (s : Store ω) (c : Nat) (f : Chain → Chain) : Store ω :=
  { s with chains := s.chains.modify c f }

/-- Adds a rule behind those of a validator. -/
def addRule (s : Store ω) (v : Nat) (r : Rule) : Store ω :=
  s.modifyValidator v fun validator => { validator with rules := validator.rules ++ [r] }

/-- Writes to the log. -/
def write (s : Store ω) (level : LogLevel) (text : String) : Store ω :=
  { s with log := s.log ++ [⟨level, text⟩] }

end Store

namespace Action

variable {ω α : Type}

/-- Asks a signal whether it is set. -/
def poll (signal : Nat) : Action ω Bool := do
  let s ← get
  match s.signals[signal]? with
  | none => pure false
  | some g => do
    set { s with signals := s.signals.set signal { g with polls := g.polls + 1 } }
    pure (g.isSet || g.answers g.polls)

/-- Writes to the log. -/
def log (level : LogLevel) (text : String) : Action ω Unit := modify fun s => s.write level text

/-- The items that a value gives one after the other; an iterator gives those that are left. -/
def elements (v : Value) : Action ω (List Value) := do
  match v with
  | .iterator id items => do
    let s ← get
    let given := (s.drained.lookup id).getD 0
    set { s with drained := (id, items.length) :: s.drained }
    pure (items.drop given)
  | v => v.elements

end Action

end Rulebook

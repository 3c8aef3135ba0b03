import Rulebook.Registry
import Rulebook.Session.Term

/-!
# The state of a session

What a session has made so far: identities that are taken, functions that can be called, the
classes and modules that are known, reports and registries, files, and the names under which
objects can be found. A name is bound again when it is used again.

* `Answer`: what a step answers.
-/

namespace Rulebook

namespace Session

/-! ## Answers -/

/-- What is told of a rule. -/
structure RuleAnswer where
  property : Value
  suspending : Bool
  shown : String
  messages : List Value

/-- What a step answers. -/
inductive Answer where
  | value (v : Value)
  /-- A report, and how often its signal was asked. -/
  | report (r : Report) (polls : Option Nat)
  | reportInfo (isValid : Bool) (shown : String) (mapping : Value)
  | reportCopy (copy : Value) (r : Report)
  | chain (shown : String) (property : Value) (registered : Bool) (messages : List Value)
  | rules (shown : String) (rules : List RuleAnswer)
  /-- A property: whether it is the selector itself, and what it reads. -/
  | property (name : Value) (type : Option String) (isSelector : Bool) (read : Option Value)
  | accessor (name : String) (v : Value)
  | settings (message blocking : Value) (isSystemClock : Bool)
  | registry (name : Value) (keys items : List Value)
  | metadata (copy stored : Value)
  | validator (shown : String) (message : Value)
  /-- A fault of the library with its details. -/
  | fault (text : String) (details : Value) (kinds : List LibraryFault) (errors : Option Value)

/-- What is left where functions are called. -/
inductive TraceEntry where
  /-- A function with a tag was called. -/
  | called (tag : String) (args : List Value)
  /-- A step was run by a function. -/
  | step (outcome : Except Fault Answer)

/-! ## State -/

/-- A function that can be called. -/
structure Function where
  tag : Option String
  body : Body

/-- A class of validators with the rules that its objects declare. -/
structure KnownClass where
  class_ : ValidatorClass
  rules : List RuleTerm

/-- A registry, and whether it is one of validators. -/
structure KnownRegistry where
  registry : Registry
  ofValidators : Bool

/-- What a name stands for. -/
inductive Named where
  | validator (v : Nat)
  | chain (c : Nat)
  | report (r : Nat)
  | settings (s : Nat)
  | registry (g : Nat)

/-- The state of a session besides its validators. -/
structure State where
  zone : Int
  /-- The next identity. -/
  fresh : Nat
  functions : Array Function
  models : List Model
  classes : List KnownClass
  modules : List ModuleInfo
  reports : List Report
  registries : List KnownRegistry
  files : List (String × FileContent)
  names : List (String × Named)
  trace : List TraceEntry
  /-- The signals of the validations that are running, the innermost first. -/
  signals : List Nat

/-- The state at the start. -/
def State.start (zone : Int) : State :=
  ⟨zone, 1, #[], [], [⟨.root, []⟩], [], [], [], [], [], [], []⟩

/-- What runs in a session. -/
abbrev Play (α : Type) := Action State α

namespace Play

/-- The state of the session. -/
def state : Play State := do return (← get).extra

/-- Changes the state of the session. -/
def modifyState (f : State → State) : Play Unit := modify fun s => { s with extra := f s.extra }

/-- An identity that has not been used. -/
def freshId : Play Nat := do
  let n := (← state).fresh
  modifyState fun s => { s with fresh := n + 1 }
  pure n

/-- Makes a function known and gives its number. -/
def addFunction (f : Function) : Play Nat := do
  let n := (← state).functions.size
  modifyState fun s => { s with functions := s.functions.push f }
  pure n

/-- Binds a name. -/
def bindName (id : String) (n : Named) : Play Unit :=
  modifyState fun s => { s with names := (id, n) :: s.names }

/-- What a name stands for, where only some things will do. -/
def named {α : Type} (id : String) (choose : Named → Option α) : Play α := do
  match ((← state).names.lookup id).bind choose with
  | some a => pure a
  | none => throw (.unknownId id)

/-- The number of a validator. -/
def validatorNamed (id : String) : Play Nat :=
  named id fun
    | .validator v => some v
    | _ => none

/-- The number of a chain. -/
def chainNamed (id : String) : Play Nat :=
  named id fun
    | .chain c => some c
    | _ => none

/-- The number of a report. -/
def reportNamed (id : String) : Play Nat :=
  named id fun
    | .report r => some r
    | _ => none

/-- The number of settings. -/
def settingsNamed (id : String) : Play Nat :=
  named id fun
    | .settings s => some s
    | _ => none

/-- The number of a registry. -/
def registryNamed (id : String) : Play Nat :=
  named id fun
    | .registry g => some g
    | _ => none

/-- Runs something, and something else after it whether it fails or not. -/
def andAfter {α : Type} (a : Play α) (cleanup : Store State → Store State) : Play α :=
  fun s =>
    let (result, s) := a.run s
    (result, cleanup s)

/-- Leaves something in the trace. -/
def leave (e : TraceEntry) : Play Unit := modifyState fun s => { s with trace := s.trace ++ [e] }

end Play

end Session

end Rulebook

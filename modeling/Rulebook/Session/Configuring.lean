import Rulebook.Document.Yaml
import Rulebook.Session.Validators

/-!
# Steps on settings

Settings from values, mappings, environments and files. A file that is written stays for later
steps.
-/

namespace Rulebook

namespace Session

/-- Runs something that writes to a log of its own. -/
def logged {α : Type} (a : Logged α) : Play α := do
  let (result, records) := a.run []
  records.forM fun r => Action.log r.level r.text
  result

/-- Writes a file, if there is something to write, and gives what is under its name. -/
def fileNamed (name : String) (content : Option FileContent) : Play (Option FileContent) := do
  match content with
  | none => return (← Play.state).files.lookup name
  | some c => do
    Play.modifyState fun s => { s with files := (name, c) :: s.files }
    pure (some c)

/-- The environment that a value is. No value is the environment outside, which has none of the
variables that are looked at. -/
def environmentOf : Value → Value
  | .none => .dict []
  | v => v

/-- The number of the settings that a source gives. -/
def settingsFrom : SettingsSource → Play Nat
  | .given settings => settingsOf settings
  | .mapping t => do
    let v ← t.eval
    let settings ← logged (Settings.ofMapping v)
    addSettings settings
  | .environment start t => do
    let v ← t.eval
    let settings ← logged
      (Settings.ofEnvironment (start.getD Settings.defaultPrefix) (environmentOf v))
    addSettings settings
  | .ownEnvironment texts => do
    let entries ← Value.mapping (texts.map fun (name, text) => (.str name, .str text))
    let settings ← logged (Settings.ofEnvironment Settings.defaultPrefix (.dict entries))
    addSettings settings
  | .file name content => do
    let found ← fileNamed name content
    let settings ← logged (Settings.ofFile Yaml.load name found)
    addSettings settings

/-- Settings by their number. -/
def settingsAt (n : Nat) : Play Settings := do return ((← get).settings[n]?).getD .default

/-- Whether settings have the clock of the surroundings. -/
def isSystemClock : Clock → Bool
  | .system => true
  | _ => false

/-- Makes settings under a name. -/
def newSettings (id : String) (source : SettingsSource) : Play Answer := do
  let n ← settingsFrom source
  Play.bindName id (.settings n)
  let s ← settingsAt n
  pure (.settings s.defaultMessage s.allowBlocking (isSystemClock s.clock))

/-- The current moment on the clock of settings. -/
def momentOf (host : Host State) (place : Place) (id : String) : Play Answer := do
  let n ← Play.settingsNamed id
  let s ← settingsAt n
  let v ← Run.now host place s
  pure (.value v)

/-- Whether two clocks are the same. Two clocks that stand still are different ones. -/
def sameClock : Clock → Clock → Except Fault Bool
  | .system, .system => .ok true
  | .call f, .call g => f.equals g
  | _, _ => .ok false

/-- Whether two settings are equal. -/
def sameSettings (a b : Settings) : Except Fault Bool := do
  if !(← sameClock a.clock b.clock) then pure false
  else if !(← a.defaultMessage.same b.defaultMessage) then pure false
  else a.allowBlocking.same b.allowBlocking

end Session

end Rulebook

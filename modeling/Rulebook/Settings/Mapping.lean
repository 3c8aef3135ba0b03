import Rulebook.Store
import Rulebook.Text.Lower

/-!
# Settings from mappings

Settings are made of the entries of a mapping. Unknown entries are reported and passed over; the
template is looked at last, when all entries have been.

* `Settings.ofMapping`: the settings that a mapping stands for.
* `Settings.ofEnvironment`: the settings that the variables with a prefix stand for.
-/

namespace Rulebook

/-- What fails or not and writes to a log. -/
abbrev Logged (α : Type) := ExceptT Fault (StateM (List LogRecord)) α

namespace Settings

/-- The name of the setting for the clock. -/
def clockName : String := "clock"

/-- The name of the setting for the default message. -/
def messageName : String := "default_message"

/-- The name of the setting that allows a running loop to be blocked. -/
def blockingName : String := "allow_blocking_in_loop"

/-- Settings with a checked default message. -/
def make (clock : Clock) (message blocking : Value) : Except Fault Settings :=
  match message with
  | .str t => (Template.check t).map fun _ => ⟨clock, message, blocking⟩
  | v => do
    let shown ← v.shown
    .error (.templateNotText shown)

/-- Words for true. -/
def trueWords : List String := ["1", "true", "yes", "on"]

/-- Words for false. -/
def falseWords : List String := ["0", "false", "no", "off"]

/-- The truth value that a word stands for. -/
def wordValue? (text : String) : Option Bool :=
  let word := lowerText (String.ofList (strip text.toList))
  if word ∈ trueWords then some true else if word ∈ falseWords then some false else none

/-- The truth value that a setting stands for: itself, or that of its word. -/
def toBool (setting : String) (v : Value) : Except Fault Bool :=
  match v with
  | .bool b => .ok b
  | v => do
    let text ← v.text
    match wordValue? text with
    | some b => pure b
    | none => do
      let shown ← v.shown
      throw (.notBoolean setting shown)

/-- The entries of a mapping that have been looked at. -/
structure Entries where
  clock : Option Value
  message : Option Value
  blocking : Option Value

/-- No entries. -/
def Entries.none : Entries := ⟨.none, .none, .none⟩

/-- Looks at an entry; one with an unknown key is reported. -/
def Entries.add (e : Entries) (key v : Value) : Logged Entries :=
  match key with
  | .str "allow_blocking_in_loop" => do
    let b ← toBool blockingName v
    pure { e with blocking := some (.bool b) }
  | .str "clock" =>
    if v.isCallable then pure { e with clock := some v }
    else do
      let shown ← v.shown
      throw (.clockNotCallable shown)
  | .str "default_message" => pure { e with message := some v }
  | key => do
    let text ← key.text
    modify fun log => log ++ [⟨.warning, "Ignoring unknown validation setting: " ++ text⟩]
    pure e

/-- Looks at entries in order. -/
def Entries.addAll (e : Entries) : List (Value × Value) → Logged Entries
  | [] => pure e
  | (key, v) :: rest => do
    let e ← e.add key v
    e.addAll rest

/-- The settings that entries stand for; what is not given has its default. -/
def Entries.settings (e : Entries) : Except Fault Settings :=
  make ((e.clock.map .call).getD .system) (e.message.getD (.str defaultTemplate))
    (e.blocking.getD (.bool true))

/-- The settings that the entries of a mapping stand for. -/
def ofEntries (entries : List (Value × Value)) : Logged Settings := do
  let e ← Entries.none.addAll entries
  e.settings

/-- The settings that a mapping stands for. -/
def ofMapping (v : Value) : Logged Settings :=
  match v with
  | .dict entries => ofEntries entries
  | v => do
    let found ← v.getAttribute "items"
    throw (.notCallable found.typeName)

/-- The names of the variables that are looked at, behind the prefix, with their settings. -/
def variableNames : List (String × String) :=
  [("DEFAULT_MESSAGE", messageName), ("ALLOW_BLOCKING_IN_LOOP", blockingName)]

/-- The prefix of variables if none is given. -/
def defaultPrefix : String := "RULEKNOBS_"

/-- The entries for the variables that are there. -/
def variableEntries (start : String) (environment : Value) :
    List (String × String) → Except Fault (List (Value × Value))
  | [] => .ok []
  | (name, setting) :: rest => do
    let name := Value.str (start ++ name)
    if ← name.isIn environment then do
      let v ← environment.item name
      let others ← variableEntries start environment rest
      pure ((.str setting, v) :: others)
    else variableEntries start environment rest

/-- The settings that the variables with a prefix stand for. -/
def ofEnvironment (start : String) (environment : Value) : Logged Settings := do
  let entries ← variableEntries start environment variableNames
  ofEntries entries

end Settings

end Rulebook

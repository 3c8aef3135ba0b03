import Rulebook.Store
import Rulebook.Table
import Rulebook.ValidatorClass

/-!
# Registries

A registry keeps items under keys, each with details, in the order in which the keys came. Items
and details are kept in two tables; a registration puts the item first. A registry of validators
keeps classes of validators under the types they validate, and can take all classes of a module.

* `Registry.register`: puts an item and its details under a key.
* `Registry.registerValidator`, `Registry.registerModule`: register classes of validators.
-/

namespace Rulebook

/-- The readable name of a key: the qualified name of a class, and the text of anything else. -/
def describeKey : Value → Except Fault String
  | .class c _ => .ok c.qualname
  | v => v.text

/-- Items and their details under keys. -/
structure Registry where
  name : Value
  items : Table Value
  metadata : Table (List (Value × Value))

/-- What runs on a registry; it leaves one, whether it fails or not. -/
abbrev RegistryAction (α : Type) := ExceptT Fault (StateM Registry) α

namespace Registry

/-- A registry without items. -/
def empty (name : Value) : Registry := ⟨name, [], []⟩

/-! ## Details -/

/-- The elements of an element that is to be a pair. -/
def pairItems (index : Nat) (v : Value) : Except Fault (List Value) :=
  match v.elements with
  | .ok items => .ok items
  | .error _ => .error (.pairNotSequence index)

/-- The entries that elements stand for, if every one is a pair. -/
def pairs (made : List (Value × Value)) : Nat → List Value → Except Fault (List (Value × Value))
  | _, [] => .ok made
  | i, v :: rest => do
    match ← pairItems i v with
    | [key, value] => do
      key.checkHashable
      let made ← Value.insertEntry made key value
      pairs made (i + 1) rest
    | items => .error (.pairLength i items.length)

/-- The details that a value stands for: none if it is false, the entries of a mapping, or those
of pairs. -/
def detailsOf (v : Value) : Except Fault (List (Value × Value)) :=
  if v.truthy then
    match v with
    | .dict entries => .ok entries
    | v => do
      let items ← v.elements
      pairs [] 0 items
  else .ok []

/-! ## Operations -/

/-- Fails if there already is an item under a key. -/
def checkFree (key : Value) : RegistryAction Unit := do
  key.checkHashable
  let r ← get
  if r.items.contains key then do
    let described ← describeKey key
    let name ← r.name.text
    throw (.alreadyRegistered described r.name name)

/-- Puts an item and its details under a key. -/
def register (key item metadata : Value) (overwrite : Bool) : RegistryAction Unit := do
  if !overwrite then checkFree key
  key.checkHashable
  modify fun r => { r with items := r.items.insert key item }
  let details ← detailsOf metadata
  modify fun r => { r with metadata := r.metadata.insert key details }

/-- The readable names of keys. -/
def describeKeys : List Value → Except Fault (List String)
  | [] => .ok []
  | k :: ks => do
    let text ← describeKey k
    let texts ← describeKeys ks
    pure (text :: texts)

/-- The item under a key. -/
def get (r : Registry) (key : Value) : Except Fault Value := do
  key.checkHashable
  match r.items.find? key with
  | some item => pure item
  | none => do
    let described ← describeKey key
    let available ← describeKeys r.items.keys
    throw (.notRegistered described r.name (some available))

/-- The item under a key, if there is one. -/
def getOptional (r : Registry) (key : Value) : Except Fault (Option Value) := do
  key.checkHashable
  pure (r.items.find? key)

/-- The details of the item under a key. -/
def getMetadata (r : Registry) (key : Value) : Except Fault (List (Value × Value)) := do
  key.checkHashable
  match r.metadata.find? key with
  | some details => pure details
  | none => do
    let described ← describeKey key
    throw (.notRegistered described r.name none)

/-- Whether there is an item under a key. -/
def has (r : Registry) (key : Value) : Except Fault Bool := do
  key.checkHashable
  pure (r.items.contains key)

/-- The keys in the order in which they came. -/
def listKeys (r : Registry) : List Value := r.items.keys

/-- The items in the order in which their keys came. -/
def listItems (r : Registry) : List Value := r.items.map Prod.snd

/-- The number of items. -/
def count (r : Registry) : Nat := r.items.length

/-- The registry without its items. -/
def clear (r : Registry) : Registry := { r with items := [], metadata := [] }

/-! ## Classes of validators -/

/-- The class of validators that a value is, among those known. -/
def validatorClass? (classes : List ValidatorClass) : Value → Option ValidatorClass
  | .class c _ => classes.find? (·.info.id == c.id)
  | _ => none

/-- Registers a class of validators under a type, or under the type it names. -/
def registerValidator (classes : List ValidatorClass) (validator model : Value)
    (overwrite : Bool) : RegistryAction Value := do
  match validatorClass? classes validator with
  | none => do
    let shown ← validator.shown
    throw (.notAValidator shown)
  | some c => do
    let key := if model.truthy then model else c.model
    match key with
    | .none => throw (.noModel c.info.name)
    | key => do
      register key validator (.dict [(.str "module", .str c.info.module)]) overwrite
      let _ ← (Model.ofValue key).name
      pure key

end Registry

/-- A module: its name and what its attributes are bound to. -/
structure ModuleInfo where
  name : String
  members : List (String × Value)

namespace ModuleInfo

/-- The attributes in increasing order of their names; of several bindings of a name the last one
counts. -/
def bindings (m : ModuleInfo) : List (String × Value) :=
  let latest := m.members.foldl (fun (made : List (String × Value)) (n, v) =>
    if made.any (·.1 == n) then made.map fun (k, w) => if k == n then (k, v) else (k, w)
    else made ++ [(n, v)]) []
  latest.mergeSort fun a b => decide (a.1 ≤ b.1)

end ModuleInfo

/-- A registry and the log of what is done to it. -/
structure RegistryLog where
  registry : Registry
  log : List LogRecord

/-- What runs on a registry and writes to a log. -/
abbrev RegistryScan (α : Type) := ExceptT Fault (StateM RegistryLog) α

namespace Registry

/-- Runs an action on the registry alone. -/
def onRegistry {α : Type} (a : RegistryAction α) : RegistryScan α :=
  fun (s : RegistryLog) =>
    let (result, r) := a.run s.registry
    (result, { s with registry := r })

/-- Writes to the log. -/
def logScan (level : LogLevel) (text : String) : RegistryScan Unit :=
  modify fun s => { s with log := s.log ++ [⟨level, text⟩] }

/-- Whether a class of validators is one to register in a module: not the class that all come
from, defined in the module, and with nothing left open. -/
def isCandidate (moduleName : String) (c : ValidatorClass) : Bool :=
  c.info.id != ValidatorClass.base.id && c.info.module == moduleName && !c.isAbstract

/-- Registers a candidate, and tells whether it was one to count: a class without a type is
reported, and one that has it from its base alone is passed over. -/
def scanClass (classes : List ValidatorClass) (c : ValidatorClass) (member : Value) :
    RegistryScan Bool := do
  match c.model with
  | .none => do
    logScan .warning ("Skipping " ++ c.info.name ++ ": no model type declared")
    pure false
  | model =>
    if c.namesModel then do
      let _ ← onRegistry (registerValidator classes member .none false)
      pure true
    else do
      let _ ← (Model.ofValue model).name
      pure false

/-- Registers the classes among attributes in order and counts them. -/
def scanMembers (classes : List ValidatorClass) (moduleName : String) :
    List (String × Value) → RegistryScan Nat
  | [] => pure 0
  | (_, member) :: rest => do
    let registered ← match validatorClass? classes member with
      | some c => if isCandidate moduleName c then scanClass classes c member else pure false
      | none => pure false
    let n ← scanMembers classes moduleName rest
    pure (if registered then n + 1 else n)

/-- Registers the classes of validators that are defined in a module, and gives their number. -/
def registerModule (classes : List ValidatorClass) (m : ModuleInfo) : RegistryScan Nat := do
  let n ← scanMembers classes m.name m.bindings
  logScan .info ("Registered " ++ toString n ++ " validators from " ++ m.name)
  pure n

/-- The modules of the rule library itself that hold no classes to register. -/
def ownModules : List ModuleInfo :=
  ["ruleknobs_common", "ruleknobs_common.exceptions", "ruleknobs_common.registry",
    "ruleknobs_validation", "ruleknobs_validation.builder", "ruleknobs_validation.messages",
    "ruleknobs_validation.predicates", "ruleknobs_validation.properties",
    "ruleknobs_validation.registry", "ruleknobs_validation.result", "ruleknobs_validation.rules",
    "ruleknobs_validation.settings", "ruleknobs_validation.validator"].map fun name => ⟨name, []⟩

/-- Whether modules may be inside the module of this name. -/
def isPackage (name : String) : Bool := name == "ruleknobs_common" || name == "ruleknobs_validation"

/-- Finds the module that the parts of a name lead to from the one called `parent`. Every module
on the way has to be there and, but for the last one, hold others. -/
def findInside (modules : List ModuleInfo) (parent : String) :
    List String → Except Fault ModuleInfo
  | [] =>
    match modules.find? (·.name == parent) with
    | some m => .ok m
    | none => .error (.noModule parent)
  | part :: rest =>
    let name := parent ++ "." ++ part
    if modules.all (·.name != parent) then .error (.noModule parent)
    else if modules.any (·.name == name) then findInside modules name rest
    else if isPackage parent then .error (.noModule name)
    else .error (.noPackage name parent)

/-- The module of a name, among those known and the library's own. -/
def findModule (modules : List ModuleInfo) (name : String) : Except Fault ModuleInfo :=
  if name.isEmpty then .error .emptyModuleName
  else if name.startsWith "." then .error (.relativeModule name)
  else
    let known := modules ++ ownModules
    match known.find? (·.name == name), name.splitOn "." with
    | some m, _ => .ok m
    | none, first :: rest => findInside known first rest
    | none, [] => .error (.noModule name)

end Registry

end Rulebook

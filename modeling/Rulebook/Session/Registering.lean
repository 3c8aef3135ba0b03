import Rulebook.Session.Validators

/-!
# Steps on registries

Registries of anything, and registries of validators, which can also take the classes of a module
and make validators.
-/

namespace Rulebook

namespace Session

/-! ## Access -/

/-- The name of the class of a registry. -/
def registryClass (g : KnownRegistry) : String :=
  if g.ofValidators then "ValidatorRegistry" else "Registry"

/-- A registry by its number. -/
def registryAt (g : Nat) : Play KnownRegistry := do
  match (← Play.state).registries[g]? with
  | some r => pure r
  | none => throw .unbounded

/-- A registry of validators by its number, asked for something that only such registries have. -/
def validatorRegistryAt (g : Nat) (attribute_ : String) : Play KnownRegistry := do
  let r ← registryAt g
  if r.ofValidators then pure r else throw (.noAttribute (registryClass r) attribute_)

/-- Runs something on a registry. -/
def onRegistry {α : Type} (g : Nat) (a : RegistryAction α) : Play α := do
  let known ← registryAt g
  let (result, registry) := a.run known.registry
  Play.modifyState fun s =>
    { s with registries := s.registries.set g { known with registry := registry } }
  result

/-- Runs something on a registry that writes to the log. -/
def scanRegistry {α : Type} (g : Nat) (a : RegistryScan α) : Play α := do
  let known ← registryAt g
  let (result, after) := a.run ⟨known.registry, []⟩
  Play.modifyState fun s =>
    { s with registries := s.registries.set g { known with registry := after.registry } }
  after.log.forM fun r => Action.log r.level r.text
  result

/-! ## Registries of anything -/

/-- What is told of a registry. -/
def registryAnswer (r : Registry) : Answer := .registry r.name r.listKeys r.listItems

/-- The name of a registry if none is given; only registries of validators have one. -/
def registryName (name : Option Value) (validators : Bool) : Except Fault Value :=
  match name with
  | some v => .ok v
  | none =>
    if validators then .ok (.str "validators")
    else .error (.missingArguments "Registry.__init__" ["name"])

/-- Makes a registry under a name. -/
def newRegistry (id : String) (name : Option Term) (validators : Bool) : Play Answer := do
  let given ← evalOption name
  let name ← registryName given validators
  let registry := Registry.empty name
  let n := (← Play.state).registries.length
  Play.modifyState fun s => { s with registries := s.registries ++ [⟨registry, validators⟩] }
  Play.bindName id (.registry n)
  pure (registryAnswer registry)

/-- What is told of the registry of a name. -/
def describeRegistry (id : String) : Play Answer := do
  let g ← Play.registryNamed id
  return registryAnswer (← registryAt g).registry

/-- Registers an item with its details. -/
def registerItem (id : String) (key item : Term) (metadata overwrite : Option Term) :
    Play Answer := do
  let g ← Play.registryNamed id
  let key ← key.eval
  let item ← item.eval
  let metadata ← evalOrNone metadata
  let overwrite ← evalOrNone overwrite
  onRegistry g (Registry.register key item metadata overwrite.truthy)
  pure (.value .none)

/-- What a registry answers to a question about a key. -/
def answerTo (g : Nat) (key : Value) : Question → Play Value
  | .get => do (← registryAt g).registry.get key
  | .getOptional => do
    let found ← (← registryAt g).registry.getOptional key
    pure (found.getD .none)
  | .getMetadata => do
    let details ← (← registryAt g).registry.getMetadata key
    pure (.dict details)
  | .has | .contains => do
    let found ← (← registryAt g).registry.has key
    pure (.bool found)
  | .models => do
    let known ← validatorRegistryAt g "models"
    pure (.list known.registry.listKeys)
  | .clear => do
    onRegistry g (modify Registry.clear)
    pure .none

/-- Asks a registry. -/
def askRegistry (id : String) (question : Question) (key : Option Term) : Play Answer := do
  let g ← Play.registryNamed id
  let key ← evalOrNone key
  return .value (← answerTo g key question)

/-- Puts an entry into a copy of the details of a key; the details stay as they are. -/
def editMetadata (id : String) (key name : Term) : Play Answer := do
  let g ← Play.registryNamed id
  let key ← key.eval
  let name ← name.eval
  let details ← (← registryAt g).registry.getMetadata key
  name.checkHashable
  let copy ← Value.insertEntry details name (.bool true)
  pure (.metadata (.dict copy) (.dict details))

/-! ## Registries of validators -/

/-- Registers a class of validators. -/
def registerClass (id : String) (validator : Term) (model overwrite : Option Term) :
    Play Answer := do
  let g ← Play.registryNamed id
  let validator ← validator.eval
  let model ← evalOrNone model
  let overwrite ← evalOrNone overwrite
  let _ ← validatorRegistryAt g "register_validator"
  let classes := (← Play.state).classes.map (·.class_)
  let key ← onRegistry g (Registry.registerValidator classes validator model overwrite.truthy)
  pure (.value key)

/-- Registers the classes of a module. -/
def registerModule (g : Nat) (m : ModuleInfo) : Play Answer := do
  let _ ← validatorRegistryAt g "register_module"
  let classes := (← Play.state).classes.map (·.class_)
  let count ← scanRegistry g (Registry.registerModule classes m)
  pure (.value (.int count))

/-- Registers the classes of a module of the session. -/
def registerKnown (id name : String) : Play Answer := do
  let g ← Play.registryNamed id
  match (← Play.state).modules.find? (·.name == name) with
  | some m => registerModule g m
  | none => throw (.unknownId name)

/-- Registers the classes of the module of a name; what is no name is looked at like a module. -/
def registerImport (id : String) (name : Term) : Play Answer := do
  let g ← Play.registryNamed id
  let name ← name.eval
  let _ ← validatorRegistryAt g "register_module"
  match name with
  | .str text => do
    let m ← Registry.findModule (← Play.state).modules text
    registerModule g m
  | v => do
    let text ← (Model.ofValue v).name
    registerModule g ⟨text, []⟩

/-- Why a class of anything else makes nothing of settings. -/
def refusal (c : ClassInfo) : String :=
  if c.id == ClassInfo.ofInt.id || c.id == ClassInfo.ofStr.id then
    "'settings' is an invalid keyword argument for " ++ c.name ++ "()"
  else if [ClassInfo.ofFloat, ClassInfo.ofBool, ClassInfo.ofList].any (·.id == c.id) then
    c.name ++ "() takes no keyword arguments"
  else if c.fields.isSome then
    c.qualname ++ ".__init__() got an unexpected keyword argument 'settings'"
  else c.name ++ "() takes no arguments"

/-- Makes a validator of an item of a registry, which has to be a class of validators. -/
def makeOfItem (item : Value) (settings : Option Nat) : Play Nat := do
  let classes := (← Play.state).classes
  match item with
  | .class c _ =>
    match classes.find? (·.class_.info.id == c.id) with
    | some known => makeValidator known settings
    | none => throw (.badArgument (refusal c))
  | .callable _ =>
    throw (.badArgument "Fn.__call__() got an unexpected keyword argument 'settings'")
  | v => throw (.notCallable v.typeName)

/-- Makes a validator for a type under a name. -/
def createValidator (id : String) (model : Term) (settings : Option SettingsTerm)
    (name : String) : Play Answer := do
  let g ← Play.registryNamed id
  let model ← model.eval
  let settings ← settingsOption settings
  let known ← validatorRegistryAt g "create"
  let item ← known.registry.get model
  let v ← makeOfItem item settings
  Play.bindName name (.validator v)
  let text ← validatorText v
  let message := ((← get).settingsOf v).defaultMessage
  pure (.validator text message)

/-- The readable name of a key. -/
def describeKeyOf (key : Term) : Play Answer := do
  let key ← key.eval
  let text ← describeKey key
  pure (.value (.str text))

end Session

end Rulebook

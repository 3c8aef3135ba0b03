import Rulebook.Run
import Rulebook.Settings.File

/-!
# Terms and steps

What is written down of a session: terms that stand for values, functions that are told what to
do, and steps that work on named objects. A term is evaluated every time it is met, so two
occurrences of one term stand for two objects.
-/

namespace Rulebook

namespace Session

/-- A written type. -/
inductive TypeTerm where
  | type (a : DeclaredType)
  /-- A model of the session. -/
  | model (name : String)
  | optional (a : TypeTerm)
  | union (as : List TypeTerm)
  | bar (as : List TypeTerm)
  | noted (a : TypeTerm)
  | list (a : TypeTerm)
  | dict (key value : TypeTerm)
  | classVariable (a : TypeTerm)

/-- What a registry can be asked, or told. -/
inductive Question where
  | get
  | getOptional
  | getMetadata
  | has
  | contains
  | models
  | clear
deriving DecidableEq, Repr

/-- How a step runs a validator. -/
inductive Way where
  /-- Where the step is. -/
  | blocking
  /-- In a loop that is started for it, which is blocked meanwhile. -/
  | inLoop
  /-- In a loop that is started for it, as something to be waited for. -/
  | awaited
deriving DecidableEq, Repr

/-- When a signal is set: from the start, never, or after it has been asked some times. -/
inductive Cancellation where
  | always
  | never
  | after (questions : Nat)
deriving DecidableEq, Repr

mutual

/-- A written value. -/
inductive Term where
  /-- A value without an identity. -/
  | value (v : Value)
  | float (text : String)
  | decimal (text : String)
  | complex (re im : String)
  | list (items : List Term)
  | tuple (items : List Term)
  | set (items : List Term)
  | dict (entries : List (Term × Term))
  | iterator (items : List Term)
  | blank
  /-- A class under its name. -/
  | class (name : String)
  /-- An object of a model with its own attributes. -/
  | object (model : String) (attributes : List (String × Term))
  /-- A function. It may leave a tag where it is called, and may have to be waited for. -/
  | function (tag : Option String) (awaited : Option String) (body : Body)
  /-- A reference to a property; it may be made without being checked. -/
  | reference (name accessor : Term) (type : TypeTerm) (checked : Bool)

/-- What a function does when it is called. -/
inductive Body where
  | returns (v : Term)
  /-- Gives its first argument. -/
  | identity
  /-- Compares its first argument with a value. -/
  | equalTo (v : Term)
  /-- Compares its first two arguments. -/
  | pairEqual
  | pairGreater
  /-- Gives the item of its first argument under a key. -/
  | item (key : Term)
  /-- Reads the property of a name from its first argument. -/
  | reads (name : String)
  /-- Asks a predicate about its first argument. -/
  | predicate (name : String) (args : List Term)
  | raises (kind message : String)
  /-- Sets the signal of the validation that is running, and gives a value. -/
  | cancels (v : Term)
  /-- Runs steps, and gives a value. -/
  | steps (steps : List Step) (v : Term)

/-- Settings in a step: under their name, or made of what is given. -/
inductive SettingsTerm where
  | named (id : String)
  | given (message blocking moment : Option Term)

/-- Where settings come from. -/
inductive SettingsSource where
  | given (settings : SettingsTerm)
  | mapping (v : Term)
  | environment (start : Option String) (v : Term)
  /-- The environment of the program itself. -/
  | ownEnvironment (texts : List (String × String))
  /-- A file, which may be written first. -/
  | file (name : String) (content : Option FileContent)

/-- A step of a session. -/
inductive Step where
  | newValidator (id className : String) (settings : Option SettingsTerm)
  | classModel (className : String)
  | rule (validator : String) (selector : Term) (id : String) (calls : List (String × List Term))
  | more (id : String) (calls : List (String × List Term))
  | chain (id : String)
  | rules (validator : String)
  | validate (validator : String) (object : Term) (way : Way) (cancel : Option Cancellation)
      (save : String)
  | runRule (validator : String) (index : Nat) (object : Term)
  | setNow (validator : String) (moment : Term)
  | setTemplate (validator : String) (template : Term)
  | resolve (selector : Term) (model : Option String) (object : Option Term)
  | accessor (name : String) (object : Term)
  | newReport (id : String) (errors : Option Term)
  | addErrors (id : String) (errors : List (Term × Term))
  | mergeReport (id other : String)
  | report (id : String)
  | editCopy (id : String) (property message : Term)
  | same (a b : String)
  | raiseErrors (id : String)
  | newSettings (id : String) (source : SettingsSource)
  | now (id : String)
  | newRegistry (id : String) (name : Option Term) (validators : Bool)
  | registry (id : String)
  | register (id : String) (key item : Term) (metadata overwrite : Option Term)
  | ask (id : String) (question : Question) (key : Option Term)
  | editMetadata (id : String) (key name : Term)
  | registerValidator (id : String) (validator : Term) (model overwrite : Option Term)
  | registerModule (id name : String)
  | registerImport (id : String) (name : Term)
  | create (id : String) (model : Term) (settings : Option SettingsTerm) (as : String)
  | describeKey (key : Term)
  | fault (kind : LibraryFault) (message : Term) (context details : Option Term)

end

/-- The word for what a function does. -/
def Body.word : Body → String
  | .returns _ => "return"
  | .identity => "identity"
  | .equalTo _ => "eq"
  | .pairEqual => "pair_eq"
  | .pairGreater => "pair_gt"
  | .item _ => "item"
  | .reads _ => "attr"
  | .predicate _ _ => "predicate"
  | .raises _ _ => "raise"
  | .cancels _ => "cancel"
  | .steps _ _ => "steps"

/-! ## Declarations -/

/-- A written model. -/
structure ModelTerm where
  name : String
  qualname : String
  /-- Whether its objects are records of its fields. -/
  isRecord : Bool
  base : Option String
  fields : List (String × TypeTerm)
  attributes : List (String × Term)
  methods : List String
  /-- Properties that can be read, with the types of what they give. -/
  computed : List (String × Option TypeTerm)
  writeOnly : List String

/-- The rules that a class of validators declares on a property. -/
structure RuleTerm where
  selector : Term
  calls : List (String × List Term)

/-- The written argument of the base of a class. -/
inductive ArgumentTerm where
  | class (name : String)
  | variable (name : String)
  | forward (text : String)

/-- A written class of validators. -/
structure ClassTerm where
  name : String
  base : Option String
  argument : Option ArgumentTerm
  model : Option Term
  module : String
  isAbstract : Bool
  rules : Option (List RuleTerm)
  /-- Whether the rules of the base come before its own. -/
  callsBase : Bool

/-- A written module. -/
structure ModuleTerm where
  name : String
  members : List (String × Term)

/-- A written session. -/
structure Script where
  /-- How many seconds the local clock is ahead of universal time. -/
  zone : Int
  models : List ModelTerm
  classes : List ClassTerm
  modules : List ModuleTerm
  steps : List Step

end Session

end Rulebook

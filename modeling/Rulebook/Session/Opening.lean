import Rulebook.Session.Eval

/-!
# The opening of a session

Before the first step the classes and modules of a session are made in order: models, classes of
validators, modules. A class has the members of its base behind its own, and the class of records
has the fields of its base before its own.
-/

namespace Rulebook

namespace Session

/-! ## Models -/

/-- The members that a model declares itself. -/
def ModelTerm.members (m : ModelTerm) : List (String × MemberKind) :=
  m.methods.map (·, .method) ++ m.computed.map (fun p => (p.1, .computed)) ++
    m.writeOnly.map (·, .writeOnly) ++ m.attributes.map (fun a => (a.1, .shared))

/-- Whether a field of a record is shared by all objects instead. -/
def isClassVariable : DeclaredType → Bool
  | .classVariable _ => true
  | _ => false

/-- The names of the fields of a record: those of its base, then new ones of its own. -/
def fieldNames (base : List String) (own : List (String × DeclaredType)) : List String :=
  let names := (own.filter fun f => !isClassVariable f.2).map Prod.fst
  base ++ names.filter fun n => !base.contains n

/-- Declared types that are written in a session, where no names are known to texts but those of
the language of values. -/
def hintsOf (written : List (String × DeclaredType)) : Hints := ⟨written, DeclaredType.plainReading⟩

/-- The first identity of a model. -/
def firstModelId : Nat := 100

/-- The first identity of a class of validators. -/
def firstClassId : Nat := 1000000

/-- Makes a model. -/
def addModel (m : ModelTerm) : Play Unit := do
  let s ← Play.state
  let base := m.base.bind s.model?
  let baseClass := base.bind State.classOf?
  let baseShared := match base.map Model.value with
    | some (.class _ shared) => shared
    | _ => []
  let own := m.fields.map fun (name, t) => (name, t.eval s.modelType)
  let baseFields := baseClass.bind (·.fields)
  let fields := if m.isRecord then some (fieldNames (baseFields.getD []) own) else baseFields
  let info : ClassInfo := ⟨firstModelId + s.models.length, m.name, m.qualname, "models", .other,
    false, fields, m.members ++ (baseClass.map (·.members)).getD []⟩
  let attributes ← Term.evalAttributes m.attributes
  let shared := (attributes ++ baseShared).filter fun a => info.member? a.1 == some .shared
  let getters := m.computed.map fun (name, t) =>
    (name, hintsOf ((t.map fun t => ("return", t.eval s.modelType)).toList))
  let model : Model := ⟨.class info shared, hintsOf own :: (base.map (·.layers)).getD [],
    getters ++ (base.map (·.getters)).getD []⟩
  Play.modifyState fun s => { s with models := s.models ++ [model] }

/-! ## Classes of validators -/

/-- The argument of the base of a class. -/
def argumentOf (s : State) : ArgumentTerm → BaseArgument
  | .class name => .value (s.classValue name)
  | .variable name => .variable name
  | .forward text => .forward text

/-- The rules that objects of a class declare. -/
def rulesOf (base : List RuleTerm) (c : ClassTerm) : List RuleTerm :=
  match c.rules with
  | none => base
  | some own => if c.callsBase then base ++ own else own

/-- Makes a class of validators. -/
def addClass (c : ClassTerm) : Play Unit := do
  let model ← evalOption c.model
  let s ← Play.state
  let base := (c.base.bind s.class?).getD ⟨.root, []⟩
  let isAbstract := c.isAbstract || base.class_.isAbstract
  let info : ClassInfo := ⟨firstClassId + s.classes.length, c.name, c.name, c.module, .other,
    isAbstract, none, []⟩
  let declaration : ClassDeclaration := ⟨model, c.argument.map (argumentOf s)⟩
  let known : KnownClass :=
    ⟨⟨info, declaration :: base.class_.chain, isAbstract⟩, rulesOf base.rules c⟩
  Play.modifyState fun s => { s with classes := s.classes ++ [known] }

/-! ## Modules -/

/-- Makes a module. -/
def addModule (m : ModuleTerm) : Play Unit := do
  let members ← Term.evalAttributes m.members
  Play.modifyState fun s => { s with modules := s.modules ++ [⟨m.name, members⟩] }

/-- Makes the classes and modules of a session. -/
def opening (script : Script) : Play Unit := do
  script.models.forM addModel
  script.classes.forM addClass
  script.modules.forM addModule

end Session

end Rulebook

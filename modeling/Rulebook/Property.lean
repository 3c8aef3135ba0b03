import Rulebook.DeclaredType.Forward
import Rulebook.Value.Access

/-!
# Properties

A property of the objects under validation: a name for its errors, what reads it, and its declared
type if that is known. A property is selected by its name, which is checked against the model, or
by a reference that is used as it is.

* `Hints.types`: what is declared of names, evaluated.
* `Model.hint`: the declared type of a name on a model.
* `Property.resolve`: the property that a selector stands for.
-/

namespace Rulebook

/-- The declared types of names as they are written in one place, and what a text stands for that
is written there in place of a type. -/
structure Hints where
  written : List (String × DeclaredType)
  reading : String → Except HintFailure DeclaredType

namespace Hints

/-- Evaluates declared types in order. -/
def resolveAll (reading : String → Except HintFailure DeclaredType) :
    List (String × DeclaredType) → Except HintFailure (List (String × DeclaredType))
  | [] => .ok []
  | (name, a) :: rest => do
    let a ← a.resolve reading
    let rest ← resolveAll reading rest
    pure ((name, a) :: rest)

/-- Evaluates what is written in places, in the farthest one first. -/
def resolveLayers : List Hints → Except HintFailure (List (List (String × DeclaredType)))
  | [] => .ok []
  | layer :: farther => do
    let farther ← resolveLayers farther
    let layer ← resolveAll layer.reading layer.written
    pure (layer :: farther)

/-- The declared types of names in places, of which the nearest comes first. If one of them cannot
be evaluated, those of the nearest place stand as they are written. -/
def types (layers : List Hints) : Except Fault (List (String × DeclaredType)) :=
  match resolveLayers layers with
  | .ok layers => .ok layers.flatten
  | .error .unresolved => .ok ((layers.head?.map written).getD [])
  | .error (.fault f) => .error f

end Hints

/-- What is known of the validated type: the value that stands for it, what each of its classes
declares from the nearest on, and what is declared of the getters of its properties. -/
structure Model where
  value : Value
  layers : List Hints
  getters : List (String × Hints)

namespace Model

/-- A value of which nothing is known but itself. -/
def ofValue (v : Value) : Model := ⟨v, [], []⟩

/-- The text of the name of a model. Classes have one, and so may have other values. -/
def name (m : Model) : Except Fault String := do
  let name ← m.value.getAttribute "__name__"
  name.text

/-- What is declared of the getter of a property, if the name is that of one. -/
def getter (m : Model) (name : String) : List Hints := (m.getters.lookup name).toList

/-- The declared type of what a property gives. -/
def getterHint (m : Model) (name : String) : Except Fault DeclaredType := do
  let types ← Hints.types (m.getter name)
  pure ((types.lookup "return").getD .nothing)

/-- Whether the name is that of a field of a class of records. -/
def isField (m : Model) (name : String) : Bool :=
  match m.value with
  | .class c _ => (c.fields.getD []).contains name
  | _ => false

/-- Whether a property that can be read is seen under the name, for a model that is a class. -/
def isReadable (m : Model) (name : String) : Bool :=
  match m.value with
  | .class c _ => !Value.isClassFact name && c.member? name == some .computed
  | _ => false

/-- The declared type of a name that no class declares. A field of a record, a property and a plain
attribute are accepted, a method is not. -/
def memberHint (m : Model) (name : String) : Except Fault DeclaredType :=
  if m.isField name then pure .nothing
  else if m.isReadable name then m.getterHint name
  else
    match m.value.getAttribute name with
    | .ok v =>
      if v.isCallable then do
        let model ← m.name
        throw (.methodNotProperty name model)
      else pure .nothing
    | .error _ => do
      let model ← m.name
      throw (.unknownProperty name model)

/-- The declared type of a name on a model. What is declared comes before anything else. -/
def hint (m : Model) (name : String) : Except Fault DeclaredType := do
  let types ← Hints.types m.layers
  match types.lookup name with
  | some a => pure a
  | none => m.memberHint name

end Model

/-- What reads a property. -/
inductive Accessor where
  /-- The attribute, or entry of a mapping, of this name. -/
  | attribute_ (name : String)
  /-- A call with the object. -/
  | call (f : Value)

/-- A property. -/
structure Property where
  name : Value
  accessor : Accessor
  declared : DeclaredType

namespace Property

/-- Checks that a value can be a property name. -/
def checkName (name : Value) : Except Fault Unit := do
  let fine := match name with
    | .str s => isIdentifier s
    | _ => false
  if fine then pure ()
  else do
    let text ← name.text
    let shown ← name.shown
    throw (.notAName text shown)

/-- A reference with a checked name and something that can be called. -/
def reference (name accessor : Value) (declared : DeclaredType) : Except Fault Value := do
  checkName name
  if accessor.isCallable then pure (.property name accessor declared)
  else do
    let text ← name.text
    let shown ← accessor.shown
    throw (.accessorNotCallable text shown)

/-- The declared type of a name on a model, which is nothing if no model is known. -/
def hintOn (model : Option Model) (name : String) : Except Fault DeclaredType :=
  match model with
  | none => .ok .nothing
  | some m => m.hint name

/-- The property of a name on a model, if the model is known. It is noted with its declared type;
nobody reads the note, but a type that has no text fails there. -/
def ofName (name : String) (model : Option Model) : Except Fault Property := do
  checkName (.str name)
  let a ← hintOn model name
  let _ ← a.text
  pure ⟨.str name, .attribute_ name, a⟩

/-- The property that a selector stands for. -/
def resolve (selector : Value) (model : Option Model) : Except Fault Property :=
  match selector with
  | .property name accessor declared => .ok ⟨name, .call accessor, declared⟩
  | .none => .error .selectorMissing
  | .str s => ofName s model
  | v => do
    let shown ← v.shown
    .error (.selectorKind v.className shown)

end Property

end Rulebook

import Rulebook.Session.State

/-!
# Evaluating terms

The value that a written value stands for. Objects, functions and numbers that are not numbers
get an identity each time. Keys of mappings and elements of sets have to be hashable, and a
reference to a property is checked unless it is made without a check.

* `Term.eval`: the value of a term.
-/

namespace Rulebook

namespace Session

/-! ## Types -/

mutual

/-- The declared type that a written type stands for, given the models. -/
def TypeTerm.eval (model : String → DeclaredType) : TypeTerm → DeclaredType
  | .type (.literal values) => .literal values.eraseDups
  | .type a => a
  | .model name => model name
  | .optional a => .optional (a.eval model)
  | .union as => .namedUnion (TypeTerm.evalAll model as)
  | .bar as => .barUnion (TypeTerm.evalAll model as)
  | .noted a => .withNote "note" (a.eval model)
  | .list a => .generic .ofList [a.eval model]
  | .dict k v => .generic .ofDict [k.eval model, v.eval model]
  | .classVariable a => .classVariable (a.eval model).toPart

/-- The declared types that written types stand for. -/
def TypeTerm.evalAll (model : String → DeclaredType) : List TypeTerm → List DeclaredType
  | [] => []
  | a :: as => a.eval model :: TypeTerm.evalAll model as

end

namespace State

/-- The classes of values that have a name in a session. -/
def builtinClasses : List ClassInfo :=
  [.ofInt, .ofStr, .ofFloat, .ofBool, .ofList, .ofDict, .ofObject]

/-- The class that a model is. -/
def classOf? (m : Model) : Option ClassInfo :=
  match m.value with
  | .class c _ => some c
  | _ => none

/-- The model of a name. -/
def model? (s : State) (name : String) : Option Model :=
  s.models.find? fun m => (classOf? m).any (·.name == name)

/-- The declared type that a model is. -/
def modelType (s : State) (name : String) : DeclaredType :=
  match (s.model? name).bind classOf? with
  | some c => .class c
  | none => .any

/-- The class of validators of a name. -/
def class? (s : State) (name : String) : Option KnownClass :=
  s.classes.find? fun c => c.class_.info.name == name

/-- The class of a name: a model, a class of validators, or a class of values. -/
def classValue (s : State) (name : String) : Value :=
  match s.model? name, s.class? name, builtinClasses.find? (·.name == name) with
  | some m, _, _ => m.value
  | none, some c, _ => c.class_.value
  | none, none, some c => .class c []
  | none, none, none => .none

/-- What is known of the type that a value stands for. -/
def modelOfValue (s : State) (v : Value) : Model :=
  match v with
  | .class c _ => (s.models.find? fun m => (classOf? m).any (·.id == c.id)).getD (.ofValue v)
  | v => .ofValue v

/-- An object of a model. Its own attributes come before those of its class. -/
def object (s : State) (id : Nat) (model : String) (attributes : List (String × Value)) : Value :=
  match s.classValue model with
  | .class c shared => .object id c (attributes ++ shared)
  | v => v

end State

/-! ## Values -/

/-- A floating-point number from its text. -/
def floatOf (text : String) : Play Binary := do
  let id ← Play.freshId
  pure ((Binary.ofText? id text).getD (.nan id))

/-- A compiled pattern, with the options that it sets itself. -/
def compiledPattern (source : String) (flags : PatternFlags) : Value :=
  .pattern source (((Pattern.parse? source flags).map Prod.snd).getD flags)

/-- A mapping of keys and values in order. -/
def dictOf (entries : List (Value × Value)) : Except Fault Value :=
  (Value.mapping entries).map .dict

/-- A set of elements. -/
def setOf (items : List Value) : Except Fault Value := (Value.distinctItems items).map .set

/-- A reference to a property. -/
def referenceOf (name accessor : Value) (type : DeclaredType) (checked : Bool) :
    Except Fault Value :=
  if checked then Property.reference name accessor type else .ok (.property name accessor type)

mutual

/-- The value of a term. -/
def Term.eval : Term → Play Value
  | .value v => pure v
  | .float text => do return .float (← floatOf text)
  | .decimal text => do
    let id ← Play.freshId
    pure (((Decimal.ofText? id text).map Value.decimal).getD .none)
  | .complex re im => do
    let re ← floatOf re
    let im ← floatOf im
    pure (.complex re im)
  | .list items => do return .list (← Term.evalAll items)
  | .tuple items => do return .tuple (← Term.evalAll items)
  | .set items => do
    let items ← Term.evalAll items
    setOf items
  | .dict entries => do
    let entries ← Term.evalEntries entries
    dictOf entries
  | .iterator items => do
    let items ← Term.evalAll items
    let id ← Play.freshId
    pure (.iterator id items)
  | .blank => do return .blank (← Play.freshId)
  | .class name => do return (← Play.state).classValue name
  | .object model attributes => do
    let attributes ← Term.evalAttributes attributes
    let id ← Play.freshId
    return (← Play.state).object id model attributes
  | .function tag awaited body => do
    let n ← Play.addFunction ⟨tag, body⟩
    pure (.callable ⟨n, "<fn " ++ body.word ++ ">", none, awaited⟩)
  | .reference name accessor type checked => do
    let name ← name.eval
    let accessor ← accessor.eval
    let s ← Play.state
    referenceOf name accessor (type.eval s.modelType) checked

/-- The values of terms in order. -/
def Term.evalAll : List Term → Play (List Value)
  | [] => pure []
  | t :: ts => do
    let v ← t.eval
    let vs ← Term.evalAll ts
    pure (v :: vs)

/-- The keys and values of a written mapping. -/
def Term.evalEntries : List (Term × Term) → Play (List (Value × Value))
  | [] => pure []
  | (k, v) :: rest => do
    let key ← k.eval
    let value ← v.eval
    let entries ← Term.evalEntries rest
    pure ((key, value) :: entries)

/-- The values of written attributes. -/
def Term.evalAttributes : List (String × Term) → Play (List (String × Value))
  | [] => pure []
  | (name, t) :: rest => do
    let v ← t.eval
    let attributes ← Term.evalAttributes rest
    pure ((name, v) :: attributes)

end

/-- The value of a term that may be left out. -/
def evalOption (t : Option Term) : Play (Option Value) :=
  match t with
  | none => pure none
  | some t => do return some (← t.eval)

/-- The value of a term, and nothing if it is left out. -/
def evalOrNone (t : Option Term) : Play Value := do return (← evalOption t).getD .none

end Session

end Rulebook

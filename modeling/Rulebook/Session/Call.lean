import Rulebook.Predicate.Named
import Rulebook.Session.Eval
import Rulebook.Value.Convert

/-!
# Calls of a session

What a function does when it is called. A function with a tag leaves it, with its arguments,
before it does anything else. A function may run steps of the session it belongs to; what they
answer is left in the trace, and their faults end there.
-/

namespace Rulebook

namespace Session

/-- The kind of the library's own faults under a name. -/
def libraryKind? (name : String) : Option LibraryFault :=
  [LibraryFault.base, .validation, .configuration, .notFound, .operation].find? (·.name == name)

/-- A fault of a kind and with a message. -/
def faultOf (kind message : String) : Fault :=
  match libraryKind? kind with
  | some k => .raisedLibrary k message
  | none => .raised kind message

/-- The argument at a position. -/
def argument (args : List Value) (i : Nat) : Except Fault Value :=
  match args[i]? with
  | some v => .ok v
  | none => .error (.indexOutOfRange "tuple")

/-- Sets the signal of the innermost validation that has one. -/
def setSignal : Play Unit := do
  match (← Play.state).signals with
  | [] => pure ()
  | g :: _ => modify fun s =>
      { s with signals := s.signals.modify g fun signal => { signal with isSet := true } }

/-- Runs something and leaves its outcome in the trace. -/
def traced (a : Play Answer) : Play Unit := do
  let outcome ← tryCatch (a >>= fun answer => pure (.ok answer)) fun e => pure (.error e)
  Play.leave (.step outcome)

/-- What a function does with its arguments; `run` runs a step. -/
def Body.call (run : Step → Play Answer) (args : List Value) : Body → Play Value
  | .returns v => v.eval
  | .identity => argument args 0
  | .equalTo v => do
    let v ← v.eval
    let a ← argument args 0
    return .bool (← a.equals v)
  | .pairEqual => do
    let a ← argument args 0
    let b ← argument args 1
    return .bool (← a.equals b)
  | .pairGreater => do
    let a ← argument args 0
    let b ← argument args 1
    return .bool (← Value.ordered .gt a b)
  | .item key => do
    let key ← key.eval
    let a ← argument args 0
    a.item key
  | .reads name => do
    let a ← argument args 0
    a.read name
  | .predicate name others => do
    let a ← argument args 0
    let others ← Term.evalAll others
    return .bool (← Predicate.call (← Play.state).zone name (a :: others))
  | .raises kind message => throw (faultOf kind message)
  | .cancels v => do
    setSignal
    v.eval
  | .steps todo v => do
    todo.forM fun s => traced (run s)
    v.eval

/-- Calls a value that can be called; `run` runs a step. -/
def callValue (run : Step → Play Answer) (f : Value) (args : List Value) : Play Value := do
  match f with
  | .callable c =>
    match (← Play.state).functions[c.id]? with
    | none => throw (.notCallable f.typeName)
    | some function => do
      function.tag.forM fun tag => Play.leave (.called tag args)
      function.body.call run args
  | .class c _ => Value.construct c args
  | f => throw (.notCallable f.typeName)

end Session

end Rulebook

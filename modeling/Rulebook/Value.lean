import Rulebook.DeclaredType
import Rulebook.Calendar
import Rulebook.Number.Quantity

/-!
# Values

The values that rules look at: nothing, truth values, numbers of five kinds, text, bytes, dates,
collections, classes and their objects, and things that can be called. Only what a rule can ask
of a value is kept. Objects that differ by identity alone carry a number for it.
-/

namespace Rulebook

/-- Something that can be called. What a call does is not part of it: whoever runs rules says so. -/
structure Callable where
  id : Nat
  /-- How it is shown. -/
  label : String
  /-- The name of a function. Objects that can be called have none. -/
  name : Option String
  /-- For one that runs only when it is waited for: the name of the class of what a call returns. -/
  awaited : Option String
deriving DecidableEq, Repr

/-- The options of a search pattern. -/
structure PatternFlags where
  ignoreCase : Bool
  multiline : Bool
  dotAll : Bool
  ascii : Bool
  verbose : Bool
deriving DecidableEq, Repr

/-- No options. -/
def PatternFlags.none : PatternFlags := ⟨false, false, false, false, false⟩

/-- A value. -/
inductive Value where
  | none
  | bool (b : Bool)
  | int (n : Int)
  | float (x : Binary)
  | decimal (d : Decimal)
  | fraction (num : Int) (den : Nat)
  | complex (re im : Binary)
  | str (s : String)
  | bytes (data : List UInt8)
  | date (d : Date)
  | datetime (t : DateTime)
  | list (items : List Value)
  | tuple (items : List Value)
  | set (items : List Value)
  | dict (entries : List (Value × Value))
  /-- An iterator that will give these items, once. -/
  | iterator (id : Nat) (items : List Value)
  | pattern (source : String) (flags : PatternFlags)
  /-- An object that only has an identity. -/
  | blank (id : Nat)
  /-- A class, with the attributes that can be read from it. -/
  | class (c : ClassInfo) (attributes : List (String × Value))
  /-- An object of a class, with its attributes before those it shares with its class. -/
  | object (id : Nat) (c : ClassInfo) (attributes : List (String × Value))
  | callable (f : Callable)
  /-- A method of an object or a class. -/
  | method (name : String)
  /-- A call that runs when it is waited for. -/
  | pending (f : Callable) (args : List Value)
  /-- A reference to a property: its name, what reads it, and its declared type. -/
  | property (name : Value) (accessor : Value) (declared : DeclaredType)

instance : Inhabited Value := ⟨.none⟩

namespace Value

/-- The name of the class of a value, as errors of the language itself give it. -/
def typeName : Value → String
  | .none => "NoneType"
  | .bool _ => "bool"
  | .int _ => "int"
  | .float _ => "float"
  | .decimal _ => "decimal.Decimal"
  | .fraction _ _ => "Fraction"
  | .complex _ _ => "complex"
  | .str _ => "str"
  | .bytes _ => "bytes"
  | .date _ => "datetime.date"
  | .datetime _ => "datetime.datetime"
  | .list _ => "list"
  | .tuple _ => "tuple"
  | .set _ => "set"
  | .dict _ => "dict"
  | .iterator _ _ => "list_iterator"
  | .pattern _ _ => "re.Pattern"
  | .blank _ => "Opaque"
  | .class c _ => if c.isAbstractBase then "ABCMeta" else "type"
  | .object _ c _ => c.name
  | .callable f => if f.name.isSome then "function" else "Fn"
  | .method _ => "method"
  | .pending f _ => f.awaited.getD "coroutine"
  | .property _ _ _ => "PropertyRef"

/-- The name of the class of a value without its module. -/
def className : Value → String
  | .decimal _ => "Decimal"
  | .date _ => "date"
  | .datetime _ => "datetime"
  | .pattern _ _ => "Pattern"
  | v => v.typeName

/-- Whether a value is a class. -/
def isClass : Value → Bool
  | .class _ _ => true
  | _ => false

/-- The fraction of two numbers in lowest terms. -/
def ofRatio (num : Int) (den : Nat) : Value :=
  let g := Nat.gcd num.natAbs den
  .fraction (num / g) (den / g)

/-- The truth of a value: nothing, zeros and empty collections are false. -/
def truthy : Value → Bool
  | .none => false
  | .bool b => b
  | .int n => n != 0
  | .float x => !x.isZero
  | .decimal d => !d.isZero
  | .fraction num _ => num != 0
  | .complex re im => !(re.isZero && im.isZero)
  | .str s => s != ""
  | .bytes data => !data.isEmpty
  | .list items => !items.isEmpty
  | .tuple items => !items.isEmpty
  | .set items => !items.isEmpty
  | .dict entries => !entries.isEmpty
  | _ => true

/-- Whether a value can be called. -/
def isCallable : Value → Bool
  | .callable _ => true
  | .class _ _ => true
  | .method _ => true
  | _ => false

/-- The number of elements of a value that has a length. -/
def length? : Value → Option Nat
  | .str s => some s.length
  | .bytes data => some data.length
  | .list items => some items.length
  | .tuple items => some items.length
  | .set items => some items.length
  | .dict entries => some entries.length
  | _ => Option.none

/-- The exact quantity of a value that is a real or decimal number; truth values are one and
zero. -/
def quantity? : Value → Option Quantity
  | .bool b => some (.ofInt (if b then 1 else 0))
  | .int n => some (.ofInt n)
  | .float x => some (.ofBinary x)
  | .decimal d => some (.ofDecimal d)
  | .fraction num den => some (.ofFraction num den)
  | _ => Option.none

end Value

end Rulebook

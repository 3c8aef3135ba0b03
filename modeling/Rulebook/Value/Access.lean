import Rulebook.Value.Native
import Rulebook.Value.Order
import Rulebook.Value.Text

/-!
# Looking inside values

Attributes, items, membership and iteration.
-/

namespace Rulebook

namespace Value

/-! ## Mappings -/

/-- The value under a key. -/
def lookup (entries : List (Value × Value)) (key : Value) : Except Fault (Option Value) :=
  match entries with
  | [] => .ok Option.none
  | (k, v) :: rest => do
    if ← same k key then pure (some v) else lookup rest key

/-- The entries with a value put under a key. An equal key keeps its form and its place. -/
def insertEntry (entries : List (Value × Value)) (key value : Value) :
    Except Fault (List (Value × Value)) :=
  match entries with
  | [] => .ok [(key, value)]
  | (k, v) :: rest => do
    if ← same k key then pure ((k, value) :: rest)
    else do
      let rest ← insertEntry rest key value
      pure ((k, v) :: rest)

/-- The entries of a mapping made of keys and values in order. -/
def mapping (entries : List (Value × Value)) : Except Fault (List (Value × Value)) :=
  entries.foldlM (fun made (k, v) => do
    checkHashable k
    insertEntry made k v) []

/-- The items without those equal to an earlier one. -/
def distinctItems (items : List Value) : Except Fault (List Value) := do
  let kept ← items.foldlM (fun (kept : List Value) v => do
    checkHashable v
    if ← isAmong v kept then pure kept else pure (kept ++ [v])) []
  pure kept

/-! ## Attributes -/

/-- The methods that objects of every class have, and so the classes themselves. -/
def commonMethods : List String :=
  ["__delattr__", "__dir__", "__eq__", "__format__", "__ge__", "__getattribute__", "__getstate__",
    "__gt__", "__hash__", "__init__", "__init_subclass__", "__le__", "__lt__", "__ne__", "__new__",
    "__reduce__", "__reduce_ex__", "__repr__", "__setattr__", "__sizeof__", "__str__",
    "__subclasshook__"]

/-- What every class has besides that can be called. -/
def classMethods : List String :=
  ["__base__", "__call__", "__instancecheck__", "__or__", "__prepare__", "__ror__",
    "__subclasscheck__", "__subclasses__", "mro"]

/-- What a class tells of itself beside its names. -/
def classFacts : List String :=
  ["__annotations__", "__bases__", "__basicsize__", "__dict__", "__dictoffset__", "__flags__",
    "__itemsize__", "__mro__", "__text_signature__", "__weakrefoffset__"]

/-- Whether a class answers for the name itself, whatever its members are. -/
def isClassFact (name : String) : Bool :=
  ["__class__", "__name__", "__qualname__"].contains name || classFacts.contains name

/-- What a class of records has and its objects share. -/
def recordFacts : List String := ["__dataclass_fields__", "__dataclass_params__", "__match_args__"]

/-- What objects of a class have though it is not declared. Records cannot be keys. -/
def commonAttribute? (c : ClassInfo) (name : String) : Option Value :=
  if name == "__hash__" && (c.fields.isSome || c.isChangeable) then some .none
  else if commonMethods.contains name then some (.method name)
  else if c.fields.isSome && recordFacts.contains name then some (.blank 0)
  else if name == "__doc__" then some .none
  else if name == "__module__" then some (.str c.module)
  else Option.none

/-- The attribute of a class. What the class tells of itself comes before its members. -/
def classAttribute (c : ClassInfo) (attributes : List (String × Value)) (name : String) :
    Except Fault Value :=
  if name == "__class__" then .ok (.class ClassInfo.ofClass [])
  else if name == "__name__" then .ok (.str c.name)
  else if name == "__qualname__" then .ok (.str c.qualname)
  else if classFacts.contains name && !(name == "__annotations__" && c.equipment?.isSome) then
    .ok (.blank 0)
  else
    match c.member? name, commonAttribute? c name with
    | some .shared, _ => .ok ((attributes.lookup name).getD .none)
    | some .method, _ => .ok (.method name)
    | some .computed, _ | some .writeOnly, _ => .ok (.blank 0)
    | Option.none, some v => .ok v
    | Option.none, Option.none =>
      if classMethods.contains name || c.nativeMethods.contains name then .ok (.method name)
      else if c.nativeFacts.contains name then .ok (.blank 0)
      else if name == "__weakref__" && c.equipment?.isNone then .ok (.blank 0)
      else .error (.noClassAttribute c.name name)

/-- The plain attribute of an object: its own, one shared with the class, or a method. -/
def plainAttribute (c : ClassInfo) (attributes : List (String × Value)) (name : String) :
    Except Fault Value :=
  match attributes.lookup name, commonAttribute? c name with
  | some v, _ => .ok v
  | Option.none, common =>
    if name == "__class__" then .ok (.class c [])
    else if c.member? name == some .method then .ok (.method name)
    else
      match common with
      | some v => .ok v
      | Option.none =>
        if name == "__weakref__" then .ok .none
        else if name == "__dict__" then .ok (.blank 0)
        else .error (.noAttribute c.name name)

/-- The attribute of an object. A property of the class comes before the object's own attributes
and is read from the attribute of its name behind an underscore. -/
def objectAttribute (c : ClassInfo) (attributes : List (String × Value)) (name : String) :
    Except Fault Value :=
  match c.member? name with
  | some .computed =>
    let hidden := "_" ++ name
    match c.member? hidden with
    | some .writeOnly => .error (.noGetter hidden c.qualname)
    | _ => plainAttribute c attributes hidden
  | some .writeOnly => .error (.noGetter name c.qualname)
  | _ => plainAttribute c attributes name

/-- The attribute of a value of the language. -/
def nativeAttribute (v : Value) (name : String) : Except Fault Value :=
  match v.facts.lookup name with
  | some found => .ok found
  | Option.none =>
    if name == "__class__" then .ok ((v.nativeClass?.map (.class · [])).getD (.blank 0))
    else if name == "__doc__" then .ok (if v.isDescribed then .blank 0 else .none)
    else if name == "__hash__" && (v.nativeClass?.map (·.isChangeable)).getD false then .ok .none
    else if commonMethods.contains name || v.nativeMethods.contains name then .ok (.method name)
    else .error (.noAttribute v.typeName name)

/-- The attribute of a value. -/
def getAttribute (v : Value) (name : String) : Except Fault Value :=
  match v with
  | .object _ c attributes => objectAttribute c attributes name
  | .class c attributes => classAttribute c attributes name
  | v => nativeAttribute v name

/-- What a property name reads from a value: the entry of a mapping, nothing if there is none, and
the attribute of anything else. -/
def read (v : Value) (name : String) : Except Fault Value :=
  match v with
  | .dict entries => do
    let found ← lookup entries (.str name)
    pure (found.getD .none)
  | v => v.getAttribute name

/-! ## Items and members -/

/-- The item at an index, counted from the end if it is negative. -/
def itemAt (kind : String) (items : List Value) (index : Int) : Except Fault Value :=
  let i := if index < 0 then index + items.length else index
  match if i < 0 then Option.none else items[i.toNat]? with
  | some v => .ok v
  | Option.none => .error (.indexOutOfRange kind)

/-- The index that a value is. -/
def index? : Value → Option Int
  | .int n => some n
  | .bool b => some (if b then 1 else 0)
  | _ => Option.none

/-- The one-character texts of a text. -/
def characters (s : String) : List Value := s.toList.map fun c => .str (String.singleton c)

/-- The numbers of the bytes. -/
def byteNumbers (data : List UInt8) : List Value := data.map fun b => .int b.toNat

/-- The item of a value under a key. -/
def item (v key : Value) : Except Fault Value :=
  let at_ (kind : String) (items : List Value) : Except Fault Value :=
    match key.index? with
    | some i => itemAt kind items i
    | Option.none => .error (.indexNotInteger kind key.typeName)
  match v with
  | .dict entries => do
    checkHashable key
    match ← lookup entries key with
    | some found => pure found
    | Option.none => do
      let shown ← key.shown
      .error (.keyMissing shown)
  | .list items => at_ "list" items
  | .tuple items => at_ "tuple" items
  | .str s => at_ "string" (characters s)
  | .bytes data => at_ "byte" (byteNumbers data)
  | v => .error (.notSubscriptable v.typeName)

/-- Whether the first list occurs in the second one as a whole. -/
def isInfix {α : Type} [BEq α] (part : List α) : List α → Bool
  | [] => part.isEmpty
  | x :: xs => part.isPrefixOf (x :: xs) || isInfix part xs

/-- Whether a key is among those of a set or a mapping. -/
def isKey (v : Value) (keys : List Value) : Except Fault Bool := do
  checkHashable v
  isAmong v keys

/-- Whether a value is in a container. -/
def isIn (v container : Value) : Except Fault Bool :=
  match container with
  | .list items => isAmong v items
  | .tuple items => isAmong v items
  | .iterator _ items => isAmong v items
  | .set items =>
    match v with
    | .set _ => .ok false
    | v => isKey v items
  | .dict entries => isKey v (entries.map Prod.fst)
  | .str s =>
    match v with
    | .str part => .ok (isInfix part.toList s.toList)
    | v => .error (.memberNotText v.typeName)
  | .bytes data =>
    match v with
    | .bytes part => .ok (isInfix part data)
    | v =>
      match v.index? with
      | some i =>
        if 0 ≤ i ∧ i < 256 then .ok (data.any fun b => (b.toNat : Int) = i)
        else .error .byteOutOfRange
      | Option.none => .error (.memberNotBytes v.typeName)
  | container => .error (.noMembership container.typeName)

/-- The elements that a value gives one after the other. -/
def elements (v : Value) : Except Fault (List Value) :=
  match v with
  | .list items => .ok items
  | .tuple items => .ok items
  | .set items => .ok items
  | .dict entries => .ok (entries.map Prod.fst)
  | .str s => .ok (characters s)
  | .bytes data => .ok (byteNumbers data)
  | .iterator _ items => .ok items
  | v => .error (.notIterable v.typeName)

/-- The texts of a list of values, joined. All of them have to be texts. -/
def joinTexts (separator : String) (items : List Value) : Except Fault String :=
  (go 0 items).map fun texts => separator.intercalate texts
where
  go (i : Nat) : List Value → Except Fault (List String)
    | [] => .ok []
    | .str s :: rest => (go (i + 1) rest).map (s :: ·)
    | v :: _ => .error (.joinNotText i v.typeName)

theorem lookup_nil (key : Value) : lookup [] key = .ok Option.none := by simp [lookup]

end Value

end Rulebook

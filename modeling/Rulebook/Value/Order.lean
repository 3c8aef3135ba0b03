import Rulebook.Fault

/-!
# Equality and order of values

Numbers of all kinds are equal and ordered by their exact values; texts, bytes, dates and times
by their own order; lists and tuples by the first place where they differ; sets by inclusion.
Values of other kinds are equal only to themselves and have no order.

* `Value.equals_str`: texts are equal as values iff they are the same text.
-/

namespace Rulebook

/-- Times without an offset compare by their clocks, and times with offsets by their moments. -/
def DateTime.compare? (a b : DateTime) : Option Ordering :=
  match a.offset, b.offset with
  | none, none => some (Ord.compare a.clock b.clock)
  | some x, some y => some (Ord.compare (a.instant x) (b.instant y))
  | _, _ => none

namespace Value

/-- Whether two values are one object, as far as equality does not tell: numbers that are not
numbers, and objects. -/
def identical : Value → Value → Bool
  | .float (.nan i), .float (.nan j) => i == j
  | .decimal (.nan i _ _ _), .decimal (.nan j _ _ _) => i == j
  | .complex a b, .complex c d => a == c && b == d
  | .object i _ _, .object j _ _ => i == j
  | _, _ => false

/-- Whether two numbers are equal. A signalling decimal may not be compared. -/
def numbersEqual (a b : Value) (x y : Quantity) : Except Fault Bool :=
  let signaling : Value → Bool
    | .decimal d => d.isSignaling
    | _ => false
  if signaling a || signaling b then .error .decimalSignal
  else .ok (x.compare y == some .eq)

/-- Whether a real number equals the real part of a complex number without an imaginary one. -/
def complexEqual (re im : Binary) (v : Value) : Except Fault Bool :=
  match v.quantity? with
  | some q => if im.isZero then numbersEqual (.float re) v (.ofBinary re) q else .ok false
  | Option.none => .ok false

/-- Whether every item of the first list has an equal one in the second, by the tests given for
the items of the first. -/
def allIn (tests : List (Value → Except Fault Bool)) (items : List Value) : Except Fault Bool :=
  tests.allM fun test => items.anyM test

/-- Whether every entry given by its tests for key and value has an equal one in the mapping. -/
def entriesIn (tests : List ((Value → Except Fault Bool) × (Value → Except Fault Bool)))
    (entries : List (Value × Value)) : Except Fault Bool :=
  tests.allM fun (isKey, isValue) =>
    entries.anyM fun (k, v) => do
      if ← isKey k then isValue v else pure false

/-- Whether the fields of a record, given by their tests, equal those of another one. -/
def fieldsEqual (className : String) (tests : List (String × (Value → Except Fault Bool)))
    (attributes : List (String × Value)) : List String → Except Fault Bool
  | [] => .ok true
  | name :: rest =>
    match tests.lookup name, attributes.lookup name with
    | some test, some v => do
      if ← test v then fieldsEqual className tests attributes rest else pure false
    | _, _ => .error (.noAttribute className name)

mutual

/-- Whether two values are equal. -/
def equals : Value → Value → Except Fault Bool
  | .none, .none => .ok true
  | .str a, .str b => .ok (a == b)
  | .bytes a, .bytes b => .ok (a == b)
  | .date a, .date b => .ok (a == b)
  | .datetime a, .datetime b => .ok (a.compare? b == some .eq)
  | .complex a b, .complex c d =>
    .ok ((Quantity.ofBinary a).compare (.ofBinary c) == some .eq &&
      (Quantity.ofBinary b).compare (.ofBinary d) == some .eq)
  | .complex a b, v => complexEqual a b v
  | .list as, .list bs => equalItems as bs
  | .tuple as, .tuple bs => equalItems as bs
  | .set as, .set bs =>
    if as.length == bs.length then allIn (tests as) bs else .ok false
  | .dict as, .dict bs =>
    if as.length == bs.length then entriesIn (entryTests as) bs else .ok false
  | .iterator i _, .iterator j _ => .ok (i == j)
  | .pattern s f, .pattern t g => .ok (s == t && f == g)
  | .blank i, .blank j => .ok (i == j)
  | .class c _, .class d _ => .ok (c.id == d.id)
  | .object i c as, .object j d bs =>
    match c.fields with
    | some fields =>
      if c.id == d.id then fieldsEqual c.name (attributeTests as) bs fields else .ok false
    | Option.none => .ok (i == j)
  | .callable f, .callable g => .ok (f.id == g.id)
  | .method m, .method n => .ok (m == n)
  | .pending _ _, .pending _ _ => .ok false
  | .property n a t, .property m b u => do
    if ← equals n m then
      if ← equals a b then pure (t.same u) else pure false
    else pure false
  | a, .complex c d => complexEqual c d a
  | a, b =>
    match a.quantity?, b.quantity? with
    | some x, some y => numbersEqual a b x y
    | _, _ => .ok false

/-- Whether two lists have as many items and each is, or equals, its counterpart. -/
def equalItems : List Value → List Value → Except Fault Bool
  | [], [] => .ok true
  | a :: as, b :: bs => do
    if identical a b then equalItems as bs
    else if ← equals a b then equalItems as bs
    else pure false
  | _, _ => .ok false

/-- For each item, whether a value is it or equals it. -/
def tests : List Value → List (Value → Except Fault Bool)
  | [] => []
  | a :: as => (fun b => if identical a b then .ok true else equals a b) :: tests as

/-- The tests for the keys and values of a mapping. -/
def entryTests :
    List (Value × Value) → List ((Value → Except Fault Bool) × (Value → Except Fault Bool))
  | [] => []
  | (k, v) :: rest =>
    (fun b => if identical k b then .ok true else equals k b,
      fun b => if identical v b then .ok true else equals v b) :: entryTests rest

/-- The tests for the attributes of an object. -/
def attributeTests : List (String × Value) → List (String × (Value → Except Fault Bool))
  | [] => []
  | (name, v) :: rest =>
    (name, fun b => if identical v b then .ok true else equals v b) :: attributeTests rest

end

/-- Whether two values are one object or equal. -/
def same (a b : Value) : Except Fault Bool :=
  if identical a b then .ok true else equals a b

/-- Whether some item is the value or equals it. -/
def isAmong (v : Value) (items : List Value) : Except Fault Bool := items.anyM fun x => same x v

@[simp] theorem equals_str (a b : String) : equals (.str a) (.str b) = .ok (a == b) := by
  simp [equals]

@[simp] theorem same_str (a b : String) : same (.str a) (.str b) = .ok (a == b) := by
  simp [same, identical]

/-! ## Order -/

/-- The order of two real or decimal numbers. What is not a number is in no order, and may not be
asked for one where a decimal number takes part. -/
def orderNumbers (c : Comparison) (a b : Value) (x y : Quantity) : Except Fault Bool :=
  let isDecimal : Value → Bool
    | .decimal _ => true
    | _ => false
  match x.compare y with
  | some o => .ok (c.holds o)
  | Option.none => if isDecimal a || isDecimal b then .error .decimalSignal else .ok false

/-- Whether all items of the first list are in the second. -/
def subset (as bs : List Value) : Except Fault Bool := as.allM fun a => isAmong a bs

mutual

/-- Whether two values are in the given order. -/
def ordered (c : Comparison) : Value → Value → Except Fault Bool
  | .str a, .str b => .ok (c.holds (compare a b))
  | .bytes a, .bytes b => .ok (c.holds (compareOfLessAndEq (a.map UInt8.toNat) (b.map UInt8.toNat)))
  | .date a, .date b => .ok (c.holds (compare a.ordinal b.ordinal))
  | .datetime a, .datetime b =>
    match a.compare? b with
    | some o => .ok (c.holds o)
    | Option.none => .error .mixedOffsets
  | .date _, .datetime _ => .error .dateAgainstTime
  | .datetime _, .date _ => .error .dateAgainstTime
  | .list as, .list bs => orderedItems c as bs
  | .tuple as, .tuple bs => orderedItems c as bs
  | .set as, .set bs =>
    match c with
    | .le => subset as bs
    | .lt => if as.length < bs.length then subset as bs else .ok false
    | .ge => subset bs as
    | .gt => if bs.length < as.length then subset bs as else .ok false
  | a, b =>
    match a.quantity?, b.quantity? with
    | some x, some y => orderNumbers c a b x y
    | _, _ => .error (.unordered c a.typeName b.typeName)

/-- The order of two lists: that of the first two items that differ, or of the lengths. -/
def orderedItems (c : Comparison) : List Value → List Value → Except Fault Bool
  | [], [] => .ok (c.holds .eq)
  | [], _ :: _ => .ok (c.holds .lt)
  | _ :: _, [] => .ok (c.holds .gt)
  | a :: as, b :: bs => do
    if ← same a b then orderedItems c as bs else ordered c a b

end

/-! ## Hashing -/

mutual

/-- Whether a value can be a key. -/
def checkHashable : Value → Except Fault Unit
  | .list _ => .error (.unhashable "list")
  | .set _ => .error (.unhashable "set")
  | .dict _ => .error (.unhashable "dict")
  | .decimal d => if d.isSignaling then .error .signalingHash else .ok ()
  | .tuple items => checkAllHashable items
  | .object _ c _ => if c.fields.isSome then .error (.unhashable c.name) else .ok ()
  | .property name accessor _ => do
    checkHashable name
    checkHashable accessor
  | _ => .ok ()

/-- Whether all items can be keys. -/
def checkAllHashable : List Value → Except Fault Unit
  | [] => .ok ()
  | v :: vs => do
    checkHashable v
    checkAllHashable vs

end

end Value

end Rulebook

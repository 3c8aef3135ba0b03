import Rulebook.ClassInfo

/-!
# Declared types

The declared types of properties: classes, unions in two spellings, generic containers, notes on
a type, constants, and texts that stand for a type not known yet. Unions are kept flat, without
repetitions, and a union of one member is that member.

* `numericVerdict`: whether a declared type is one of numbers, as far as it can be told.
-/

namespace Rulebook

/-- A constant that may stand for the type of its own value. -/
inductive Constant where
  | none
  | bool (b : Bool)
  | int (n : Int)
  | str (s : String)
  | bytes (data : List UInt8)
deriving DecidableEq

/-- The two spellings of a union. -/
inductive UnionStyle where
  | named
  | bar
deriving DecidableEq

/-- A declared type. -/
inductive DeclaredType where
  /-- No type at all, which is not the class of nothing. -/
  | nothing
  /-- Any value. -/
  | any
  | class (c : ClassInfo)
  | union (style : UnionStyle) (members : List DeclaredType)
  /-- A type with notes. -/
  | noted (body : DeclaredType) (notes : List String)
  /-- A container class with the types of its contents. -/
  | generic (origin : ClassInfo) (args : List DeclaredType)
  | classVariable (body : DeclaredType)
  | literal (values : List Constant)
  /-- A text in place of a type. -/
  | quoted (source : String)
  /-- A text in place of a part of a type. -/
  | forward (source : String)
  /-- A constant in place of a type. -/
  | constant (value : Constant)

namespace DeclaredType

/-- The class of nothing. -/
def noneType : DeclaredType := .class ClassInfo.ofNone

mutual

/-- Whether two declared types are the same. The order of the members does not count in a union,
nor in a literal, and neither does the spelling of a union. -/
def same : DeclaredType → DeclaredType → Bool
  | .nothing, .nothing => true
  | .any, .any => true
  | .class c, .class d => c == d
  | .union _ as, .union _ bs => allAmong as bs && bs.all (fun b => isAmong as b)
  | .noted a ns, .noted b ms => same a b && ns == ms
  | .generic c as, .generic d bs => c == d && sameAll as bs
  | .classVariable a, .classVariable b => same a b
  | .literal as, .literal bs => as.all (bs.contains ·) && bs.all (as.contains ·)
  | .quoted a, .quoted b => a == b
  | .forward a, .forward b => a == b
  | .constant a, .constant b => a == b
  | _, _ => false

/-- Whether two lists of declared types are the same. -/
def sameAll : List DeclaredType → List DeclaredType → Bool
  | [], [] => true
  | a :: as, b :: bs => same a b && sameAll as bs
  | _, _ => false

/-- Whether each of these types is one of the others. -/
def allAmong : List DeclaredType → List DeclaredType → Bool
  | [], _ => true
  | a :: as, bs => bs.any (fun b => same a b) && allAmong as bs

/-- Whether a type is one of these. -/
def isAmong : List DeclaredType → DeclaredType → Bool
  | [], _ => false
  | a :: as, b => same a b || isAmong as b

end

/-- The list without repetitions; the first of equal members stays. -/
def distinct (as : List DeclaredType) : List DeclaredType :=
  (as.foldl (fun kept a => if kept.any (same a) then kept else a :: kept) []).reverse

/-- The member types of a union in either spelling, and a list of itself otherwise. -/
def membersOf : DeclaredType → List DeclaredType
  | .union _ members => members
  | a => [a]

/-- A part of a type: nothing stands for the class of nothing, a text for a type not known yet. -/
def toPart : DeclaredType → DeclaredType
  | .nothing => noneType
  | .quoted s => .forward s
  | a => a

/-- A union, flat and without repetitions. -/
def unionOf (style : UnionStyle) (as : List DeclaredType) : DeclaredType :=
  match distinct (as.flatMap membersOf) with
  | [a] => a
  | members => .union style members

/-- The named union of parts. -/
def namedUnion (as : List DeclaredType) : DeclaredType := unionOf .named (as.map toPart)

/-- A type or nothing. -/
def optional (a : DeclaredType) : DeclaredType := namedUnion [a, noneType]

/-- Whether two of these are joined by a bar into a union of the bar's own kind. -/
def joinsByBar : DeclaredType → Bool
  | .class _ => true
  | .any => true
  | .generic _ _ => true
  | .nothing => true
  | .union .bar _ => true
  | _ => false

/-- The union of two types written with a bar. -/
def bar (a b : DeclaredType) : DeclaredType :=
  if a.joinsByBar && b.joinsByBar then unionOf .bar [a.toPart, b.toPart] else namedUnion [a, b]

/-- The union of a list of types written with bars. -/
def barUnion : List DeclaredType → DeclaredType
  | [] => .union .bar []
  | a :: as => as.foldl bar a

/-- A type with one more note. -/
def withNote (note : String) : DeclaredType → DeclaredType
  | .noted body notes => .noted body (notes ++ [note])
  | a => .noted a.toPart [note]

/-- Whether the type is the class of nothing. -/
def isNoneType : DeclaredType → Bool
  | .class c => c == ClassInfo.ofNone
  | _ => false

/-! ## Types of numbers -/

/-- What a class says about its values being numbers with a sign. -/
def classVerdict (c : ClassInfo) : Option Bool :=
  match c.tower with
  | .truth => some false
  | .real => some true
  | .number => none
  | .other => some false

mutual

/-- Whether a declared type is one of numbers; `none` where this cannot be told. A union is one
of numbers if any of its members is, and cannot be told if it has a member that cannot. -/
def numericVerdict : DeclaredType → Option Bool
  | .nothing => none
  | .any => none
  | .class c => classVerdict c
  | .union _ members => anyNumeric members
  | .noted body _ => numericVerdict body
  | .generic origin _ => classVerdict origin
  | .classVariable _ => none
  | .literal _ => none
  | .quoted _ => none
  | .forward _ => none
  | .constant _ => none

/-- The verdict on a list of members, of which the class of nothing does not count. -/
def anyNumeric : List DeclaredType → Option Bool
  | [] => some false
  | a :: as =>
    if a.isNoneType then anyNumeric as
    else
      match numericVerdict a, anyNumeric as with
      | some v, some w => some (v || w)
      | _, _ => none

end

end DeclaredType

end Rulebook

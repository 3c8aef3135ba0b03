import Rulebook.Predicate
import Rulebook.Proofs.DeclaredType.Leaves

/-!
# The values of a declared type

A value is an object of the classes that the language gives it, and of the classes that say so
themselves, which are given from outside. It inhabits a declared type if it is an object of that
class, or inhabits a member of that union; where nothing is known of a type, any value does.

A number can be an object of a class outside the tower of numbers. Among the classes of the
language this is the class of all objects only, but it is this one that the kinds of leaves miss.

* `Value.IsObjectOf`, `DeclaredType.Inhabits`: what a value is one of.
* `DeclaredType.Inhabits.leaf`: what inhabits a declared type inhabits one of its leaves.
* `DeclaredType.Inhabits.outside_of_allOther`: where a number is although no leaf is known to have
  numbers.
-/

namespace Rulebook

/-- The classes of the language that a value is an object of. -/
def Value.ownClasses (v : Value) : List ClassInfo :=
  ClassInfo.ofObject :: match v with
  | .none => [.ofNone]
  | .bool _ =>
    [.ofBool, .ofInt, .ofIntegral, .ofRational, .ofRealNumber, .ofComplexNumber, .ofNumber]
  | .int _ => [.ofInt, .ofIntegral, .ofRational, .ofRealNumber, .ofComplexNumber, .ofNumber]
  | .float _ => [.ofFloat, .ofRealNumber, .ofComplexNumber, .ofNumber]
  | .decimal _ => [.ofDecimal, .ofNumber]
  | .fraction _ _ => [.ofFraction, .ofRational, .ofRealNumber, .ofComplexNumber, .ofNumber]
  | .complex _ _ => [.ofComplex, .ofComplexNumber, .ofNumber]
  | .str _ => [.ofStr]
  | .bytes _ => [.ofBytes]
  | .date _ => [.ofDate]
  | .datetime _ => [.ofDateTime, .ofDate]
  | .list _ => [.ofList]
  | .tuple _ => [.ofTuple]
  | .set _ => [.ofSet]
  | .dict _ => [.ofDict]
  | .class _ _ => [.ofClass]
  | .object _ c _ => [c]
  | _ => []

/-- The value that a constant stands for. -/
def Constant.value : Constant → Value
  | .none => .none
  | .bool b => .bool b
  | .int n => .int n
  | .str s => .str s
  | .bytes data => .bytes data

/-- A class has a value among its objects. `answers` tells which classes say so themselves, as
those do that others are derived from. -/
inductive Value.IsObjectOf (answers : ClassInfo → Value → Prop) (v : Value) : ClassInfo → Prop where
  | own {c : ClassInfo} : c ∈ v.ownClasses → v.IsObjectOf answers c
  /-- Nothing else is of the class of nothing. -/
  | answered {c : ClassInfo} : c ≠ .ofNone → answers c v → v.IsObjectOf answers c

namespace DeclaredType

variable {answers : ClassInfo → Value → Prop} {v : Value}

/-- A value is one of a declared type. The contents of a container are not looked at. -/
inductive Inhabits (answers : ClassInfo → Value → Prop) : Value → DeclaredType → Prop where
  | nothing {v : Value} : Inhabits answers v .nothing
  | any {v : Value} : Inhabits answers v .any
  | «class» {v : Value} {c : ClassInfo} : v.IsObjectOf answers c → Inhabits answers v (.class c)
  | member {v : Value} {style : UnionStyle} {members : List DeclaredType} {a : DeclaredType} :
    a ∈ members → Inhabits answers v a → Inhabits answers v (.union style members)
  | noted {v : Value} {body : DeclaredType} {notes : List String} :
    Inhabits answers v body → Inhabits answers v (.noted body notes)
  | generic {v : Value} {origin : ClassInfo} {args : List DeclaredType} :
    v.IsObjectOf answers origin → Inhabits answers v (.generic origin args)
  | classVariable {v : Value} {body : DeclaredType} :
    Inhabits answers v body → Inhabits answers v (.classVariable body)
  | literal {values : List Constant} {k : Constant} :
    k ∈ values → Inhabits answers k.value (.literal values)
  | quoted {v : Value} {source : String} : Inhabits answers v (.quoted source)
  | forward {v : Value} {source : String} : Inhabits answers v (.forward source)
  | constant {v : Value} {k : Constant} : Inhabits answers v (.constant k)

/-- The classes of the language that have numbers among their objects. -/
def numberClasses : List ClassInfo :=
  [.ofObject, .ofInt, .ofFloat, .ofDecimal, .ofFraction, .ofIntegral, .ofRational, .ofRealNumber,
    .ofComplexNumber, .ofNumber]

theorem mem_numberClasses {c : ClassInfo} (hnum : Predicate.isNumber v = true)
    (hc : c ∈ v.ownClasses) : c ∈ numberClasses := by
  have subset : v.ownClasses ⊆ numberClasses := by
    cases v with
    | int | float | decimal | fraction => simp [Value.ownClasses, numberClasses]
    | _ => cases hnum
  exact subset hc

/-- The one class outside the tower that the language puts numbers into is that of all objects. -/
theorem numberClasses_other : ∀ c ∈ numberClasses,
    c ≠ .ofNone ∧ ((DeclaredType.class c).leafKind = .other → c = .ofObject) := by
  decide

/-- A number is nothing of the class of nothing. -/
theorem ne_ofNone_of_isObjectOf {c : ClassInfo} (hnum : Predicate.isNumber v = true)
    (h : v.IsObjectOf answers c) : c ≠ .ofNone := by
  cases h with
  | own hc => exact (numberClasses_other c (mem_numberClasses hnum hc)).1
  | answered hc _ => exact hc

theorem mem_leavesAll {members : List DeclaredType} {leaf : DeclaredType} :
    leaf ∈ leavesAll members ↔ ∃ a ∈ members, leaf ∈ a.leaves := by
  induction members with
  | nil => simp [leavesAll]
  | cons a as ih => simp [leavesAll, ih]

/-- A number that inhabits a declared type inhabits one of its leaves. -/
theorem Inhabits.leaf {a : DeclaredType} (h : Inhabits answers v a)
    (hnum : Predicate.isNumber v = true) : ∃ leaf ∈ a.leaves, Inhabits answers v leaf := by
  induction h with
  | nothing => exact ⟨_, List.mem_singleton_self _, .nothing⟩
  | any => exact ⟨_, List.mem_singleton_self _, .any⟩
  | @«class» v c hc =>
    have hnone : (DeclaredType.class c).isNoneType = false :=
      beq_eq_false_iff_ne.mpr (ne_ofNone_of_isObjectOf hnum hc)
    refine ⟨.class c, ?_, .class hc⟩
    simp [leaves, hnone]
  | member ha _ ih =>
    obtain ⟨leaf, hleaf, hin⟩ := ih hnum
    exact ⟨leaf, mem_leavesAll.mpr ⟨_, ha, hleaf⟩, hin⟩
  | noted _ ih => exact ih hnum
  | generic hc => exact ⟨_, List.mem_singleton_self _, .class hc⟩
  | classVariable hbody _ => exact ⟨_, List.mem_singleton_self _, .classVariable hbody⟩
  | literal hk => exact ⟨_, List.mem_singleton_self _, .literal hk⟩
  | quoted => exact ⟨_, List.mem_singleton_self _, .quoted⟩
  | forward => exact ⟨_, List.mem_singleton_self _, .forward⟩
  | constant => exact ⟨_, List.mem_singleton_self _, .constant⟩

/-- A leaf whose values are no numbers is a class. -/
theorem eq_class_of_other {leaf : DeclaredType} (h : leaf.leafKind = .other) :
    ∃ c, leaf = .class c := by
  cases leaf with
  | «class» c => exact ⟨c, rfl⟩
  | _ => cases h

/-- Where no leaf is known to have numbers, a number is there because a leaf is the class of all
objects, or a class that says so itself. -/
theorem Inhabits.outside_of_allOther {a : DeclaredType} (h : Inhabits answers v a)
    (hnum : Predicate.isNumber v = true) (hall : a.AllOther) :
    ∃ c, .class c ∈ a.leaves ∧ (c = .ofObject ∨ answers c v) := by
  obtain ⟨leaf, hleaf, hin⟩ := h.leaf hnum
  have hother := hall leaf hleaf
  obtain ⟨c, rfl⟩ := eq_class_of_other hother
  refine ⟨c, hleaf, ?_⟩
  cases hin with
  | «class» hc =>
    cases hc with
    | own hc => exact .inl ((numberClasses_other c (mem_numberClasses hnum hc)).2 hother)
    | answered _ hc => exact .inr hc

end DeclaredType

end Rulebook

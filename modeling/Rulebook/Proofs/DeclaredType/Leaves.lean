import Mathlib
import Rulebook.DeclaredType

/-!
# The leaves of a declared type

A declared type is taken apart into its leaves: unions and notes are opened at every depth, the
class of nothing is left out, and a container counts as its class. Each leaf is of one of three
kinds, and the checks of a sign look at nothing else: they are refused iff there is a declared type
and all its leaves are known to be no numbers. So it does not matter how the leaves are put
together.

* `DeclaredType.leaves`, `DeclaredType.leafKind`: the leaves and their kinds.
* `DeclaredType.numericVerdict_eq`: the verdict on a declared type is read off its leaves.
* `DeclaredType.IsOfParts`: what a declared type has from its parts, such as leaves of a kind.
* `DeclaredType.Rearranged`: other ways to write a declared type, with or without nothing or notes
  around any part of it. `DeclaredType.IsOfParts.rearranged_iff`: they have the same of their parts.
-/

namespace Rulebook

variable {ω : Type}

/-- What is known of a leaf. -/
inductive LeafKind where
  /-- Its values are numbers with a sign. -/
  | numeric
  /-- This cannot be told. -/
  | unknown
  /-- Its values are no such numbers. -/
  | other
deriving DecidableEq, Repr

/-- What is known of a class. Truth values are no numbers. -/
def LeafKind.ofTower : Tower → LeafKind
  | .real => .numeric
  | .number => .unknown
  | .truth => .other
  | .other => .other

namespace DeclaredType

mutual

/-- The leaves of a declared type. -/
def leaves : DeclaredType → List DeclaredType
  | .union _ members => leavesAll members
  | .noted body _ => leaves body
  | .generic origin _ => [.class origin]
  | a => if a.isNoneType then [] else [a]

/-- The leaves of a list of declared types. -/
def leavesAll : List DeclaredType → List DeclaredType
  | [] => []
  | a :: as => leaves a ++ leavesAll as

end

/-- The kind of a leaf. What is not a class is not known. -/
def leafKind : DeclaredType → LeafKind
  | .class c => .ofTower c.tower
  | _ => .unknown

/-- The kinds of the leaves of a declared type. -/
def kinds (a : DeclaredType) : List LeafKind := a.leaves.map leafKind

/-- A declared type is refused to the checks of a sign if none of its leaves is a number or not
known. -/
def AllOther (a : DeclaredType) : Prop := ∀ leaf ∈ a.leaves, leaf.leafKind = .other

instance (a : DeclaredType) : Decidable a.AllOther := by
  unfold AllOther
  infer_instance

/-! ## The verdict -/

/-- The verdict on leaves of these kinds. -/
def verdictOf (ks : List LeafKind) : Option Bool :=
  if .unknown ∈ ks then none else some (decide (.numeric ∈ ks))

theorem verdictOf_append (ks ls : List LeafKind) :
    verdictOf (ks ++ ls) = match verdictOf ks, verdictOf ls with
      | some v, some w => some (v || w)
      | _, _ => none := by
  unfold verdictOf
  by_cases hk : LeafKind.unknown ∈ ks <;> by_cases hl : LeafKind.unknown ∈ ls <;>
    simp [hk, hl]

theorem classVerdict_eq (c : ClassInfo) :
    classVerdict c = verdictOf [leafKind (.class c)] := by
  rw [classVerdict, leafKind]
  cases c.tower <;> rfl

theorem kinds_noneType : kinds noneType = [] := by
  simp [kinds, leaves, noneType, isNoneType]

theorem eq_noneType {a : DeclaredType} (h : a.isNoneType = true) : a = noneType := by
  cases a with
  | «class» c =>
    have hc : c = ClassInfo.ofNone := beq_iff_eq.mp h
    rw [hc, noneType]
  | _ => cases h

theorem kinds_class {c : ClassInfo} (h : c ≠ ClassInfo.ofNone) :
    kinds (.class c) = [leafKind (.class c)] := by
  have hc : (DeclaredType.class c).isNoneType = false := beq_eq_false_iff_ne.mpr h
  simp [kinds, leaves, hc]

mutual

/-- The verdict on a declared type is that on its leaves. -/
theorem numericVerdict_eq : (a : DeclaredType) → numericVerdict a = verdictOf a.kinds
  | .nothing => rfl
  | .any => rfl
  | .class c => by
    by_cases h : c = ClassInfo.ofNone
    · -- The class of nothing is no leaf, and it is no class of numbers either.
      subst h
      show classVerdict ClassInfo.ofNone = verdictOf noneType.kinds
      rw [kinds_noneType]
      rfl
    · rw [numericVerdict, kinds_class h, classVerdict_eq]
  | .union _ members => anyNumeric_eq members
  | .noted body _ => numericVerdict_eq body
  | .generic origin _ => classVerdict_eq origin
  | .classVariable _ => rfl
  | .literal _ => rfl
  | .quoted _ => rfl
  | .forward _ => rfl
  | .constant _ => rfl

/-- The verdict on a list of members is that on the leaves of all of them. -/
theorem anyNumeric_eq : (as : List DeclaredType) →
    anyNumeric as = verdictOf ((leavesAll as).map leafKind)
  | [] => rfl
  | a :: as => by
    have hsplit : (leavesAll (a :: as)).map leafKind = a.kinds ++ (leavesAll as).map leafKind :=
      List.map_append ..
    rw [anyNumeric, anyNumeric_eq as, hsplit]
    split
    · rename_i h
      rw [eq_noneType h, kinds_noneType, List.nil_append]
    · rw [numericVerdict_eq a]
      exact (verdictOf_append a.kinds _).symm

end

theorem mem_kinds {a : DeclaredType} {k : LeafKind} :
    k ∈ a.kinds ↔ ∃ leaf ∈ a.leaves, leaf.leafKind = k := List.mem_map

theorem allOther_iff (a : DeclaredType) :
    a.AllOther ↔ .unknown ∉ a.kinds ∧ .numeric ∉ a.kinds := by
  constructor
  · intro h
    constructor <;>
    · intro hk
      obtain ⟨leaf, hleaf, hkind⟩ := mem_kinds.mp hk
      cases (h leaf hleaf).symm.trans hkind
  · rintro ⟨hu, hn⟩ leaf hleaf
    have hk : leaf.leafKind ∈ a.kinds := List.mem_map_of_mem hleaf
    cases h : leaf.leafKind with
    | numeric => exact absurd (h ▸ hk) hn
    | unknown => exact absurd (h ▸ hk) hu
    | other => rfl

/-- Only where all leaves are known to be no numbers is the verdict that there is none. -/
theorem numericVerdict_false_iff (a : DeclaredType) :
    a.numericVerdict = some false ↔ a.AllOther := by
  rw [numericVerdict_eq, allOther_iff, verdictOf]
  split
  · rename_i h
    simp [h]
  · rename_i h
    simp [h]

/-! ## What a type has from its parts -/

/-- Something that a declared type has from its parts: a union from its members, a type with notes
from what it is without them, and a container in a way that does not depend on how its contents are
written. -/
structure IsOfParts (P : DeclaredType → Prop) : Prop where
  not_none : ¬ P noneType
  union {style : UnionStyle} {members : List DeclaredType} :
    P (.union style members) ↔ ∃ a ∈ members, P a
  noted {body : DeclaredType} {notes : List String} : P (.noted body notes) ↔ P body
  forward {s : String} : P (.forward s) ↔ P (.quoted s)
  generic {origin : ClassInfo} {as bs : List DeclaredType} :
    ((∃ a ∈ as, P a) ↔ ∃ b ∈ bs, P b) → (P (.generic origin as) ↔ P (.generic origin bs))
  classVariable {a b : DeclaredType} :
    (P a ↔ P b) → (P (.classVariable a) ↔ P (.classVariable b))
  literal {as bs : List Constant} :
    (∀ c, c ∈ as ↔ c ∈ bs) → (P (.literal as) ↔ P (.literal bs))

theorem mem_kinds_all {as : List DeclaredType} {k : LeafKind} :
    k ∈ (leavesAll as).map leafKind ↔ ∃ a ∈ as, k ∈ a.kinds := by
  induction as with
  | nil => simp [leavesAll]
  | cons a as ih =>
    rw [leavesAll, List.map_append, List.mem_append, ih]
    simp [kinds]

/-- A type has a leaf of a kind from its parts. -/
theorem isOfParts_kinds (k : LeafKind) : IsOfParts fun a => k ∈ a.kinds where
  not_none := by simp [kinds_noneType]
  union := mem_kinds_all
  noted := Iff.rfl
  forward := Iff.rfl
  generic := fun _ => Iff.rfl
  classVariable := fun _ => Iff.rfl
  literal := fun _ => Iff.rfl

namespace IsOfParts

variable {P : DeclaredType → Prop}

mutual

/-- The same declared types have the same of their parts. -/
theorem of_same (hP : IsOfParts P) : (a b : DeclaredType) → same a b = true → (P a ↔ P b)
  | .class c, b, h => by
    cases b <;> simp only [same, beq_iff_eq, Bool.false_eq_true] at h
    rw [h]
  | .union _ as, b, h => by
    cases b <;> simp only [same, Bool.and_eq_true, List.all_eq_true, Bool.false_eq_true] at h
    rw [hP.union, hP.union]
    constructor
    · intro hp
      exact of_allAmong hP as _ h.1 hp
    · rintro ⟨b, hb, hp⟩
      exact of_isAmong hP as b (h.2 b hb) hp
  | .noted a _, b, h => by
    cases b <;> simp only [same, Bool.and_eq_true, Bool.false_eq_true] at h
    rw [hP.noted, hP.noted]
    exact of_same hP a _ h.1
  | .generic c as, b, h => by
    cases b <;> simp only [same, Bool.and_eq_true, beq_iff_eq, Bool.false_eq_true] at h
    rw [← h.1]
    exact hP.generic (of_sameAll hP as _ h.2)
  | .classVariable a, b, h => by
    cases b <;> simp only [same, Bool.false_eq_true] at h
    exact hP.classVariable (of_same hP a _ h)
  | .literal as, b, h => by
    cases b <;> simp only [same, Bool.and_eq_true, List.all_eq_true, List.contains_iff_mem,
      Bool.false_eq_true] at h
    exact hP.literal fun c => ⟨h.1 c, h.2 c⟩
  | .nothing, b, h | .any, b, h | .quoted _, b, h | .forward _, b, h | .constant _, b, h => by
    cases b <;> simp only [same, beq_iff_eq, Bool.false_eq_true] at h
    all_goals first
      | rfl
      | rw [h]

theorem of_sameAll (hP : IsOfParts P) : (as bs : List DeclaredType) → sameAll as bs = true →
    ((∃ a ∈ as, P a) ↔ ∃ b ∈ bs, P b)
  | [], [], _ => Iff.rfl
  | [], _ :: _, h | _ :: _, [], h => by simp [sameAll] at h
  | a :: as, b :: bs, h => by
    rw [sameAll, Bool.and_eq_true] at h
    simp only [List.mem_cons, exists_eq_or_imp, of_same hP a b h.1, of_sameAll hP as bs h.2]

theorem of_allAmong (hP : IsOfParts P) : (as bs : List DeclaredType) → allAmong as bs = true →
    (∃ a ∈ as, P a) → ∃ b ∈ bs, P b
  | [], _, _, hp => by
    obtain ⟨a, ha, -⟩ := hp
    cases ha
  | a :: as, bs, h, hp => by
    rw [allAmong, Bool.and_eq_true, List.any_eq_true] at h
    obtain ⟨⟨b, hb, hsame⟩, hrest⟩ := h
    have hfirst := of_same hP a b hsame
    obtain ⟨a', ha', hp⟩ := hp
    rcases List.mem_cons.mp ha' with rfl | ha'
    · exact ⟨b, hb, hfirst.mp hp⟩
    · exact of_allAmong hP as bs hrest ⟨a', ha', hp⟩

theorem of_isAmong (hP : IsOfParts P) : (as : List DeclaredType) → (b : DeclaredType) →
    isAmong as b = true → P b → ∃ a ∈ as, P a
  | [], _, h, _ => by simp [isAmong] at h
  | a :: as, b, h, hp => by
    rw [isAmong, Bool.or_eq_true] at h
    rcases h with hsame | hrest
    · exact ⟨a, List.mem_cons_self, (of_same hP a b hsame).mpr hp⟩
    · obtain ⟨a', ha', hp⟩ := of_isAmong hP as b hrest hp
      exact ⟨a', List.mem_cons_of_mem a ha', hp⟩

end

theorem distinct_iff (hP : IsOfParts P) (as : List DeclaredType) :
    (∃ a ∈ distinct as, P a) ↔ ∃ a ∈ as, P a := by
  -- The list is read from the front, with what has been kept so far.
  have keep : ∀ kept : List DeclaredType,
      (∃ a ∈ as.foldl (fun kept a => if kept.any (same a) then kept else a :: kept) kept, P a) ↔
        (∃ a ∈ kept, P a) ∨ ∃ a ∈ as, P a := by
    induction as with
    | nil => simp
    | cons a as ih =>
      intro kept
      rw [List.foldl_cons, ih]
      split
      · rename_i h
        obtain ⟨b, hb, hsame⟩ := List.any_eq_true.mp h
        have hdrop : P a → ∃ b ∈ kept, P b := by
          intro hp
          exact ⟨b, hb, (hP.of_same a b hsame).mp hp⟩
        simp only [List.mem_cons, exists_eq_or_imp]
        by_cases hp : P a
        · simp [hp, hdrop hp]
        · simp [hp]
      · simp only [List.mem_cons, exists_eq_or_imp]
        rw [or_assoc, or_left_comm]
  have hall := keep []
  simpa [distinct] using hall

theorem membersOf_iff (hP : IsOfParts P) (a : DeclaredType) :
    (∃ b ∈ membersOf a, P b) ↔ P a := by
  cases a with
  | union _ members => exact hP.union.symm
  | _ => simp [membersOf]

/-- A union has what its members have. -/
theorem unionOf_iff (hP : IsOfParts P) (style : UnionStyle) (as : List DeclaredType) :
    P (unionOf style as) ↔ ∃ a ∈ as, P a := by
  have hmembers : (∃ b ∈ distinct (as.flatMap membersOf), P b) ↔ ∃ a ∈ as, P a := by
    rw [hP.distinct_iff]
    constructor
    · rintro ⟨b, hb, hp⟩
      obtain ⟨a, ha, hb⟩ := List.mem_flatMap.mp hb
      exact ⟨a, ha, (hP.membersOf_iff a).mp ⟨b, hb, hp⟩⟩
    · rintro ⟨a, ha, hp⟩
      obtain ⟨b, hb, hp⟩ := (hP.membersOf_iff a).mpr hp
      exact ⟨b, List.mem_flatMap.mpr ⟨a, ha, hb⟩, hp⟩
  rw [← hmembers, unionOf]
  split
  · rename_i a h
    simp [h]
  · exact hP.union

theorem namedUnion_iff (hP : IsOfParts P) (as : List DeclaredType) :
    P (namedUnion as) ↔ ∃ a ∈ as, P a.toPart := by
  rw [namedUnion, hP.unionOf_iff]
  simp

/-- A part has what it has on its own, unless it is nothing at all. -/
theorem toPart_iff (hP : IsOfParts P) {a : DeclaredType} (h : a ≠ .nothing) :
    P a.toPart ↔ P a := by
  cases a with
  | nothing => exact absurd rfl h
  | quoted s => exact hP.forward
  | _ => exact Iff.rfl

theorem withNote_iff (hP : IsOfParts P) {a : DeclaredType} (h : a ≠ .nothing) (note : String) :
    P (withNote note a) ↔ P a := by
  cases a with
  | noted body notes => rw [withNote, hP.noted, hP.noted]
  | _ => exact hP.noted.trans (hP.toPart_iff h)

theorem optional_iff (hP : IsOfParts P) {a : DeclaredType} (h : a ≠ .nothing) :
    P (optional a) ↔ P a := by
  have hnone : ¬ P noneType.toPart := hP.not_none
  rw [optional, hP.namedUnion_iff]
  simp [hnone, hP.toPart_iff h]

theorem bar_iff (hP : IsOfParts P) (a b : DeclaredType) :
    P (bar a b) ↔ P (namedUnion [a, b]) := by
  rw [bar]
  split
  · rw [hP.unionOf_iff, hP.namedUnion_iff]
    simp
  · rfl

end IsOfParts

/-! ## Other ways to write a type -/

/-- Two ways to write a declared type. -/
inductive Rearranged : DeclaredType → DeclaredType → Prop where
  | refl (a : DeclaredType) : Rearranged a a
  | symm {a b : DeclaredType} : Rearranged a b → Rearranged b a
  | trans {a b c : DeclaredType} : Rearranged a b → Rearranged b c → Rearranged a c
  | optional {a : DeclaredType} : a ≠ .nothing → Rearranged (optional a) a
  | withNote {a : DeclaredType} (note : String) : a ≠ .nothing → Rearranged (withNote note a) a
  /-- The two spellings of a union. -/
  | bar (a b : DeclaredType) : Rearranged (bar a b) (namedUnion [a, b])
  | reorder {as bs : List DeclaredType} : as.Perm bs → Rearranged (namedUnion as) (namedUnion bs)
  | duplicate (a : DeclaredType) (as : List DeclaredType) :
    Rearranged (namedUnion (a :: a :: as)) (namedUnion (a :: as))
  | regroup {as bs : List DeclaredType} : namedUnion as ≠ .nothing →
    Rearranged (namedUnion (namedUnion as :: bs)) (namedUnion (as ++ bs))
  /-- A member of a union written in another way. -/
  | member {a b : DeclaredType} (as : List DeclaredType) : a ≠ .nothing → b ≠ .nothing →
    Rearranged a b → Rearranged (namedUnion (a :: as)) (namedUnion (b :: as))
  /-- The type of the contents of a container written in another way. -/
  | contents {a b : DeclaredType} (origin : ClassInfo) (before after : List DeclaredType) :
    Rearranged a b →
    Rearranged (.generic origin (before ++ a :: after)) (.generic origin (before ++ b :: after))
  | classVariable {a b : DeclaredType} : Rearranged a b →
    Rearranged (.classVariable a) (.classVariable b)

/-- However a declared type is written, it has the same of its parts. -/
theorem IsOfParts.rearranged_iff {P : DeclaredType → Prop} (hP : IsOfParts P) {a b : DeclaredType}
    (h : Rearranged a b) : P a ↔ P b := by
  induction h with
  | refl a => rfl
  | symm _ ih => exact ih.symm
  | trans _ _ ihab ihbc => exact ihab.trans ihbc
  | optional ha => exact hP.optional_iff ha
  | withNote note ha => exact hP.withNote_iff ha note
  | bar a b => exact hP.bar_iff a b
  | reorder hperm =>
    rw [hP.namedUnion_iff, hP.namedUnion_iff]
    simp only [hperm.mem_iff]
  | duplicate a as =>
    rw [hP.namedUnion_iff, hP.namedUnion_iff]
    simp
  | @regroup as bs hpart =>
    have hgroup : P (namedUnion as).toPart ↔ ∃ a ∈ as, P a.toPart :=
      (hP.toPart_iff hpart).trans (hP.namedUnion_iff as)
    rw [hP.namedUnion_iff, hP.namedUnion_iff]
    simp only [List.mem_cons, exists_eq_or_imp, hgroup]
    simp only [List.mem_append, or_and_right, exists_or]
  | member as ha hb _ ih =>
    rw [hP.namedUnion_iff, hP.namedUnion_iff]
    simp only [List.mem_cons, exists_eq_or_imp, hP.toPart_iff ha, hP.toPart_iff hb, ih]
  | contents origin before after _ ih =>
    refine hP.generic ?_
    simp only [List.mem_append, List.mem_cons, or_and_right, exists_or, exists_eq_left, ih]
  | classVariable _ ih => exact hP.classVariable ih

/-- However a declared type is written, its leaves are of the same kinds. -/
theorem Rearranged.allOther_iff {a b : DeclaredType} (h : Rearranged a b) :
    a.AllOther ↔ b.AllOther := by
  rw [DeclaredType.allOther_iff, DeclaredType.allOther_iff,
    (isOfParts_kinds .unknown).rearranged_iff h, (isOfParts_kinds .numeric).rearranged_iff h]

end DeclaredType

end Rulebook

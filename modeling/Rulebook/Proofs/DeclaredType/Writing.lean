import Rulebook.DeclaredType.Text
import Rulebook.Proofs.Action
import Rulebook.Proofs.DeclaredType.Leaves

/-!
# Declared types that cannot be written

A declared type has a text unless an integer of too many digits stands somewhere in it. However it
is written, with or without notes and in whichever order its members are, the same integers stand
in it.

* `DeclaredType.HoldsLong`: such an integer stands in a declared type.
* `DeclaredType.text_error_iff`: it is why a declared type has no text.
-/

namespace Rulebook

/-- An integer has too many digits to be written. -/
def IsLong (n : Int) : Prop := tenPower maxDigits ≤ n.natAbs

theorem isLong_tenPower {k : Nat} (h : maxDigits ≤ k) : IsLong (tenPower k) := by
  have hpower : ∀ m ≤ k, tenPower m ≤ tenPower k := fun _ => Nat.pow_le_pow_right (by decide)
  exact (hpower _ h).trans_eq (Int.natAbs_natCast _).symm

/-- An integer of 5001 digits. -/
def longInteger : Int := tenPower 5000

theorem isLong_longInteger : IsLong longInteger := isLong_tenPower (by decide)

/-- What fails under a condition, and then because an integer is too long. -/
def FailsLongIff {α : Type} (x : Except Fault α) (P : Prop) : Prop :=
  ∀ f, x = .error f ↔ f = .tooManyDigits none ∧ P

namespace FailsLongIff

variable {α β : Type} {P Q : Prop}

theorem ret (a : α) : FailsLongIff (.ok a) False := by
  intro f
  simp

theorem never (hp : ¬ P) (a : α) : FailsLongIff (.ok a) P := by
  rw [eq_false hp]
  exact ret a

theorem bind {x : Except Fault α} {next : α → Except Fault β} (hx : FailsLongIff x P)
    (hnext : ∀ a, FailsLongIff (next a) Q) : FailsLongIff (x >>= next) (P ∨ Q) := by
  intro f
  cases x with
  | error e =>
    obtain ⟨rfl, hp⟩ := (hx e).mp rfl
    simp [error_then, hp, eq_comm]
  | ok a =>
    have hp : ¬ P := fun hp => nomatch (hx _).mpr ⟨rfl, hp⟩
    simp [ok_then, hnext a f, hp]

theorem map {x : Except Fault α} (hx : FailsLongIff x P) (g : α → β) :
    FailsLongIff (x >>= fun a => pure (g a)) P := by
  have h := hx.bind fun a => ret (g a)
  rwa [or_false] at h

theorem int (n : Int) : FailsLongIff (intText n) (IsLong n) := by
  intro f
  unfold intText IsLong
  by_cases h : n.natAbs < tenPower maxDigits
  · simp [h]
  · simp [h, Nat.not_lt.mp h, eq_comm]

end FailsLongIff

open FailsLongIff

theorem Constant.text_fails : ∀ c : Constant, FailsLongIff c.text (∃ n, c = .int n ∧ IsLong n)
  | .int n => by simpa [text] using FailsLongIff.int n
  | .none | .bool _ | .str _ | .bytes _ => by simpa [text] using ret _

theorem Constant.texts_fail (values : List Constant) :
    FailsLongIff (texts values) (∃ n, .int n ∈ values ∧ IsLong n) := by
  induction values with
  | nil => simpa [texts] using ret _
  | cons c cs ih =>
    have h := c.text_fails.bind fun text => ih.map fun texts => text :: texts
    simpa [texts, or_and_right, exists_or, eq_comm] using h

namespace DeclaredType

/-- An integer that is too long to be written stands in a declared type. -/
inductive HoldsLong : DeclaredType → Prop where
  | member {style : UnionStyle} {members : List DeclaredType} {a : DeclaredType} :
    a ∈ members → HoldsLong a → HoldsLong (.union style members)
  | noted {body : DeclaredType} {notes : List String} :
    HoldsLong body → HoldsLong (.noted body notes)
  | argument {origin : ClassInfo} {args : List DeclaredType} {a : DeclaredType} :
    a ∈ args → HoldsLong a → HoldsLong (.generic origin args)
  | classVariable {body : DeclaredType} : HoldsLong body → HoldsLong (.classVariable body)
  | literal {values : List Constant} {n : Int} :
    .int n ∈ values → IsLong n → HoldsLong (.literal values)
  | constant {n : Int} : IsLong n → HoldsLong (.constant (.int n))

theorem holdsLong_union {style : UnionStyle} {members : List DeclaredType} :
    HoldsLong (.union style members) ↔ ∃ a ∈ members, HoldsLong a := by
  constructor
  · intro h
    cases h with
    | member ha h => exact ⟨_, ha, h⟩
  · rintro ⟨a, ha, h⟩
    exact .member ha h

theorem holdsLong_generic {origin : ClassInfo} {args : List DeclaredType} :
    HoldsLong (.generic origin args) ↔ ∃ a ∈ args, HoldsLong a := by
  constructor
  · intro h
    cases h with
    | argument ha h => exact ⟨_, ha, h⟩
  · rintro ⟨a, ha, h⟩
    exact .argument ha h

theorem holdsLong_noted {body : DeclaredType} {notes : List String} :
    HoldsLong (.noted body notes) ↔ HoldsLong body := by
  refine ⟨fun h => ?_, .noted⟩
  cases h with
  | noted h => exact h

theorem holdsLong_classVariable {body : DeclaredType} :
    HoldsLong (.classVariable body) ↔ HoldsLong body := by
  refine ⟨fun h => ?_, .classVariable⟩
  cases h with
  | classVariable h => exact h

theorem holdsLong_literal {values : List Constant} :
    HoldsLong (.literal values) ↔ ∃ n, .int n ∈ values ∧ IsLong n := by
  constructor
  · intro h
    cases h with
    | literal hn h => exact ⟨_, hn, h⟩
  · rintro ⟨n, hn, h⟩
    exact .literal hn h

theorem holdsLong_constant {c : Constant} :
    HoldsLong (.constant c) ↔ ∃ n, c = .int n ∧ IsLong n := by
  constructor
  · intro h
    cases h with
    | constant h => exact ⟨_, rfl, h⟩
  · rintro ⟨n, rfl, h⟩
    exact .constant h

mutual

theorem partText_fails : ∀ a : DeclaredType, FailsLongIff a.partText a.HoldsLong
  | .union style members => by
    rw [partText, holdsLong_union]
    exact (partTexts_fail members).map _
  | .noted body notes => by
    rw [partText, holdsLong_noted]
    exact (partText_fails body).map _
  | .generic origin args => by
    rw [partText, holdsLong_generic]
    exact (partTexts_fail args).map _
  | .classVariable body => by
    rw [partText, holdsLong_classVariable]
    exact (partText_fails body).map _
  | .literal values => by
    rw [partText, holdsLong_literal]
    exact (Constant.texts_fail values).map _
  | .constant c => by
    rw [partText, holdsLong_constant]
    exact c.text_fails
  | .nothing | .any | .class _ | .quoted _ | .forward _ => .never (fun h => nomatch h) _

theorem partTexts_fail : ∀ as : List DeclaredType,
    FailsLongIff (partTexts as) (∃ a ∈ as, a.HoldsLong)
  | [] => by simpa [partTexts] using ret _
  | a :: as => by
    have h := (partText_fails a).bind fun text => (partTexts_fail as).map fun texts => text :: texts
    simpa [partTexts] using h

end

/-- A declared type has no text iff an integer that is too long stands in it, and then for this
reason. -/
theorem text_error_iff {a : DeclaredType} {f : Fault} :
    a.text = .error f ↔ f = .tooManyDigits none ∧ a.HoldsLong := by
  cases a with
  | «class» c => exact ⟨nofun, fun h => nomatch h.2⟩
  | _ => exact partText_fails _ f

/-- A declared type has a text iff no integer that is too long stands in it. -/
theorem text_ok_iff {a : DeclaredType} : (∃ t, a.text = .ok t) ↔ ¬ a.HoldsLong := by
  cases h : a.text with
  | ok t =>
    refine ⟨fun _ hlong => ?_, fun _ => ⟨t, rfl⟩⟩
    rw [text_error_iff.mpr ⟨rfl, hlong⟩] at h
    cases h
  | error f =>
    have hlong := (text_error_iff.mp h).2
    simp [hlong]

/-- However a declared type is written, the same integers stand in it. -/
theorem isOfParts_holdsLong : IsOfParts HoldsLong where
  not_none := nofun
  union := holdsLong_union
  noted := holdsLong_noted
  forward := ⟨nofun, nofun⟩
  generic h := by rw [holdsLong_generic, holdsLong_generic, h]
  classVariable h := by rw [holdsLong_classVariable, holdsLong_classVariable, h]
  literal h := by simp [holdsLong_literal, h]

end DeclaredType

end Rulebook

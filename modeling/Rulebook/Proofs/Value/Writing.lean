import Rulebook.Proofs.Action
import Rulebook.Proofs.DeclaredType.Writing
import Rulebook.Value.Text

/-!
# Values that cannot be written

Both texts of a value fail in two ways only, at the value itself or at one inside of it: an integer
is too long, or an object of a class of records lacks a field. A value has both texts or neither.

* `Fault.IsOfWriting`: these faults.
* `Value.shown_error`: showing a value fails with no other.
* `Value.text_error_iff`: a value has no text iff it cannot be shown, and for the same fault.
* `Value.unwritten`: a value that cannot be written.
-/

namespace Rulebook

/-- A fault of writing a value: an integer is too long, or a record lacks a field. -/
def Fault.IsOfWriting : Fault → Prop
  | .tooManyDigits none | .noAttribute .. => True
  | _ => False

theorem Fault.IsOfWriting.libraryKind?_eq {f : Fault} (h : f.IsOfWriting) :
    f.libraryKind? = none := by
  cases f <;> first | rfl | exact h.elim

theorem Fault.IsOfWriting.kind_ne {f : Fault} (h : f.IsOfWriting) :
    f.kind ≠ "ConfigurationError" := by
  cases f with
  | tooManyDigits _ | noAttribute _ _ => simp [Fault.kind, Fault.libraryKind?]
  | _ => exact h.elim

namespace Value

/-- What fails with a fault of writing only. -/
def FailsInWriting {α : Type} (x : Except Fault α) : Prop := ∀ f, x = .error f → f.IsOfWriting

namespace FailsInWriting

variable {α β : Type}

theorem ret (a : α) : FailsInWriting (.ok a) := nofun

theorem bind {x : Except Fault α} {next : α → Except Fault β} (hx : FailsInWriting x)
    (hnext : ∀ a, FailsInWriting (next a)) : FailsInWriting (x >>= next) := by
  cases x with
  | error e =>
    rintro f ⟨⟩
    exact hx e rfl
  | ok a => exact hnext a

end FailsInWriting

open FailsInWriting

theorem intText_fails (n : Int) : FailsInWriting (intText n) := by
  intro f h
  obtain ⟨rfl, -⟩ := (FailsLongIff.int n f).mp h
  trivial

theorem declared_fails (a : DeclaredType) : FailsInWriting a.text := by
  intro f h
  obtain ⟨rfl, -⟩ := DeclaredType.text_error_iff.mp h
  trivial

/-- The fields of a record are written if they are there and each of them is. -/
theorem fieldTexts_fails {className : String} {attributes : List (String × Except Fault String)}
    (h : ∀ a ∈ attributes, FailsInWriting a.2) (names : List String) :
    FailsInWriting (fieldTexts className attributes names) := by
  induction names with
  | nil => exact ret _
  | cons name names ih =>
    unfold fieldTexts
    split
    · rintro f ⟨⟩
      trivial
    · rename_i shown hshown
      obtain ⟨front, back, hattributes, -⟩ := List.lookup_eq_some_iff.mp hshown
      have hmem : (name, shown) ∈ attributes := by simp [hattributes]
      exact (h _ hmem).bind fun _ => ih.bind fun _ => ret _

mutual

/-- Showing a value fails with a fault of writing only. -/
theorem shown_fails : ∀ v : Value, FailsInWriting v.shown
  | .none | .bool _ | .float _ | .decimal _ | .complex _ _ | .str _ | .bytes _ | .date _
  | .datetime _ | .iterator _ _ | .pattern _ _ | .blank _ | .class _ _ | .callable _
  | .method _ | .pending _ _ => ret _
  | .int n => intText_fails n
  | .fraction num den => (intText_fails num).bind fun _ => (intText_fails den).bind fun _ => ret _
  | .list items | .tuple items | .set items => (shownAll_fails items).bind fun _ => ret _
  | .dict entries => (shownEntries_fails entries).bind fun _ => ret _
  | .object _ c attributes => by
    unfold shown
    split
    · exact (fieldTexts_fails (shownAttributes_fail attributes) _).bind fun _ => ret _
    · exact ret _
  | .property name accessor declared =>
    (shown_fails name).bind fun _ => (shown_fails accessor).bind fun _ =>
      (declared_fails declared).bind fun _ => ret _

theorem shownAll_fails : ∀ vs : List Value, FailsInWriting (shownAll vs)
  | [] => ret _
  | v :: vs => (shown_fails v).bind fun _ => (shownAll_fails vs).bind fun _ => ret _

theorem shownEntries_fails : ∀ entries : List (Value × Value), FailsInWriting (shownEntries entries)
  | [] => ret _
  | (k, v) :: rest => (shown_fails k).bind fun _ => (shown_fails v).bind fun _ =>
      (shownEntries_fails rest).bind fun _ => ret _

theorem shownAttributes_fail : ∀ attributes : List (String × Value),
    ∀ a ∈ shownAttributes attributes, FailsInWriting a.2
  | [] => nofun
  | (_, v) :: rest => List.forall_mem_cons.mpr ⟨shown_fails v, shownAttributes_fail rest⟩

end

/-- Showing a value fails with a fault of writing only. -/
theorem shown_error {v : Value} {f : Fault} (h : v.shown = .error f) : f.IsOfWriting :=
  shown_fails v f h

theorem exists_intText_one : ∃ t, intText 1 = .ok t := by
  have hlimit : (1 : Int).natAbs < tenPower maxDigits := by
    have hten : ∀ n, 1 < tenPower (n + 1) := fun n => by
      have := tenPower_pos n
      rw [tenPower_succ]
      omega
    exact hten 4299
  exact ⟨_, if_pos hlimit⟩

/-- A fraction is written as its parts are, whichever of its texts is asked for. -/
theorem fraction_text_error_iff {num : Int} {den : Nat} {f : Fault} :
    (fraction num den).text = .error f ↔ (fraction num den).shown = .error f := by
  rw [text, shown]
  cases intText num with
  | error e => rw [error_then, error_then]
  | ok n =>
    rw [ok_then, ok_then]
    by_cases hden : den = 1
    · obtain ⟨t, ht⟩ := exists_intText_one
      have hone : intText ((1 : Nat) : Int) = .ok t := ht
      rw [if_pos hden, hden, hone]
      exact ⟨nofun, nofun⟩
    · rw [if_neg hden]
      cases intText den with
      | error e => rw [error_then, error_then]
      | ok d => exact ⟨nofun, nofun⟩

/-- A value has no text iff it cannot be shown, and for the same fault. -/
theorem text_error_iff {v : Value} {f : Fault} : v.text = .error f ↔ v.shown = .error f := by
  cases v with
  | str | decimal | date | datetime => exact ⟨nofun, nofun⟩
  | fraction num den => exact fraction_text_error_iff
  | _ => exact Iff.rfl

theorem text_error {v : Value} {f : Fault} (h : v.text = .error f) : f.IsOfWriting :=
  shown_error (text_error_iff.mp h)

/-- An object of a class of records that lacks the one field of the class. -/
def unwritten : Value :=
  .object 0 ⟨20, "Flag", "Flag", "models", .other, false, some ["on"], []⟩ []

end Value

end Rulebook

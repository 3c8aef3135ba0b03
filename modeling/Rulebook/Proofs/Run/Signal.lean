import Mathlib.Data.List.Basic
import Rulebook.Proofs.Action

/-!
# Asking a signal

What a signal answers, and what asking it leaves: the same store with one more question counted.

* `Store.answer`, `Store.polls`: what a signal answers now, and how often it has been asked.
* `Store.later`: the store after some more questions.
* `Action.poll_exec`: asking a signal gives and leaves just this.
-/

namespace Rulebook

variable {ω : Type}

namespace Store

/-- What a signal answers now. One that is not there is not set. -/
def answer (s : Store ω) (g : Nat) : Bool :=
  match s.signals[g]? with
  | some signal => signal.isSet || signal.answers signal.polls
  | none => false

/-- How often a signal has been asked. -/
def polls (s : Store ω) (g : Nat) : Nat :=
  match s.signals[g]? with
  | some signal => signal.polls
  | none => 0

/-- The store after some more questions to a signal. -/
def later (s : Store ω) (g d : Nat) : Store ω :=
  { s with
    signals := s.signals.modify g fun signal => { signal with polls := signal.polls + d } }

@[simp] theorem later_zero (s : Store ω) (g : Nat) : s.later g 0 = s := by
  have h : s.signals.modify g (fun signal => { signal with polls := signal.polls + 0 }) =
      s.signals := List.modify_id g s.signals
  rw [later, h]

theorem later_later (s : Store ω) (g d e : Nat) :
    (s.later g d).later g e = s.later g (d + e) := by
  simp [later, List.modify_modify_eq, Function.comp_def, Nat.add_assoc]

/-- Questions are counted by a signal that is there. -/
theorem polls_later {s : Store ω} {g : Nat} (h : g < s.signals.length) (d : Nat) :
    (s.later g d).polls g = s.polls g + d := by
  simp [polls, later, h]

end Store

namespace Action

theorem poll_exec (g : Nat) (s : Store ω) :
    (poll g).exec s = (.ok (s.answer g), s.later g 1) := by
  unfold poll
  rw [exec_bind_ok (exec_get s)]
  cases hg : s.signals[g]? with
  | none =>
    simp only [Store.answer, Store.later, hg, exec_pure]
    rw [List.modify_eq_self (List.getElem?_eq_none_iff.mp hg)]
  | some signal =>
    have h : s.signals.set g { signal with polls := signal.polls + 1 } =
        s.signals.modify g fun signal => { signal with polls := signal.polls + 1 } := by
      rw [List.modify_eq_set_getElem?, hg]
      rfl
    simp only [Store.answer, Store.later, hg]
    rw [h]
    rfl

end Action

end Rulebook

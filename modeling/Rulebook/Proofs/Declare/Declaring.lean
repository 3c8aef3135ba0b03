import Rulebook.Proofs.Declare.History
import Rulebook.Proofs.Run.Alike

/-!
# Calls that declare

What is called while rules run may itself declare: start chains on the validator, and call the
methods of any chain. Such a call does to the store what the events of a history do, and besides
can only change what declarations never look at: signals, the log, and what belongs to those who
call.

* `Store.aside`: the store with other signals, log and extra. Events do the same there
  (`History.play_aside`).
* `Store.Declared`: a store is left by the events of a history.
* `Host.Declares`: every call leaves what some events leave; so does everything that runs between
  two moments of a run (`Action.Declares`).
* `History.rulesOf_play`: events only add rules behind those of a validator.
-/

namespace Rulebook

variable {ω : Type}

/-- The store with another part that declarations never look at. -/
def Store.aside (s : Store ω) (signals : List Signal) (log : List LogRecord) (extra : ω) :
    Store ω :=
  { s with signals, log, extra }

theorem Store.aside_self (s : Store ω) : s.aside s.signals s.log s.extra = s := rfl

namespace History

open Rulebook.Action Chain

variable (v base : Nat)

theorem play_append (s : Store ω) (earlier later : List Event) :
    play v base s (earlier ++ later) = play v base (play v base s earlier) later := by
  induction earlier generalizing s with
  | nil => rfl
  | cons event earlier ih => exact ih _

/-! ## Events do not look aside -/

theorem plan_aside (s : Store ω) (g : List Signal) (l : List LogRecord) (x : ω) (chain : Chain)
    (d : Declaration) : plan (s.aside g l x) chain d = plan s chain d := by
  cases d with
  | isIn values => cases values <;> rfl
  | must predicate => cases predicate <;> rfl
  | _ => rfl

theorem planned_aside (s : Store ω) (g : List Signal) (l : List LogRecord) (x : ω)
    (d : Declaration) : planned (s.aside g l x) d = (planned s d).aside g l x := by
  cases d with
  | isIn values => cases values <;> rfl
  | _ => rfl

theorem apply_aside (s : Store ω) (g : List Signal) (l : List LogRecord) (x : ω) (c : Nat)
    (chain : Chain) (e : Effect) :
    e.apply c chain (s.aside g l x) = (e.apply c chain s).aside g l x := by
  cases e with
  | check added text =>
    simp only [Effect.apply]
    split <;> rfl
  | _ => rfl

theorem declare_aside (s : Store ω) (g : List Signal) (l : List LogRecord) (x : ω) (c : Nat)
    (d : Declaration) :
    (declare c d).exec (s.aside g l x) =
      (((declare c d).exec s).1, ((declare c d).exec s).2.aside g l x) := by
  have hchains : (s.aside g l x).chains[c]? = s.chains[c]? := rfl
  rw [declare_exec, declare_exec, hchains]
  cases s.chains[c]? with
  | none => rfl
  | some chain =>
    simp only [plan_aside, planned_aside]
    cases plan s chain d with
    | ok e => simp only [apply_aside]
    | error f => rfl

theorem run_aside (s : Store ω) (g : List Signal) (l : List LogRecord) (x : ω) (event : Event) :
    (event.run v base).exec (s.aside g l x) =
      (((event.run v base).exec s).1, ((event.run v base).exec s).2.aside g l x) := by
  cases event with
  | ruleFor selector =>
    have hmodel : (s.aside g l x).modelOf v = s.modelOf v := rfl
    rw [ruleFor_run, ruleFor_run, hmodel]
    cases Property.resolve selector (s.modelOf v) <;> rfl
  | call b method args =>
    simp only [Event.run, call_exec]
    cases Declaration.ofCall method args with
    | error f => rfl
    | ok d => exact declare_aside s g l x (base + b) d

theorem play_aside (s : Store ω) (g : List Signal) (l : List LogRecord) (x : ω)
    (events : List Event) :
    play v base (s.aside g l x) events = (play v base s events).aside g l x := by
  induction events generalizing s with
  | nil => rfl
  | cons event events ih =>
    simp only [play]
    rw [run_aside, ih]

/-! ## Rules are only added -/

variable {v base}

theorem rulesOf_addRule_prefix (s : Store ω) (w : Nat) (r : Rule) :
    s.rulesOf v <+: (s.addRule w r).rulesOf v := by
  simp only [Store.rulesOf, Store.addRule, Store.modifyValidator, List.getElem?_modify]
  cases s.validators[v]? with
  | none => exact List.prefix_rfl
  | some validator =>
    by_cases hw : w = v
    · simp [hw]
    · simp [hw]

theorem rulesOf_apply_prefix (s : Store ω) (c : Nat) (chain : Chain) (e : Effect) :
    s.rulesOf v <+: (e.apply c chain s).rulesOf v := by
  cases e with
  | check added text =>
    simp only [Effect.apply]
    split
    · exact List.prefix_rfl
    · exact rulesOf_addRule_prefix (s.modifyChain c fun ch => ch.extend added (.str text)) _ _
  | rule added text => exact rulesOf_addRule_prefix s _ _
  | _ => exact List.prefix_rfl

theorem rulesOf_run (s : Store ω) (event : Event) :
    s.rulesOf v <+: ((event.run v base).exec s).2.rulesOf v := by
  cases event with
  | ruleFor selector =>
    rw [ruleFor_run]
    cases Property.resolve selector (s.modelOf v) <;> exact List.prefix_rfl
  | call b method args =>
    rcases hrun : ((Event.call b method args).run v base).exec s with ⟨r, t⟩
    rcases call_cases hrun with ⟨chain, d, e, -, -, -, -, rfl⟩ | ⟨f, drained, -, rfl⟩
    · obtain ⟨drained, hplanned⟩ := planned_eq s d
      rw [hplanned]
      exact rulesOf_apply_prefix { s with drained := drained } _ chain e
    · exact List.prefix_rfl

/-- Events only add rules behind those of a validator. -/
theorem rulesOf_play (s : Store ω) (events : List Event) :
    s.rulesOf v <+: (play v base s events).rulesOf v := by
  induction events generalizing s with
  | nil => exact List.prefix_rfl
  | cons event events ih => exact (rulesOf_run s event).trans (ih _)

end History

/-! ## What declarations leave -/

/-- The second store is left by the events of a history that starts in the first one, up to what
declarations never look at. Chains have their numbers in the store. -/
def Store.Declared (v : Nat) (s : Store ω) (events : List History.Event) (t : Store ω) : Prop :=
  ∃ signals log extra, t = (History.play v 0 s events).aside signals log extra

namespace Store.Declared

variable {v : Nat} {s t u : Store ω} {es fs : List History.Event}

theorem refl (s : Store ω) : Store.Declared v s [] s := ⟨_, _, _, s.aside_self.symm⟩

theorem trans (h : Store.Declared v s es t) (h' : Store.Declared v t fs u) :
    Store.Declared v s (es ++ fs) u := by
  obtain ⟨g, l, x, rfl⟩ := h
  obtain ⟨g', l', x', rfl⟩ := h'
  refine ⟨g', l', x', ?_⟩
  rw [History.play_aside, History.play_append]
  rfl

/-- The chain has the checks that the history gives it. -/
theorem entriesOf (h : Store.Declared v s es t) (c : Nat) :
    t.entriesOf c = (History.play v 0 s es).entriesOf c := by
  obtain ⟨g, l, x, rfl⟩ := h
  rfl

theorem rulesOf (h : Store.Declared v s es t) (w : Nat) :
    t.rulesOf w = (History.play v 0 s es).rulesOf w := by
  obtain ⟨g, l, x, rfl⟩ := h
  rfl

/-- Asking a signal declares nothing. -/
theorem later (s : Store ω) (g d : Nat) : Store.Declared v s [] (s.later g d) :=
  ⟨(s.later g d).signals, s.log, s.extra, rfl⟩

end Store.Declared

/-- Whatever the action does to a store, some events do. -/
def Action.Declares {α : Type} (v : Nat) (a : Action ω α) : Prop :=
  ∀ s r t, a.exec s = (r, t) → ∃ events, Store.Declared v s events t

/-- Calls can declare on a validator and its chains, and do nothing else to a run. -/
structure Host.Declares (host : Host ω) (v : Nat) : Prop where
  body : ∀ place f args, Action.Declares v (host.body place f args)
  systemTime : Action.Declares v host.systemTime
  fresh : Action.Declares v host.fresh

/-- What is left by events from a store on is still left by events after a call. -/
theorem Host.Declares.keeps {host : Host ω} {v : Nat} (h : host.Declares v) (s : Store ω) :
    host.Keeps fun t => ∃ events, Store.Declared v s events t := by
  have keeps : ∀ {α : Type} {a : Action ω α}, Action.Declares v a →
      Action.Keeps (fun t => ∃ events, Store.Declared v s events t) a := by
    rintro α a ha t r u ⟨es, ht⟩ hf
    obtain ⟨fs, hu⟩ := ha t r u hf
    exact ⟨es ++ fs, ht.trans hu⟩
  exact ⟨fun place f args => keeps (h.body place f args), keeps h.systemTime, keeps h.fresh⟩

end Rulebook

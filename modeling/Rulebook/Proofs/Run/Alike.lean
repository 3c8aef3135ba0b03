import Rulebook.Proofs.Run.Loops
import Rulebook.Proofs.Run.Signal

/-!
# Runs that do alike

A run reads little of the store by itself: the chains, the settings and the class name of its
validator. So two runs do alike wherever these are the same and the calls they make do alike; the
proofs follow the definitions of the run, one lemma for each.

* `Host.Alike`: two hosts whose calls do alike at two places.
* `Run.DrivenAlike`: what has to be waited for is driven at such places.
* `Run.runRule_alike`, `Run.runAll_alike`: then rules and runs do alike. What calls keep, a rule
  keeps (`Run.runRule_keeps`).
* `Host.signalling`, `Store.sample`: a small host and a small store to look at.
-/

namespace Rulebook

variable {ω ω' : Type}

/-- Calls of the two hosts do alike at the two places. -/
structure Host.Alike (R : Store ω → Store ω' → Prop) (host : Host ω) (place : Place)
    (host' : Host ω') (place' : Place) : Prop where
  zone : host.zone = host'.zone
  body : ∀ f args, Action.Alike R (host.body place f args) (host'.body place' f args)
  systemTime : Action.Alike R host.systemTime host'.systemTime

/-- The two hosts do alike wherever they are. -/
structure Host.AlikeEverywhere (R : Store ω → Store ω' → Prop) (host : Host ω)
    (host' : Host ω') : Prop where
  place : ∀ place, Host.Alike R host place host' place
  fresh : Action.Alike R host.fresh host'.fresh

/-- Related stores show the same to a run. -/
structure Store.SameView (R : Store ω → Store ω' → Prop) : Prop where
  rulesOf : ∀ s t, R s t → ∀ v, s.rulesOf v = t.rulesOf v
  chains : ∀ s t, R s t → s.chains = t.chains
  settingsOf : ∀ s t, R s t → ∀ v, s.settingsOf v = t.settingsOf v
  classNameOf : ∀ s t, R s t → ∀ v, s.classNameOf v = t.classNameOf v

namespace Run

open Rulebook.Action

variable {R : Store ω → Store ω' → Prop} {host : Host ω} {host' : Host ω'} {l l' : Place}

theorem invoke_alike (h : Host.Alike R host l host' l') (f : Value) (args : List Value) :
    Alike R (invoke host l f args) (invoke host' l' f args) := by
  cases f with
  | callable c =>
    simp only [invoke]
    split
    · exact .ret _
    · exact h.body _ _
  | _ => exact h.body _ _

theorem await_alike (h : Host.Alike R host l host' l') (v : Value) :
    Alike R (await host l v) (await host' l' v) := by
  cases v with
  | pending c args => exact h.body _ _
  | _ => exact .ret _

theorem readProperty_alike (h : Host.Alike R host l host' l') (p : Property) (object : Value) :
    Alike R (readProperty host l p object) (readProperty host' l' p object) := by
  unfold readProperty
  cases p.accessor with
  | attribute_ name => exact .lift _
  | call f => exact invoke_alike h _ _

theorem now_alike (h : Host.Alike R host l host' l') (settings : Settings) :
    Alike R (now host l settings) (now host' l' settings) := by
  unfold now
  cases settings.clock with
  | system => exact h.systemTime
  | fixed v => exact .ret _
  | call f => exact invoke_alike h _ _

theorem passes_alike (hv : Store.SameView R) (h : Host.Alike R host l host' l')
    (validator : Nat) (check : Check) (v : Value) :
    Alike R (passes host l validator check v) (passes host' l' validator check v) := by
  have test : ∀ t : Int → Value → Value → Except Fault Bool, Alike R (do
      let settings := (← get).settingsOf validator
      let moment ← now host l settings
      t host.zone v moment : Action ω Bool) (do
      let settings := (← get).settingsOf validator
      let moment ← now host' l' settings
      t host'.zone v moment) := by
    intro t
    rw [h.zone]
    refine .look (f := fun settings => now host l settings >>= fun moment =>
        liftM (t host'.zone v moment)) (g := fun settings => now host' l' settings >>=
        fun moment => liftM (t host'.zone v moment))
      (fun s t hst => hv.settingsOf s t hst validator) fun settings => ?_
    exact (now_alike h settings).bind fun moment => .lift _
  unfold passes
  split
  · exact (invoke_alike h _ _).bind fun outcome => .ret _
  · split
    · exact .lift _
    · exact test _
    · exact .ret _

theorem failing_alike (hv : Store.SameView R) (h : Host.Alike R host l host' l')
    (validator : Nat) (v : Value) (es : List Entry) :
    Alike R (failing host l validator v es) (failing host' l' validator v es) := by
  induction es with
  | nil => exact .ret _
  | cons e es ih =>
    exact (passes_alike hv h validator e.check v).bind fun passed => ih.bind fun messages => .ret _

theorem batched_alike (hv : Store.SameView R) (h : Host.Alike R host l host' l') (p : Property)
    (chain : Nat) (object : Value) :
    Alike R (batched host l p chain object) (batched host' l' p chain object) := by
  refine (readProperty_alike h p object).bind fun v => ?_
  refine .look (f := fun q : Nat × List Entry => failing host l q.1 v q.2)
    (g := fun q : Nat × List Entry => failing host' l' q.1 v q.2)
    (p := fun s => ((s.chains[chain]?).elim 0 (·.validator), s.entriesOf chain))
    (q := fun s => ((s.chains[chain]?).elim 0 (·.validator), s.entriesOf chain)) ?_ ?_
  · intro s t hst
    simp only [Store.entriesOf, hv.chains s t hst]
  · exact fun q => failing_alike hv h _ _ _

theorem insideCoroutine_alike {α : Type} {a : Action ω α} {b : Action ω' α} (h : Alike R a b) :
    Alike R (insideCoroutine a) (insideCoroutine b) := by
  refine h.handle fun e => ?_
  split
  · exact .fail _
  · exact .fail _

/-- What does not end an iteration leaves something that is waited for as it is. -/
theorem insideCoroutine_exec {α : Type} {a : Action ω α} {s : Store ω}
    (h : ∀ text, (a.exec s).1 ≠ .error (.raised "StopIteration" text)) :
    (insideCoroutine a).exec s = a.exec s := by
  unfold insideCoroutine
  rw [exec_tryCatch]
  rcases ha : a.exec s with ⟨e | x, s'⟩
  · rw [ha] at h
    simp only
    split
    · exact absurd rfl (h _)
    · rfl
  · rfl

theorem insideCoroutine_ok {α : Type} {a : Action ω α} {s s' : Store ω} {x : α}
    (h : (insideCoroutine a).exec s = (.ok x, s')) : a.exec s = (.ok x, s') := by
  unfold insideCoroutine at h
  rw [exec_tryCatch] at h
  rcases ha : a.exec s with ⟨e | y, t⟩
  · rw [ha] at h
    simp only at h
    split at h <;> simp at h
  · rw [ha] at h
    exact h

theorem callStandalone_alike (h : Host.Alike R host l host' l') (p : Property)
    (check : StandaloneCheck) (object : Value) :
    Alike R (callStandalone host l p check object) (callStandalone host' l' p check object) := by
  cases check with
  | own f => exact (readProperty_alike h p object).bind fun v => invoke_alike h _ _
  | dependent other f =>
    exact (readProperty_alike h p object).bind fun v =>
      (readProperty_alike h other object).bind fun w => invoke_alike h _ _

theorem standalone_alike (h : Host.Alike R host l host' l') (p : Property)
    (check : StandaloneCheck) (message object : Value) :
    Alike R (standalone host l p check message object)
      (standalone host' l' p check message object) :=
  insideCoroutine_alike <| (callStandalone_alike h p check object).bind fun outcome =>
    (await_alike h outcome).bind fun _ => .ret _

/-! ## Places -/

/-- What has to be waited for does alike, in two modes and for two validators, if it does so where
the hosts do alike. -/
def DrivenAlike (R : Store ω → Store ω' → Prop) (host : Host ω) (mode : Mode) (validator : Nat)
    (host' : Host ω') (mode' : Mode) (validator' : Nat) : Prop :=
  ∀ (α : Type) (c : Place → Action ω α) (c' : Place → Action ω' α),
    (∀ i i', Host.Alike R host i host' i' → Alike R (c i) (c' i')) →
      Alike R (drivenAt host mode validator >>= c) (drivenAt host' mode' validator' >>= c')

theorem drivenAt_alike (hv : Store.SameView R) (h : Host.AlikeEverywhere R host host')
    (mode : Mode) (validator : Nat) :
    Alike R (drivenAt host mode validator) (drivenAt host' mode validator) := by
  have loop : ∀ place, Alike R (startLoop host place) (startLoop host' place) :=
    fun place => h.fresh.bind fun _ => h.fresh.bind fun _ => .ret _
  have thread : Alike R (startThread host) (startThread host') :=
    h.fresh.bind fun _ => h.fresh.bind fun _ => .ret _
  cases mode with
  | awaited place => exact .ret _
  | blocking place =>
    simp only [drivenAt, resolveBlocking]
    split
    · exact (loop place).bind fun inside => .ret _
    · refine .look (f := fun q : Settings × String =>
          if !q.1.allowBlocking.truthy then throw (.blockingForbidden q.2)
          else startThread host >>= fun thread => startLoop host thread >>= pure)
        (g := fun q : Settings × String =>
          if !q.1.allowBlocking.truthy then throw (.blockingForbidden q.2)
          else startThread host' >>= fun thread => startLoop host' thread >>= pure)
        (p := fun s => (s.settingsOf validator, s.classNameOf validator))
        (q := fun s => (s.settingsOf validator, s.classNameOf validator)) ?_ ?_
      · intro s t hst
        simp only [hv.settingsOf s t hst, hv.classNameOf s t hst]
      · intro q
        split
        · exact .fail _
        · exact thread.bind fun place => (loop place).bind fun inside => .ret _

/-- Hosts that do alike wherever they are drive alike. -/
theorem drivenAlike (hv : Store.SameView R) (h : Host.AlikeEverywhere R host host') (mode : Mode)
    (validator : Nat) : DrivenAlike R host mode validator host' mode validator :=
  fun _ _ _ hc => (drivenAt_alike hv h mode validator).bind fun inside =>
    hc inside inside (h.place inside)

/-! ## Rules and runs -/

/-- Rules do alike in two modes, and for two validators, if calls do and what has to be waited for
is driven alike. -/
theorem runRule_alike {mode mode' : Mode} {validator validator' : Nat} (hv : Store.SameView R)
    (h : Host.Alike R host mode.place host' mode'.place)
    (hd : DrivenAlike R host mode validator host' mode' validator') (object : Value) (r : Rule) :
    Alike R (runRule host mode validator object r) (runRule host' mode' validator' object r) := by
  cases r with
  | batched p chain => exact batched_alike hv h p chain object
  | standalone p check message =>
    exact hd _ _ _ fun i i' hi => standalone_alike hi p check message object

theorem logCancelled_alike (hv : Store.SameView R)
    (hl : ∀ text, Alike R (Action.log .info text : Action ω Unit)
      (Action.log .info text : Action ω' Unit)) (validator done total : Nat) :
    Alike R (logCancelled validator done total : Action ω Unit)
      (logCancelled validator done total : Action ω' Unit) :=
  .look (f := fun name => Action.log .info (cancelledText name done total))
    (g := fun name => Action.log .info (cancelledText name done total))
    (fun s t hst => hv.classNameOf s t hst validator) fun _ => hl _

/-- Runs do alike if their rules do, and asking the signal and writing to the log does. -/
theorem runRules_alike {mode mode' : Mode} {validator : Nat} {object : Value}
    {signal : Option Nat} {total : Nat} (hv : Store.SameView R) (rs : List Rule)
    (hr : ∀ r ∈ rs, Alike R (runRule host mode validator object r)
      (runRule host' mode' validator object r))
    (hp : Alike R (isCancelled signal : Action ω Bool) (isCancelled signal : Action ω' Bool))
    (hl : ∀ text, Alike R (Action.log .info text : Action ω Unit)
      (Action.log .info text : Action ω' Unit)) (done : Nat) (report : Report) :
    Alike R (runRules host mode validator object signal total rs done report)
      (runRules host' mode' validator object signal total rs done report) := by
  induction rs generalizing done report with
  | nil => exact .ret _
  | cons r rs ih =>
    refine hp.bind fun stop => ?_
    cases stop with
    | true => exact (logCancelled_alike hv hl validator done total).bind fun _ => .ret _
    | false =>
      exact (hr r List.mem_cons_self).bind fun messages => (Alike.lift _).bind fun report =>
        ih (fun r hrs => hr r (List.mem_cons_of_mem _ hrs)) _ _

end Run

/-! ## What a run keeps -/

/-- The property of a store still holds after every call, and after every loop, thread or context
that is made. -/
structure Host.Keeps (host : Host ω) (I : Store ω → Prop) : Prop where
  body : ∀ place f args, Action.Keeps I (host.body place f args)
  systemTime : Action.Keeps I host.systemTime
  fresh : Action.Keeps I host.fresh

/-- The property of a store holds all through a run: calls keep it, and so do questions to
signals and records of the log. -/
structure Host.Invariant (host : Host ω) (I : Store ω → Prop) : Prop extends host.Keeps I where
  asked : ∀ s g, I s → I (s.later g 1)
  write : ∀ s level text, I s → I (s.write level text)

theorem Host.Keeps.alike {host : Host ω} {I : Store ω → Prop} (h : host.Keeps I) (place : Place) :
    Host.Alike (fun s t => s = t ∧ I s) host place host place :=
  ⟨rfl, fun f args => Action.keeps_iff_alike.mp (h.body place f args),
    Action.keeps_iff_alike.mp h.systemTime⟩

theorem Host.Keeps.everywhere {host : Host ω} {I : Store ω → Prop} (h : host.Keeps I) :
    Host.AlikeEverywhere (fun s t => s = t ∧ I s) host host :=
  ⟨h.alike, Action.keeps_iff_alike.mp h.fresh⟩

/-- A store shows the same as itself. -/
theorem Store.sameView_eq (I : Store ω → Prop) : Store.SameView fun s t => s = t ∧ I s := by
  refine ⟨?_, ?_, ?_, ?_⟩ <;> rintro s _ ⟨rfl, -⟩ <;> intros <;> rfl

namespace Run

variable {host : Host ω} {I : Store ω → Prop}

theorem runRule_keeps (h : host.Keeps I) (mode : Mode) (validator : Nat) (object : Value)
    (r : Rule) : Action.Keeps I (runRule host mode validator object r) :=
  Action.keeps_iff_alike.mpr <| runRule_alike (Store.sameView_eq I) (h.alike _)
    (drivenAlike (Store.sameView_eq I) h.everywhere mode validator) object r

theorem isCancelled_keeps (h : host.Invariant I) (signal : Option Nat) :
    Action.Keeps I (isCancelled signal) := by
  intro s r s' hs hr
  cases signal with
  | none =>
    obtain ⟨-, rfl⟩ := Prod.mk.inj hr
    exact hs
  | some g =>
    rw [isCancelled, Action.poll_exec] at hr
    obtain ⟨-, rfl⟩ := Prod.mk.inj hr
    exact h.asked s g hs

theorem log_keeps (h : host.Invariant I) (level : LogLevel) (text : String) :
    Action.Keeps I (Action.log level text) := by
  intro s r s' hs hr
  obtain ⟨-, rfl⟩ := Prod.mk.inj hr
  exact h.write s level text hs

end Run

/-! ## A small validator -/

/-- A place without a loop. -/
def Place.outside : Place := ⟨none, 0, 0⟩

/-- A place at which a loop is running. -/
def Place.inside : Place := ⟨some 0, 0, 0⟩

/-- The store in which a signal has been set. -/
def Store.signalled (s : Store ω) (g : Nat) : Store ω :=
  { s with signals := s.signals.modify g fun signal => { signal with isSet := true } }

theorem Store.signalled_later (s : Store ω) (g d : Nat) :
    (s.later g d).signalled g = (s.signalled g).later g d := by
  simp [Store.later, Store.signalled, List.modify_modify_eq, Function.comp_def]

/-- A host in which every call sets a signal and then gives the same. -/
def Host.signalling (g : Nat) (v : Value) : Host ω where
  zone := 0
  body _ _ _ := do
    modify fun s => s.signalled g
    pure v
  systemTime := pure v
  fresh := pure 0

theorem Host.signalling_keeps {g : Nat} {I : Store ω → Prop} (h : ∀ s, I s → I (s.signalled g))
    (v : Value) : (Host.signalling g v).Keeps I := by
  refine ⟨fun _ _ _ s r s' hs hc => ?_, Action.keeps_iff_alike.mpr (.ret v),
    Action.keeps_iff_alike.mpr (.ret 0)⟩
  obtain ⟨-, rfl⟩ := Prod.mk.inj hc
  exact h s hs

/-- A property that is read from the attribute of its name. -/
def Property.named (name : String) : Property := ⟨.str name, .attribute_ name, .any⟩

/-- A store with a validator of two rules on a name: one of a chain, which calls `0` between two
other checks, and one that waits for `1`. There are two signals. -/
def Store.sample : Store Unit where
  validators := [⟨"Sample", none, 0, [.batched (.named "name") 0,
    .standalone (.named "name") (.own (.callable ⟨1, "waits", none, some "coroutine"⟩)) (.str "late")]⟩]
  chains := [⟨0, .named "name", [⟨.notNull, .str "missing"⟩,
    ⟨.must (.callable ⟨0, "asks", none, none⟩), .str "wrong"⟩, ⟨.notEmpty, .str "empty"⟩], true⟩]
  settings := [.default]
  signals := [⟨fun _ => false, false, 0⟩, ⟨fun _ => false, false, 0⟩]
  log := []
  drained := []
  extra := ()

/-- An object that has no name. -/
def Value.nameless : Value := .dict [(.str "name", .none)]

end Rulebook

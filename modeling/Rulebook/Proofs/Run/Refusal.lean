import Rulebook.Proofs.Run.Cancellation
import Rulebook.Proofs.Run.Modes
import Rulebook.Proofs.Run.Reentry

/-!
# Runs that refuse to block a loop

Inside a running loop, a rule that may have to be waited for blocks the loop. Where the settings
forbid this, a run refuses such a rule when it reaches it, and nothing of the rule has happened by
then: its property has not been read and its check has not been called. The rules before it have
been run, each once and in order. A fault of one of them, or an answer of the signal that stops
the run, comes first.

* `Run.Reached`: a run has gone through its first rules.
* `Run.reached_or`: it goes through them all, is stopped, or one of them faults.
* `Run.validate_refuses`: how a validation inside a loop ends that may not block it.
-/

namespace Rulebook

variable {ω : Type}

/-- The small store with settings that forbid to block a running loop, and a second validator, which
has only the first rule of the first one. -/
def Store.forbidding : Store Unit :=
  { Store.sample with
    settings := [⟨.system, .str defaultTemplate, .bool false⟩]
    validators := Store.sample.validators ++
      [⟨"Immediate", none, 0, [.batched (.named "name") 0]⟩] }

/-- A host in which every call tells whether a loop is running where it runs. -/
def Host.noticing : Host ω where
  zone := 0
  body place _ _ := pure (.bool place.hasLoop)
  systemTime := pure .none
  fresh := pure 0

/-- Where the property holds, calls do the same at the two places. -/
def Host.SameAt (host : Host ω) (I : Store ω → Prop) (place place' : Place) : Prop :=
  ∀ s, I s → ∀ f args, (host.body place f args).exec s = (host.body place' f args).exec s

namespace Run

open Rulebook.Action

variable {host : Host ω} {mode : Mode} {validator : Nat} {object : Value} {signal : Option Nat}
  {s t u : Store ω} {r : Rule} {done rest : List Rule} {report : Report}

/-- A run that starts in a store has gone through these rules: the signal let it go on before each
of them, and each was run once and gave its messages to the report. -/
inductive Reached (host : Host ω) (mode : Mode) (validator : Nat) (object : Value)
    (signal : Option Nat) (s : Store ω) : List Rule → Store ω → Report → Prop where
  | start : Reached host mode validator object signal s [] s .empty
  | next {done : List Rule} {t u : Store ω} {r : Rule} {messages : List Value}
      {report report' : Report} :
    Reached host mode validator object signal s done t report → t.stops signal = false →
    (runRule host mode validator object r).exec (t.asked signal) = (.ok messages, u) →
    collect report r.property.name messages = .ok report' →
    Reached host mode validator object signal s (done ++ [r]) u report'

/-- A rule faults, or its messages cannot be added to the report. -/
def Faults (host : Host ω) (mode : Mode) (validator : Nat) (object : Value) (report : Report)
    (r : Rule) (s : Store ω) (f : Fault) (u : Store ω) : Prop :=
  (runRule host mode validator object r).exec s = (.error f, u) ∨
    ∃ messages, (runRule host mode validator object r).exec s = (.ok messages, u) ∧
      collect report r.property.name messages = .error f

/-- A run goes through some of these rules, and the next one faults. -/
def FaultsWithin (host : Host ω) (mode : Mode) (validator : Nat) (object : Value)
    (signal : Option Nat) (s : Store ω) (rules : List Rule) (f : Fault) (u : Store ω) : Prop :=
  ∃ done r rest t report, rules = done ++ r :: rest ∧
    Reached host mode validator object signal s done t report ∧ t.stops signal = false ∧
    Faults host mode validator object report r (t.asked signal) f u

/-- A run goes through the first of these rules, and the signal stops it before the next one. -/
def StopsWithin (host : Host ω) (mode : Mode) (validator : Nat) (object : Value)
    (signal : Option Nat) (s : Store ω) (rules done : List Rule) (t : Store ω)
    (report : Report) : Prop :=
  done <+: rules ∧ Reached host mode validator object signal s done t report ∧
    t.stops signal = true

/-- A run goes through these rules, and the signal lets it go on. -/
def GoesOn (host : Host ω) (mode : Mode) (validator : Nat) (object : Value)
    (signal : Option Nat) (s : Store ω) (rules : List Rule) (t : Store ω)
    (report : Report) : Prop :=
  Reached host mode validator object signal s rules t report ∧ t.stops signal = false

/-! ## The rest of a run -/

theorem runRules_asks (total : Nat) (r : Rule) (rest : List Rule) (done : Nat) (report : Report)
    (hgo : s.stops signal = false) :
    (runRules host mode validator object signal total (r :: rest) done report).exec s =
      (runOn host mode validator object signal total r rest done report).exec
        (s.asked signal) := by
  rw [runRules, exec_bind_ok (isCancelled_exec signal s), hgo]
  rfl

theorem runRules_stops (total : Nat) (r : Rule) (rest : List Rule) (done : Nat) (report : Report)
    (hstop : s.stops signal = true) :
    (runRules host mode validator object signal total (r :: rest) done report).exec s =
      (.ok report, (s.asked signal).write .info
        (cancelledText ((s.asked signal).classNameOf validator) done total)) := by
  rw [runRules, exec_bind_ok (isCancelled_exec signal s), hstop]
  rfl

/-- What comes after the rules that a run has gone through is a run of the others. -/
theorem Reached.runRules (h : Reached host mode validator object signal s done t report)
    (total : Nat) (rest : List Rule) :
    (runRules host mode validator object signal total (done ++ rest) 0 .empty).exec s =
      (runRules host mode validator object signal total rest done.length report).exec t := by
  induction h generalizing rest with
  | start => rfl
  | @next done t u r messages report report' _ hgo hrun hcollect ih =>
    rw [List.append_assoc, ih, List.singleton_append, runRules_asks _ _ _ _ _ hgo,
      runOn_ok hrun hcollect, List.length_append, List.length_singleton]

/-- What calls, questions to signals and records of the log keep holds wherever a run gets. -/
theorem Reached.keeps {I : Store ω → Prop} (hI : host.Invariant I) (hs : I s)
    (h : Reached host mode validator object signal s done t report) : I t := by
  induction h with
  | start => exact hs
  | @next done t u r messages report report' _ _ hrun _ ih =>
    have hasked : I (t.asked signal) :=
      isCancelled_keeps hI signal t _ _ ih (isCancelled_exec signal t)
    exact runRule_keeps hI.toKeeps mode validator object r _ _ _ hasked hrun

/-- A run goes through all of these rules, or is stopped before one of them, or one of them
faults. -/
theorem reached_or (host : Host ω) (mode : Mode) (validator : Nat) (object : Value)
    (signal : Option Nat) (s : Store ω) (rules : List Rule) :
    (∃ f u, FaultsWithin host mode validator object signal s rules f u) ∨
      (∃ done t report, StopsWithin host mode validator object signal s rules done t report) ∨
      ∃ t report, GoesOn host mode validator object signal s rules t report := by
  induction rules using List.reverseRecOn with
  | nil =>
    by_cases hstop : s.stops signal = true
    · exact .inr (.inl ⟨[], s, .empty, List.prefix_refl _, .start, hstop⟩)
    · exact .inr (.inr ⟨s, .empty, .start, by simpa using hstop⟩)
  | append_singleton rules r ih =>
    rcases ih with ⟨f, u, done, r', rest, t, report, rfl, hreached, hgo, hfaults⟩ |
      ⟨done, t, report, hdone, hreached, hstop⟩ | ⟨t, report, hreached, hgo⟩
    · exact .inl ⟨f, u, done, r', rest ++ [r], t, report, by simp, hreached, hgo, hfaults⟩
    · have hlonger : done <+: rules ++ [r] := hdone.trans (List.prefix_append rules [r])
      exact .inr (.inl ⟨done, t, report, hlonger, hreached, hstop⟩)
    · -- The rule at the end is run: it faults, or the signal is asked behind it.
      rcases hrun : (runRule host mode validator object r).exec (t.asked signal) with
        ⟨f | messages, u⟩
      · exact .inl ⟨f, u, rules, r, [], t, report, rfl, hreached, hgo, .inl hrun⟩
      cases hcollect : collect report r.property.name messages with
      | error f =>
        exact .inl ⟨f, u, rules, r, [], t, report, rfl, hreached, hgo,
          .inr ⟨messages, hrun, hcollect⟩⟩
      | ok report' =>
        have hnext := hreached.next hgo hrun hcollect
        by_cases hstop : u.stops signal = true
        · exact .inr (.inl ⟨rules ++ [r], u, report', List.prefix_refl _, hnext, hstop⟩)
        · exact .inr (.inr ⟨u, report', hnext, by simpa using hstop⟩)

/-! ## Validations inside a loop -/

theorem validate_exec (host : Host ω) (place : Place) (validator : Nat) (object : Value)
    (signal : Option Nat) (s : Store ω) :
    (validate host place validator object signal).exec s =
      (runRules host (.blocking place) validator object signal (s.rulesOf validator).length
        (s.rulesOf validator) 0 .empty).exec s := by
  rw [validate_eq, runAll, exec_bind_ok (exec_get s)]

/-- Where blocking is forbidden, nothing is driven in a running loop. -/
theorem resolveBlocking_forbidden {α : Type} (h : ¬ s.AllowsBlocking validator) (host : Host ω)
    {place : Place} (hloop : place.hasLoop = true) (coroutine : Place → Action ω α) :
    (resolveBlocking host place validator coroutine).exec s =
      (.error (.blockingForbidden (s.classNameOf validator)), s) := by
  have hfalse : (s.settingsOf validator).allowBlocking.truthy = false := by
    simpa [Store.AllowsBlocking] using h
  rw [resolveBlocking, if_neg (by simp [hloop]), exec_bind_ok (exec_get s), hfalse]
  rfl

/-- A rule that may have to be waited for is refused before anything of it happens. -/
theorem runRule_forbidden (h : ¬ s.AllowsBlocking validator) (host : Host ω) {place : Place}
    (hloop : place.hasLoop = true) (object : Value) (p : Property) (check : StandaloneCheck)
    (message : Value) :
    (runRule host (.blocking place) validator object (.standalone p check message)).exec s =
      (.error (.blockingForbidden (s.classNameOf validator)), s) :=
  exec_bind_error (resolveBlocking_forbidden h host hloop pure)

/-- A fault of a rule that a run reaches is that of the run. -/
theorem FaultsWithin.runRules {rules : List Rule} {f : Fault}
    (h : FaultsWithin host mode validator object signal s rules f u) (total : Nat)
    (after : List Rule) :
    (runRules host mode validator object signal total (rules ++ after) 0 .empty).exec s =
      (.error f, u) := by
  obtain ⟨done, r, rest, t, report, rfl, hreached, hgo, hfaults⟩ := h
  rw [List.append_assoc, hreached.runRules, List.cons_append, runRules_asks _ _ _ _ _ hgo, runOn]
  rcases hfaults with hrun | ⟨messages, hrun, hcollect⟩
  · exact exec_bind_error hrun
  · rw [exec_bind_ok hrun]
    exact exec_bind_error (by rw [exec_lift, hcollect])

/-- A run that is stopped before a rule gives what the rules before it have reported. -/
theorem StopsWithin.runRules {rules : List Rule}
    (h : StopsWithin host mode validator object signal s rules done t report) (total : Nat)
    (r : Rule) (after : List Rule) :
    (runRules host mode validator object signal total (rules ++ r :: after) 0 .empty).exec s =
      (.ok report, (t.asked signal).write .info
        (cancelledText ((t.asked signal).classNameOf validator) done.length total)) := by
  obtain ⟨⟨rest, rfl⟩, hreached, hstop⟩ := h
  rw [List.append_assoc, hreached.runRules]
  cases rest with
  | nil => exact runRules_stops total r after done.length report hstop
  | cons r' rest => exact runRules_stops total r' (rest ++ r :: after) done.length report hstop

/-- Rules that need no waiting do the same at two places, if calls do. -/
theorem runRule_immediate {I : Store ω → Prop} (hI : host.Invariant I) {place place' : Place}
    (hl : host.SameAt I place place') (hr : r.suspending = false) :
    Alike (fun s t => s = t ∧ I s) (runRule host (.blocking place) validator object r)
      (runRule host (.blocking place') validator object r) := by
  cases r with
  | batched p c =>
    have h := hI.alike place
    refine batched_alike (Store.sameView_eq I) ⟨rfl, fun f args => ?_, h.systemTime⟩ p c
      object
    rintro s _ ⟨rfl, hs⟩
    obtain ⟨r, s', t', ha, -, rfl, hs'⟩ := h.body f args s s ⟨rfl, hs⟩
    exact ⟨r, s', s', ha, (hl s hs f args).symm.trans ha, rfl, hs'⟩
  | standalone p check message => cases hr

theorem validate_immediate {I : Store ω → Prop} (hI : host.Invariant I) {place place' : Place}
    (hl : host.SameAt I place place') (hs : I s)
    (himmediate : ∀ r ∈ s.rulesOf validator, r.suspending = false) (object : Value)
    (signal : Option Nat) :
    (validate host place validator object signal).exec s =
      (validate host place' validator object signal).exec s := by
  have hrules : ∀ r ∈ s.rulesOf validator, Alike (fun s t => s = t ∧ I s)
      (runRule host (.blocking place) validator object r)
      (runRule host (.blocking place') validator object r) := by
    intro r hr
    exact runRule_immediate hI hl (himmediate r hr)
  have hsignal : Alike (fun s t => s = t ∧ I s) (isCancelled signal) (isCancelled signal) :=
    keeps_iff_alike.mp (isCancelled_keeps hI signal)
  have hlog : ∀ text, Alike (fun s t => s = t ∧ I s) (Action.log .info text)
      (Action.log .info text) := by
    intro text
    exact keeps_iff_alike.mp (log_keeps hI .info text)
  have hrun : Alike (fun s t => s = t ∧ I s)
      (runRules host (.blocking place) validator object signal (s.rulesOf validator).length
        (s.rulesOf validator) 0 .empty)
      (runRules host (.blocking place') validator object signal (s.rulesOf validator).length
        (s.rulesOf validator) 0 .empty) :=
    runRules_alike (Store.sameView_eq I) (s.rulesOf validator) hrules hsignal hlog 0 .empty
  rw [validate_exec, validate_exec]
  exact hrun.exec_eq hs

/-- Inside a running loop that may not be blocked, a validation ends at the first rule that may
have to be waited for, if not before. A fault of a rule before it is raised. Where the signal stops
the run before one of these rules or before it, what the rules so far have reported is given.
Otherwise it is refused, and the store is left as the rules before it and the last question to the
signal have made it, so nothing of it or of the rules behind it has happened. One of these is the
case. Without such a rule, and if calls do the same at a place outside, the validation is the same
there. -/
theorem validate_refuses {I : Store ω → Prop} (hI : host.Invariant I)
    (hforbids : ∀ s, I s → ¬ s.AllowsBlocking validator) (hs : I s) {inside : Place}
    (hloop : inside.hasLoop = true) (object : Value) (signal : Option Nat) :
    (∀ front p check message rest,
      s.rulesOf validator = front ++ .standalone p check message :: rest →
      (∀ r ∈ front, r.suspending = false) →
        (∀ f u, FaultsWithin host (.blocking inside) validator object signal s front f u →
          (validate host inside validator object signal).exec s = (.error f, u)) ∧
        (∀ done t report,
          StopsWithin host (.blocking inside) validator object signal s front done t report →
          (validate host inside validator object signal).exec s =
            (.ok report, (t.asked signal).write .info
              (cancelledText ((t.asked signal).classNameOf validator) done.length
                (s.rulesOf validator).length))) ∧
        (∀ t report, GoesOn host (.blocking inside) validator object signal s front t report →
          ∃ f, (validate host inside validator object signal).exec s =
              (.error f, t.asked signal) ∧
            f = .blockingForbidden ((t.asked signal).classNameOf validator) ∧
            f.kind = "OperationError") ∧
        ((∃ f u, FaultsWithin host (.blocking inside) validator object signal s front f u) ∨
          (∃ done t report,
            StopsWithin host (.blocking inside) validator object signal s front done t report) ∨
          ∃ t report, GoesOn host (.blocking inside) validator object signal s front t report)) ∧
      ((∀ r ∈ s.rulesOf validator, r.suspending = false) →
        ∀ outside : Place, host.SameAt I inside outside →
          (validate host inside validator object signal).exec s =
            (validate host outside validator object signal).exec s) := by
  constructor
  · intro front p check message rest hrules hfront
    rw [validate_exec, hrules]
    refine ⟨?_, ?_, ?_, reached_or host (.blocking inside) validator object signal s front⟩
    · intro f u hfaults
      exact hfaults.runRules _ _
    · intro done t report hstops
      exact hstops.runRules _ _ _
    · rintro t report ⟨hreached, hgo⟩
      have hasked : I (t.asked signal) :=
        isCancelled_keeps hI signal t _ _ (hreached.keeps hI hs) (isCancelled_exec signal t)
      have hrefused := runRule_forbidden (hforbids (t.asked signal) hasked) host hloop object p
        check message
      refine ⟨_, ?_, rfl, rfl⟩
      rw [hreached.runRules, runRules_asks _ _ _ _ _ hgo]
      exact exec_bind_error hrefused
  · intro himmediate outside hl
    exact validate_immediate hI hl hs himmediate object signal

theorem validate_refuses_sample :
    (∃ t, (validate (.signalling 0 (.bool false)) .inside 0 .nameless (some 1)).exec .forbidding =
        (.error (.blockingForbidden "Sample"), t) ∧ t.polls 1 = 2) ∧
      (∃ t, (validate (.signalling 0 (.bool false)) .inside 0 .nameless (some 0)).exec .forbidding =
        (.ok ⟨[(.str "name", [.str "missing", .str "wrong", .str "empty"])]⟩, t)) ∧
      (validate (.signalling 0 (.bool false)) .inside 1 .nameless none).exec .forbidding =
        (validate (.signalling 0 (.bool false)) .outside 1 .nameless none).exec .forbidding := by
  have hI : (Host.signalling 0 (.bool false)).Invariant
      fun s : Store Unit => ¬ s.AllowsBlocking 0 ∧ ¬ s.AllowsBlocking 1 :=
    ⟨Host.signalling_keeps (fun _ hs => hs) _, fun _ _ hs => hs, fun _ _ _ hs => hs⟩
  have hs : ¬ Store.forbidding.AllowsBlocking 0 ∧ ¬ Store.forbidding.AllowsBlocking 1 := by
    constructor <;> exact Bool.false_ne_true
  have hloop : Place.inside.hasLoop = true := rfl
  have himmediate : ∀ r ∈ [Rule.batched (.named "name") 0], r.suspending = false := by
    simp [Rule.suspending]
  -- The first rule runs after one question to the signal, and reports all its messages.
  have hreached : ∀ signal, Store.forbidding.stops signal = false →
      Reached (.signalling 0 (.bool false)) (.blocking .inside) 0 .nameless signal .forbidding
        [.batched (.named "name") 0] ((Store.forbidding.asked signal).signalled 0)
        ⟨[(.str "name", [.str "missing", .str "wrong", .str "empty"])]⟩ := by
    intro signal hgo
    have hrun : (runRule (.signalling 0 (.bool false)) (.blocking .inside) 0 .nameless
        (.batched (.named "name") 0)).exec (Store.forbidding.asked signal) =
          (.ok [.str "missing", .str "wrong", .str "empty"],
            (Store.forbidding.asked signal).signalled 0) := by
      cases signal <;> rfl
    exact Reached.start.next hgo hrun rfl
  have hother := (validate_refuses hI (fun _ hs => hs.1) hs hloop .nameless (some 1)).1
    [.batched (.named "name") 0] _ _ _ [] rfl himmediate
  obtain ⟨_, hrefused, rfl, -⟩ := hother.2.2.1 _ _ ⟨hreached (some 1) rfl, rfl⟩
  have hown := (validate_refuses hI (fun _ hs => hs.1) hs hloop .nameless (some 0)).1
    [.batched (.named "name") 0] _ _ _ [] rfl himmediate
  have hstopped := hown.2.1 _ _ _ ⟨List.prefix_refl _, hreached (some 0) rfl, rfl⟩
  have hsame := (validate_refuses hI (fun _ hs => hs.2) hs hloop .nameless none).2 himmediate
    .outside fun _ _ _ _ => rfl
  exact ⟨⟨_, hrefused, rfl⟩, ⟨_, hstopped⟩, hsame⟩

/-- A call that tells whether a loop is running tells the two apart although no rule has to be
waited for. -/
theorem validate_notices_loop :
    (∀ r ∈ Store.forbidding.rulesOf 1, r.suspending = false) ∧
      ¬ Store.forbidding.AllowsBlocking 1 ∧
      ((validate .noticing .inside 1 .nameless none).exec .forbidding).1 =
        .ok ⟨[(.str "name", [.str "missing", .str "empty"])]⟩ ∧
      ((validate .noticing .outside 1 .nameless none).exec .forbidding).1 =
        .ok ⟨[(.str "name", [.str "missing", .str "wrong", .str "empty"])]⟩ := by
  refine ⟨?_, Bool.false_ne_true, rfl, rfl⟩
  have hrules : Store.forbidding.rulesOf 1 = [.batched (.named "name") 0] := rfl
  simp [hrules, Rule.suspending]

end Run

end Rulebook

import Rulebook.Proofs.Declare.Declaring
import Rulebook.Proofs.Run.Tasks

/-!
# Declaring while rules run

What a run calls may declare on the validator that is running. The run goes through the rules
that were there when it started, and through no others. A chain is asked what it holds right after
its property was read: all that was declared before counts, nothing that is declared later does.
What is declared comes behind, for the runs after this one.

* `Run.Visit`: what a run did with a rule. `Run.Row`: visits one after the other.
* `Run.runRules_row`: a run is a row of visits, up to the end, a signal that is set or a fault.
* `Run.GoesThrough`: what it means that a validation goes through rules.
* `Run.validate_while_declaring`: which rules a validation goes through and what it asks them.
-/

namespace Rulebook

variable {ω : Type}

/-! ## Asking a signal, if there is one -/

/-- Whether a run that asks its signal now is stopped. -/
def Store.stops (s : Store ω) (signal : Option Nat) : Bool := signal.elim false s.answer

/-- The store after a run has asked its signal. -/
def Store.asked (s : Store ω) (signal : Option Nat) : Store ω := signal.elim s (s.later · 1)

theorem Store.Declared.asked (v : Nat) (s : Store ω) (signal : Option Nat) :
    Store.Declared v s [] (s.asked signal) := by
  cases signal with
  | none => exact .refl s
  | some g => exact .later s g 1

namespace Run

open Rulebook.Action History

theorem isCancelled_exec (signal : Option Nat) (s : Store ω) :
    (isCancelled signal).exec s = (.ok (s.stops signal), s.asked signal) := by
  cases signal with
  | none => rfl
  | some g => exact poll_exec g s

/-! ## Visits -/

/-- What a run did with a rule. -/
structure Visit (ω : Type) where
  rule : Rule
  /-- The store in which the rule was reached. -/
  reached : Store ω
  /-- What was declared while the property of the rule was read. -/
  reading : List Event
  /-- The store in which the checks of the rule were asked. -/
  ready : Store ω
  /-- What the checks said. -/
  verdicts : List Verdict
  /-- What was declared while they were asked. -/
  asking : List Event
  left : Store ω

namespace Visit

/-- The checks that the rule stands for. Those of a chain are the ones that it holds once its
property has been read. -/
def checks (visit : Visit ω) : List Task :=
  match visit.rule with
  | .batched p c => (visit.ready.entriesOf c).map (.check p (visit.ready.ownerOf c))
  | .standalone p check message => [.standalone p check message]

/-- What was declared during a visit. -/
def declared (visit : Visit ω) : List Event := visit.reading ++ visit.asking

/-- The messages of the checks that were not passed. -/
def messages (visit : Visit ω) : List Value :=
  (visit.verdicts.filter (!·.passed)).map (·.message)

/-- A report with the messages of visits added, each under the name of its property. -/
def addAll (report : Report) (visits : List (Visit ω)) : Report :=
  visits.foldl (fun r visit => r.addAll visit.rule.property.name visit.messages) report

variable (host : Host ω) (mode : Mode) (validator : Nat) (object : Value)

/-- The rule was run: its property was read, and then each of its checks was asked once, about
what was read. -/
structure Happened (visit : Visit ω) : Prop where
  read : ∃ x, (match visit.rule with
      | .batched p _ => (readProperty host mode.place p object).exec visit.reached =
          (.ok x, visit.ready)
      | .standalone _ _ _ => visit.ready = visit.reached) ∧
    (performAll host mode validator object x visit.checks).exec visit.ready =
      (.ok (x, visit.verdicts), visit.left)
  /-- What the calls did to the store, the declarations do. -/
  before : Store.Declared validator visit.reached visit.reading visit.ready
  during : Store.Declared validator visit.ready visit.asking visit.left

end Visit

variable {host : Host ω} {mode : Mode} {validator : Nat} {object : Value} {s s' : Store ω}

/-! ### One rule -/

/-- A fault leaves something that is waited for as some fault. -/
theorem insideCoroutine_error {α : Type} {a : Action ω α} {f : Fault}
    (h : a.exec s = (.error f, s')) : ∃ f', (insideCoroutine a).exec s = (.error f', s') := by
  unfold insideCoroutine
  rw [exec_tryCatch, h]
  simp only
  split <;> exact ⟨_, rfl⟩

theorem visit_batched (hd : host.Declares validator) {p : Property} {c : Nat}
    {messages : List Value}
    (h : (runRule host mode validator object (.batched p c)).exec s = (.ok messages, s')) :
    ∃ visit : Visit ω, visit.rule = .batched p c ∧ visit.reached = s ∧ visit.left = s' ∧
      visit.messages = messages ∧ visit.Happened host mode validator object := by
  obtain ⟨x, t, vs, hread, hfailing, hall, hmessages⟩ := batched_ok h
  obtain ⟨reading, hreading⟩ := keeps_iff_alike.mpr
    (readProperty_alike ((hd.keeps s).alike mode.place) p object) s _ t ⟨[], .refl s⟩ hread
  obtain ⟨asking, hasking⟩ := keeps_iff_alike.mpr (failing_alike (Store.sameView_eq _)
    ((hd.keeps t).alike mode.place) (t.ownerOf c) x (t.entriesOf c)) t _ s' ⟨[], .refl t⟩
      hfailing
  refine ⟨⟨.batched p c, s, reading, t, vs, asking, s'⟩, rfl, rfl, rfl, ?_,
    ⟨x, hread, hall⟩, hreading, hasking⟩
  have hsnd := congrArg (List.map Prod.snd) hmessages.symm
  simpa [failures, Visit.messages, Function.comp_def] using hsnd

theorem visit_standalone (hd : host.Declares validator) {p : Property} {check : StandaloneCheck}
    {message : Value} {messages : List Value}
    (h : (runRule host mode validator object (.standalone p check message)).exec s =
      (.ok messages, s')) :
    ∃ visit : Visit ω, visit.rule = .standalone p check message ∧ visit.reached = s ∧
      visit.left = s' ∧ visit.messages = messages ∧
        visit.Happened host mode validator object := by
  obtain ⟨asking, hasking⟩ := runRule_keeps (hd.keeps s) mode validator object
    (.standalone p check message) s _ s' ⟨[], .refl s⟩ h
  obtain ⟨inside, s₁, hdriven, h⟩ := bind_ok h
  obtain ⟨outcome, s₂, hcall, h⟩ := bind_ok (insideCoroutine_ok h)
  obtain ⟨outcome', s₃, hawait, h⟩ := bind_ok h
  obtain ⟨hmessages, rfl⟩ := Prod.mk.inj h
  refine ⟨⟨.standalone p check message, s, [], s, [⟨p.key, message, outcome'.truthy⟩], asking,
    s₃⟩, rfl, rfl, rfl, ?_, ⟨.none, rfl, ?_⟩, .refl s, hasking⟩
  · rw [← Except.ok.inj hmessages]
    cases outcome'.truthy <;> simp [Visit.messages]
  · simp only [Visit.checks, performAll, perform, bind_assoc, pure_bind]
    rw [exec_bind_ok hdriven, exec_bind_ok hcall, exec_bind_ok hawait]
    rfl

/-- A rule that does not fault is visited. -/
theorem visit_of_runRule (hd : host.Declares validator) {r : Rule} {messages : List Value}
    (h : (runRule host mode validator object r).exec s = (.ok messages, s')) :
    ∃ visit : Visit ω, visit.rule = r ∧ visit.reached = s ∧ visit.left = s' ∧
      visit.messages = messages ∧ visit.Happened host mode validator object := by
  cases r with
  | batched p c => exact visit_batched hd h
  | standalone p check message => exact visit_standalone hd h

/-! ### A run -/

variable (host mode validator object) in
/-- Visits one after the other, from the first store to the last one. The signal is asked before
each of them, and does not stop the run. -/
inductive Row (signal : Option Nat) : Store ω → List (Visit ω) → Store ω → Prop where
  | nil (s : Store ω) : Row signal s [] s
  | cons {s t : Store ω} {visit : Visit ω} {visits : List (Visit ω)}
      (go : s.stops signal = false) (reached : visit.reached = s.asked signal)
      (happened : visit.Happened host mode validator object)
      (rest : Row signal visit.left visits t) :
      Row signal s (visit :: visits) t

variable {signal : Option Nat} {visits : List (Visit ω)}

/-- What calls declare while a row of visits happens is all that it does to what is declared. -/
theorem Row.declared (h : Row host mode validator object signal s visits s') :
    Store.Declared validator s (visits.flatMap (·.declared)) s' := by
  induction h with
  | nil s => exact .refl s
  | @cons s _ visit _ _ reached happened _ ih =>
    have hasked := Store.Declared.asked validator s signal
    rw [← reached] at hasked
    exact ((hasked.trans happened.before).trans happened.during).trans ih

/-- When the checks of a rule are asked, all that has been declared before stands. -/
theorem Row.ready {earlier later : List (Visit ω)} {visit : Visit ω}
    (h : Row host mode validator object signal s (earlier ++ visit :: later) s') :
    Store.Declared validator s (earlier.flatMap (·.declared) ++ visit.reading) visit.ready := by
  induction earlier generalizing s with
  | nil =>
    obtain _ | ⟨-, reached, happened, -⟩ := h
    have hasked := Store.Declared.asked validator s signal
    rw [← reached] at hasked
    exact hasked.trans happened.before
  | cons first earlier ih =>
    obtain _ | ⟨-, reached, happened, rest⟩ := h
    have hasked := Store.Declared.asked validator s signal
    rw [← reached] at hasked
    rw [List.flatMap_cons, List.append_assoc]
    exact ((hasked.trans happened.before).trans happened.during).trans (ih rest)

theorem Row.happened (h : Row host mode validator object signal s visits s')
    {visit : Visit ω} (hv : visit ∈ visits) : visit.Happened host mode validator object := by
  induction h with
  | nil => cases hv
  | cons _ _ happened _ ih =>
    rcases List.mem_cons.mp hv with rfl | hv
    · exact happened
    · exact ih hv

theorem collect_ok {report report' : Report} {name : Value} {messages : List Value}
    (h : collect report name messages = .ok report') : report' = report.addAll name messages := by
  unfold collect at h
  split at h
  · rename_i hempty
    rw [List.isEmpty_iff.mp hempty]
    exact (Except.ok.inj h).symm
  · obtain ⟨_, -, h⟩ := ok_of_bind h
    exact (Except.ok.inj h).symm

/-- How a run ends that has visited all rules but the rest of them, in the given store: it reports
if none is left; otherwise its signal is set, or it faults. -/
def Ends (signal : Option Nat) (rest : List Rule) (report : Report) (t : Store ω)
    (outcome : Except Fault Report × Store ω) : Prop :=
  rest = [] ∧ outcome = (.ok report, t) ∨
    rest ≠ [] ∧ (t.stops signal = true ∨ ∃ f s', outcome = (.error f, s'))

variable (mode object) in
/-- A run goes through its rules from the first one on. It visits them all and reports what they
said, or its signal stops it, or it faults. -/
theorem runRules_row (hd : host.Declares validator) (signal : Option Nat) (rs : List Rule)
    (total done : Nat) (report : Report) (s : Store ω) :
    ∃ visits rest t, rs = visits.map (·.rule) ++ rest ∧
      Row host mode validator object signal s visits t ∧
      Ends signal rest (Visit.addAll report visits) t
        ((runRules host mode validator object signal total rs done report).exec s) := by
  induction rs generalizing done report s with
  | nil => exact ⟨[], [], s, rfl, .nil s, .inl ⟨rfl, rfl⟩⟩
  | cons r rs ih =>
    cases hstop : s.stops signal with
    | true => exact ⟨[], r :: rs, s, rfl, .nil s, .inr ⟨by simp, .inl hstop⟩⟩
    | false =>
      have step : (runRules host mode validator object signal total (r :: rs) done report).exec s =
          (do
            let messages ← runRule host mode validator object r
            let report ← collect report r.property.name messages
            runRules host mode validator object signal total rs (done + 1) report).exec
            (s.asked signal) := by
        rw [runRules, exec_bind_ok (isCancelled_exec signal s), hstop]
        rfl
      rw [step]
      rcases hrule : (runRule host mode validator object r).exec (s.asked signal)
        with ⟨f | messages, t⟩
      · exact ⟨[], r :: rs, s, rfl, .nil s, .inr ⟨by simp, .inr ⟨f, t, exec_bind_error hrule⟩⟩⟩
      · rw [exec_bind_ok hrule]
        cases hcollect : collect report r.property.name messages with
        | error f =>
          exact ⟨[], r :: rs, s, rfl, .nil s, .inr ⟨by simp, .inr ⟨f, t, rfl⟩⟩⟩
        | ok report₁ =>
          obtain ⟨visit, rfl, hreached, rfl, rfl, happened⟩ := visit_of_runRule hd hrule
          obtain rfl := collect_ok hcollect
          obtain ⟨visits, rest, u, rfl, hrow, hend⟩ := ih (done + 1)
            (report.addAll visit.rule.property.name visit.messages) visit.left
          exact ⟨visit :: visits, rest, u, rfl, .cons hstop hreached happened hrow, hend⟩

/-! ## Validations -/

variable (host mode validator object) in
/-- A validation that starts in the first store goes through these rules: it visits them in order
up to the second store, and then it ends. -/
def GoesThrough (signal : Option Nat) (s : Store ω) (rules : List Rule) (visits : List (Visit ω))
    (t : Store ω) : Prop :=
  ∃ rest, rules = visits.map (·.rule) ++ rest ∧
    Row host mode validator object signal s visits t ∧
    Ends signal rest (Visit.addAll .empty visits) t
      ((run host mode validator object signal).exec s)

variable (mode object) in
/-- A validation goes through the rules that the validator has when it starts. -/
theorem validate_goesThrough (hd : host.Declares validator) (signal : Option Nat) (s : Store ω) :
    ∃ visits t,
      GoesThrough host mode validator object signal s (s.rulesOf validator) visits t := by
  obtain ⟨visits, rest, t, hrules, hrow, hend⟩ := runRules_row mode object hd signal
    (s.rulesOf validator) (s.rulesOf validator).length 0 .empty s
  have hall : Ends signal rest (Visit.addAll .empty visits) t
      ((runAll host mode validator object signal).exec s) := by
    rw [runAll, exec_bind_ok (exec_get s)]
    exact hend
  refine ⟨visits, t, rest, hrules, hrow, ?_⟩
  cases mode with
  | blocking place =>
    rw [run, validate_eq]
    exact hall
  | awaited place =>
    rw [run, validateAsync_eq]
    rcases hall with ⟨hrest, hok⟩ | ⟨hrest, hstop | ⟨f, s', hfault⟩⟩
    · refine .inl ⟨hrest, ?_⟩
      exact (insideCoroutine_exec (by simp [hok])).trans hok
    · exact .inr ⟨hrest, .inl hstop⟩
    · obtain ⟨f', hleft⟩ := insideCoroutine_error hfault
      exact .inr ⟨hrest, .inr ⟨f', s', hleft⟩⟩

/-- Whatever is declared on a validator while it runs: the run goes through the rules that it had
at the start, in order, and no others. Each chain is asked exactly the checks, with the messages,
that it has by all that was declared before its property had been read; nothing that is declared
while it is asked, or later, changes what it reports. The rules that are declared meanwhile come
behind, and the next run goes through them as well. -/
theorem validate_while_declaring (hd : host.Declares validator) (mode : Mode) (object : Value)
    (signal : Option Nat) (s : Store ω) :
    ∃ visits t,
      GoesThrough host mode validator object signal s (s.rulesOf validator) visits t ∧
      (∀ earlier visit later, visits = earlier ++ visit :: later → ∀ p c,
        visit.rule = .batched p c →
          visit.ready.entriesOf c = (play validator 0 s
            (earlier.flatMap (·.declared) ++ visit.reading)).entriesOf c ∧
          visit.verdicts.map (·.message) = (visit.ready.entriesOf c).map (·.message)) ∧
      Store.Declared validator s (visits.flatMap (·.declared)) t ∧
      ∃ new, t.rulesOf validator = s.rulesOf validator ++ new ∧
        ∀ mode' object' signal', ∃ visits' t',
          GoesThrough host mode' validator object' signal' t (s.rulesOf validator ++ new)
            visits' t' := by
  obtain ⟨visits, t, rest, hrules, hrow, hend⟩ := validate_goesThrough mode object hd signal s
  refine ⟨visits, t, ⟨rest, hrules, hrow, hend⟩, ?_, hrow.declared, ?_⟩
  · rintro earlier visit later rfl p c hr
    refine ⟨hrow.ready.entriesOf c, ?_⟩
    obtain ⟨⟨x, -, hall⟩, -, -⟩ := hrow.happened (List.mem_append_right _ List.mem_cons_self)
    simp only [Visit.checks, hr] at hall
    exact (performAll_checks hall).2
  · have hprefix : s.rulesOf validator <+:
        (play validator 0 s (visits.flatMap (·.declared))).rulesOf validator := rulesOf_play s _
    obtain ⟨new, hnew⟩ := hprefix
    rw [← hrow.declared.rulesOf validator] at hnew
    refine ⟨new, hnew.symm, fun mode' object' signal' => ?_⟩
    rw [hnew]
    exact validate_goesThrough mode' object' hd signal' t

end Run

/-! ## A validator that is declared on while it runs -/

/-- A host in which every call makes the same declarations on a validator, and then says no. -/
def Host.declaring (v : Nat) (events : List History.Event) : Host ω where
  zone := 0
  body _ _ _ := do
    modify fun s => History.play v 0 s events
    pure (.bool false)
  systemTime := pure .none
  fresh := pure 0

theorem Host.declaring_declares (v : Nat) (events : List History.Event) :
    (Host.declaring v events : Host ω).Declares v := by
  refine ⟨fun _ _ _ s r t h => ?_, fun s r t h => ?_, fun s r t h => ?_⟩
  · obtain ⟨-, rfl⟩ := Prod.mk.inj h
    exact ⟨events, _, _, _, (Store.aside_self _).symm⟩
  · obtain ⟨-, rfl⟩ := Prod.mk.inj h
    exact ⟨[], .refl s⟩
  · obtain ⟨-, rfl⟩ := Prod.mk.inj h
    exact ⟨[], .refl s⟩

/-- A store with a validator of two rules, each of a chain with one check of one's own. -/
def Store.pair : Store Unit where
  validators := [⟨"Sample", none, 0, [.batched (.named "name") 0, .batched (.named "age") 1]⟩]
  chains := [⟨0, .named "name", [⟨.must (.callable ⟨0, "asks", none, none⟩), .str "first"⟩], true⟩,
    ⟨0, .named "age", [⟨.must (.callable ⟨0, "asks", none, none⟩), .str "second"⟩], true⟩]
  settings := [.default]
  signals := []
  log := []
  drained := []
  extra := ()

/-- Both chains get other messages, the first chain another check, and the validator a rule. -/
def Run.meanwhile : List History.Event := [
  .call 0 "with_message" [.str "changed"],
  .call 1 "with_message" [.str "seen"],
  .call 0 "not_null" [],
  .call 0 "must_async" [.callable ⟨1, "waits", none, some "coroutine"⟩, .str "late"]]

namespace Run

set_option maxRecDepth 4000 in
theorem validate_while_declaring_pair :
    ∃ visits t, visits.map (·.rule) = Store.pair.rulesOf 0 ∧
      (run (.declaring 0 meanwhile) (.blocking .outside) 0 .nameless none).exec .pair =
        (.ok ⟨[(.str "name", [.str "first"]), (.str "age", [.str "seen"])]⟩, t) ∧
      GoesThrough (.declaring 0 meanwhile) (.blocking .outside) 0 .nameless none .pair (Store.pair.rulesOf 0)
        visits t ∧
      (t.rulesOf 0).length = 4 ∧ (t.entriesOf 0).length = 3 := by
  have hreport : ((run (.declaring 0 meanwhile) (.blocking .outside) 0 .nameless none).exec
      Store.pair).1 = .ok ⟨[(.str "name", [.str "first"]), (.str "age", [.str "seen"])]⟩ := by cbv
  have hleft : (((run (.declaring 0 meanwhile) (.blocking .outside) 0 .nameless none).exec
      Store.pair).2.rulesOf 0).length = 4 ∧ (((run (.declaring 0 meanwhile) (.blocking .outside) 0
        .nameless none).exec Store.pair).2.entriesOf 0).length = 3 := by cbv
  obtain ⟨visits, t, ⟨rest, hrules, hrow, hend⟩, -⟩ :=
    validate_while_declaring (Host.declaring_declares 0 meanwhile) (.blocking .outside) .nameless none .pair
  rcases hend with ⟨rfl, hok⟩ | ⟨-, hstop | ⟨f, s', hfault⟩⟩
  · have hgo : GoesThrough (.declaring 0 meanwhile) (.blocking .outside) 0 .nameless none .pair
        (Store.pair.rulesOf 0) visits t := ⟨[], hrules, hrow, .inl ⟨rfl, hok⟩⟩
    rw [hok] at hreport hleft
    exact ⟨visits, t, by rw [hrules, List.append_nil], by rw [hok, ← hreport], hgo, hleft⟩
  · cases hstop
  · rw [hfault] at hreport
    cases hreport

end Run

end Rulebook

import Rulebook.Proofs.Report
import Rulebook.Proofs.Run.Tasks
import Rulebook.Proofs.Value.Reading

/-!
# What a validation reports

A validation without a signal does the tasks of its rules in order. If none of them faults, its
report groups the messages of the checks that were not passed; if one does, that fault is raised,
and nothing after it is done. All of this holds where the calls leave the rules of the validator
alone and do not raise what ends an iteration.

* `Run.gather`: the messages that rules leave. `Run.runRules_gather`: a run adds them to its report.
* `Run.gather_tasks`: rules are a row of tasks.
* `Run.validate_reports_failing`: what a validation reports, or raises.
-/

namespace Rulebook

variable {ω : Type} {I : Store ω → Prop}

/-- The rules of a validator read the same checks in the other store. -/
def Store.SameChecks (s : Store ω) (validator : Nat) (t : Store ω) : Prop :=
  ∀ p c, .batched p c ∈ s.rulesOf validator → t.chains[c]? = s.chains[c]?

/-- Where the property holds, the action does not raise what ends an iteration. -/
def Action.Unstopped {α : Type} (I : Store ω → Prop) (a : Action ω α) : Prop :=
  ∀ s, I s → ∀ text, (a.exec s).1 ≠ .error (.raised "StopIteration" text)

/-- Where the property holds, no call raises what ends an iteration. -/
def Host.Unstopped (host : Host ω) (I : Store ω → Prop) : Prop :=
  ∀ place f args, Action.Unstopped I (host.body place f args)

/-! ## Reading raises nothing that a call raises -/

namespace Action

theorem Unstopped.bind {α β : Type} {a : Action ω α} {f : α → Action ω β} (hk : Keeps I a)
    (ha : Unstopped I a) (hf : ∀ x, Unstopped I (f x)) : Unstopped I (a >>= f) := by
  intro s hs text
  rcases h : a.exec s with ⟨e | x, s'⟩
  · rw [exec_bind_error h]
    have := ha s hs text
    rw [h] at this
    simpa using this
  · rw [exec_bind_ok h]
    exact hf x s' (hk s _ s' hs h) text

theorem Unstopped.ret {α : Type} (x : α) : Unstopped I (pure x : Action ω α) :=
  fun _ _ _ => by simp

end Action

namespace Run

open Rulebook.Action

variable {host : Host ω} {mode : Mode} {validator : Nat} {object : Value} {s : Store ω}

theorem readProperty_keeps (hI : host.Keeps I) (place : Place) (p : Property) (object : Value) :
    Keeps I (readProperty host place p object) :=
  keeps_iff_alike.mpr (readProperty_alike (hI.alike _) p object)

theorem invoke_unstopped (h : host.Unstopped I) (place : Place) (f : Value) (args : List Value) :
    Unstopped I (invoke host place f args) := by
  cases f with
  | callable c =>
    simp only [invoke]
    split
    · exact .ret _
    · exact h _ _ _
  | _ => exact h _ _ _

theorem readProperty_unstopped (h : host.Unstopped I) (place : Place) (p : Property)
    (object : Value) : Unstopped I (readProperty host place p object) := by
  unfold readProperty
  cases p.accessor with
  | attribute_ name => exact fun _ _ text => Value.read_ne_raised object name _ text
  | call f => exact invoke_unstopped h _ _ _

theorem await_unstopped (h : host.Unstopped I) (place : Place) (v : Value) :
    Unstopped I (await host place v) := by
  cases v with
  | pending c args => exact h _ _ _
  | _ => exact .ret _

theorem callStandalone_unstopped (hI : host.Keeps I) (h : host.Unstopped I) (place : Place)
    (p : Property) (check : StandaloneCheck) (object : Value) :
    Unstopped I (callStandalone host place p check object) := by
  cases check with
  | own f =>
    exact .bind (readProperty_keeps hI _ p object) (readProperty_unstopped h _ p object)
      fun v => invoke_unstopped h _ _ _
  | dependent other f =>
    exact .bind (readProperty_keeps hI _ p object) (readProperty_unstopped h _ p object)
      fun v => .bind (readProperty_keeps hI _ other object)
        (readProperty_unstopped h _ other object) fun w => invoke_unstopped h _ _ _

/-- A check that is waited for says the same inside the coroutine of its rule. -/
theorem standalone_tasks (hI : host.Keeps I) (h : host.Unstopped I) (place : Place) (p : Property)
    (check : StandaloneCheck) (message object : Value) :
    Alike (fun s t => s = t ∧ I s) (standalone host place p check message object) (do
      let outcome ← callStandalone host place p check object
      let outcome ← await host place outcome
      pure (if outcome.truthy then [] else [message])) := by
  have hc : Keeps I (callStandalone host place p check object) :=
    keeps_iff_alike.mpr (callStandalone_alike (hI.alike _) p check object)
  have hw : ∀ v, Keeps I (await host place v) :=
    fun v => keeps_iff_alike.mpr (await_alike (hI.alike _) v)
  have hu := Unstopped.bind hc (callStandalone_unstopped hI h place p check object) fun v =>
    Unstopped.bind (hw v) (await_unstopped h place v) fun outcome =>
      Unstopped.ret (if outcome.truthy then [] else [message])
  rintro s _ ⟨rfl, hs⟩
  obtain ⟨r, s', t', ha, hb, hst⟩ :=
    standalone_alike (hI.alike place) p check message object s s ⟨rfl, hs⟩
  refine ⟨r, s', t', ha, ?_, hst⟩
  rw [← hb]
  exact (insideCoroutine_exec (hu s hs)).symm

variable (mode validator object) in
/-- A rule does its tasks, and leaves the messages of the checks that were not passed. -/
theorem runRule_tasks (hI : host.Keeps I) (h : host.Unstopped I) {r : Rule}
    (hsame : ∀ p c, r = .batched p c → ∀ t, I t → t.chains[c]? = s.chains[c]?) (x : Value) :
    Alike (fun s t => s = t ∧ I s) (do
        let messages ← runRule host mode validator object r
        pure (messages.map fun m => (r.property.key, m))) (do
        let q ← performAll host mode validator object x (tasksOf s r)
        pure (failures q.2)) := by
  cases r with
  | batched p c =>
    have read := readProperty_alike (hI.alike mode.place) p object
    have same : ∀ v, Alike (fun s t => s = t ∧ I s) (do
        let t ← get
        let messages ← failing host mode.place (t.ownerOf c) v (t.entriesOf c)
        pure (messages.map fun m => (p.key, m))) (do
        let q ← performAll host mode validator object v
          ((s.entriesOf c).map (.check p (s.ownerOf c)))
        pure (failures q.2)) := by
      rintro v t _ ⟨rfl, ht⟩
      have hc := hsame p c rfl t ht
      rw [← failing_eq, exec_bind_ok (exec_get t)]
      simp only [Store.ownerOf, Store.entriesOf, hc]
      exact (failing_alike (Store.sameView_eq I) (hI.alike _) _ v _).bind (fun _ => .ret _)
        t t ⟨rfl, ht⟩
    have rule := read.bind same
    simpa only [runRule, batched, tasksOf, performAll, perform, Store.ownerOf, Rule.property,
      bind_assoc, pure_bind, List.nil_append] using rule
  | standalone p check message =>
    have rule := (drivenAt_alike (Store.sameView_eq I) hI.everywhere mode validator).bind
      fun inside => (standalone_tasks hI h inside p check message object).bind fun ms =>
        .ret (ms.map fun m => (p.key, m))
    have shape : ∀ b : Bool, ((if b then [] else [message] : List Value).map fun m => (p.key, m)) =
        failures [⟨p.key, message, b⟩] := by
      intro b
      cases b <;> rfl
    simpa only [runRule, tasksOf, performAll, perform, bind_assoc, pure_bind, shape, Rule.property,
      List.append_nil] using rule

/-- The messages of a rule go to the name of its property. -/
theorem collect_str {report : Report} {name : Value} {key : String} (h : name = .str key)
    (messages : List Value) :
    collect report name messages =
      .ok (report.addPairs (messages.map fun m => (key, m))) := by
  subst h
  unfold collect
  cases messages with
  | nil => rfl
  | cons m ms => exact congrArg Except.ok (report.addAll_str key (m :: ms))

/-- The messages that rules leave one after the other, each for the name of its property. -/
def gather (host : Host ω) (mode : Mode) (validator : Nat) (object : Value) :
    List Rule → Action ω (List (String × Value))
  | [] => pure []
  | r :: rs => do
    let messages ← runRule host mode validator object r
    let pairs ← gather host mode validator object rs
    pure (messages.map (fun m => (r.property.key, m)) ++ pairs)

/-- A run without a signal adds what its rules leave. -/
theorem runRules_gather {rs : List Rule}
    (hnames : ∀ r ∈ rs, ∃ name, r.property.name = .str name) (total done : Nat)
    (report : Report) :
    runRules host mode validator object none total rs done report = (do
      let pairs ← gather host mode validator object rs
      pure (report.addPairs pairs)) := by
  induction rs generalizing done report with
  | nil => rfl
  | cons r rs ih =>
    obtain ⟨⟨name, hname⟩, hrest⟩ := List.forall_mem_cons.mp hnames
    have hkey : r.property.key = name := by rw [Property.key, hname]
    have step : runRules host mode validator object none total (r :: rs) done report = (do
        let messages ← runRule host mode validator object r
        runRules host mode validator object none total rs (done + 1)
          (report.addPairs (messages.map fun m => (r.property.key, m)))) := by
      simp only [runRules, isCancelled, pure_bind, collect_str hname, hkey]
      rfl
    rw [step, gather, bind_assoc]
    refine congrArg _ (funext fun messages => ?_)
    simp only [ih hrest, bind_assoc, pure_bind, Report.addPairs_append]

/-- Rules do their tasks one after the other, and leave the messages of the checks that were not
passed. -/
theorem gather_tasks (hI : host.Keeps I) (h : host.Unstopped I) {rs : List Rule}
    (hsame : ∀ p c, .batched p c ∈ rs → ∀ t, I t → t.chains[c]? = s.chains[c]?)
    {t : Store ω} (ht : I t) (x : Value) :
    (gather host mode validator object rs).exec t =
      (do
        let q ← performAll host mode validator object x (rs.flatMap (tasksOf s))
        pure (failures q.2)).exec t := by
  induction rs generalizing t x with
  | nil => rfl
  | cons r rs ih =>
    have step : gather host mode validator object (r :: rs) = (do
        let messages ← runRule host mode validator object r
        pure (messages.map fun m => (r.property.key, m)) : Action ω _) >>= fun ps => (do
        let qs ← gather host mode validator object rs
        pure (ps ++ qs)) := by
      simp only [gather, bind_assoc, pure_bind]
    obtain ⟨res, t', t'', hrule, htasks, rfl, ht'⟩ := runRule_tasks mode validator object hI h
      (s := s) (fun p c e => hsame p c (e ▸ List.mem_cons_self)) x t t ⟨rfl, ht⟩
    rw [step, List.flatMap_cons, performAll_append]
    rcases hp : (performAll host mode validator object x (tasksOf s r)).exec t
      with ⟨f | ⟨y, vs⟩, t₁⟩
    · rw [exec_bind_error hp] at htasks
      obtain ⟨rfl, rfl⟩ := Prod.mk.inj htasks
      rw [exec_bind_error hrule, exec_bind_error (exec_bind_error hp)]
    · rw [exec_bind_ok hp] at htasks
      obtain ⟨rfl, rfl⟩ := Prod.mk.inj htasks
      have rest := ih (fun p c m => hsame p c (List.mem_cons_of_mem _ m)) ht' y
      rw [exec_bind_ok hrule, exec_bind_congr rest]
      simp only [bind_assoc]
      rw [exec_bind_ok hp]
      simp only [pure_bind, failures_append]

/-- The rules of a run without a signal do their tasks one after the other, and collect the
messages of the checks that were not passed. -/
theorem runRules_tasks (hI : host.Keeps I) (h : host.Unstopped I) {rs : List Rule}
    (hsame : ∀ p c, .batched p c ∈ rs → ∀ t, I t → t.chains[c]? = s.chains[c]?)
    (hnames : ∀ r ∈ rs, ∃ name, r.property.name = .str name) {t : Store ω} (ht : I t) (x : Value)
    (total done : Nat) (report : Report) :
    (runRules host mode validator object none total rs done report).exec t =
      (do
        let q ← performAll host mode validator object x (rs.flatMap (tasksOf s))
        pure (report.addPairs (failures q.2))).exec t := by
  rw [runRules_gather hnames, exec_bind_congr (gather_tasks hI h hsame ht x)]
  simp only [bind_assoc, pure_bind]

/-! ## Validations -/

/-- A validation without a signal does the tasks of its rules in order. If none of them faults,
the names of its report are those of the checks that were not passed, where they first come, and
under each of them are all messages for it, in order; it is valid iff every check was passed. If a
task faults, the validation does, and nothing after that task is done. -/
theorem validate_reports_failing (hI : host.Keeps I) (hs : I s)
    (hsame : ∀ t, I t → s.SameChecks validator t) (hstop : host.Unstopped I)
    (hnames : ∀ r ∈ s.rulesOf validator, ∃ name, r.property.name = .str name) (place : Place)
    (object : Value) :
    (∃ x vs s' report,
        (performAll host (.blocking place) validator object .none
          ((s.rulesOf validator).flatMap (tasksOf s))).exec s = (.ok (x, vs), s') ∧
        (validate host place validator object none).exec s = (.ok report, s') ∧
        Table.keys report.errors = (Report.names (failures vs)).map .str ∧
        (∀ name ∈ Report.names (failures vs), Table.find? report.errors (.str name) =
          some (Report.messagesFor (failures vs) name)) ∧
        (report.isValid = true ↔ ∀ v ∈ vs, v.passed = true)) ∨
      ∃ done t rest x vs f s₁ s',
        (s.rulesOf validator).flatMap (tasksOf s) = done ++ t :: rest ∧
        (performAll host (.blocking place) validator object .none done).exec s = (.ok (x, vs), s₁) ∧
        (perform host (.blocking place) validator object x t).exec s₁ = (.error f, s') ∧
        (validate host place validator object none).exec s = (.error f, s') := by
  have hv : (validate host place validator object none).exec s = (do
      let q ← performAll host (.blocking place) validator object .none
        ((s.rulesOf validator).flatMap (tasksOf s))
      pure (Report.ofPairs (failures q.2))).exec s := by
    rw [validate_eq, runAll, exec_bind_ok (exec_get s)]
    exact runRules_tasks hI hstop (fun p c hr t ht => hsame t ht p c hr) hnames hs .none _ 0 .empty
  rcases hp : (performAll host (.blocking place) validator object .none
    ((s.rulesOf validator).flatMap (tasksOf s))).exec s with ⟨f | ⟨x, vs⟩, s'⟩
  · obtain ⟨done, t, rest, x, vs, s₁, htasks, hdone, ht⟩ := performAll_error hp
    rw [exec_bind_error hp] at hv
    exact .inr ⟨done, t, rest, x, vs, f, s₁, s', htasks, hdone, ht, hv⟩
  · rw [exec_bind_ok hp] at hv
    refine .inl ⟨x, vs, s', Report.ofPairs (failures vs), rfl, hv, Report.keys_ofPairs _,
      fun name hn => Report.find?_ofPairs hn, ?_⟩
    rw [Report.isValid_ofPairs, failures_eq_nil]

theorem validate_sample_failing :
    ∃ x vs s' report,
      (performAll (.signalling 0 (.bool false)) (.blocking .outside) 0 .nameless .none
        ((Store.sample.rulesOf 0).flatMap (tasksOf .sample))).exec .sample = (.ok (x, vs), s') ∧
      (validate (.signalling 0 (.bool false)) .outside 0 .nameless none).exec .sample =
        (.ok report, s') ∧
      Table.keys report.errors = (Report.names (failures vs)).map .str ∧
      (∀ name ∈ Report.names (failures vs), Table.find? report.errors (.str name) =
        some (Report.messagesFor (failures vs) name)) ∧
      (report.isValid = true ↔ ∀ v ∈ vs, v.passed = true) := by
  have hI : (Host.signalling 0 (.bool false)).Keeps
      fun s : Store Unit => s.chains = Store.sample.chains :=
    Host.signalling_keeps (fun _ hs => hs) _
  have hnames : ∀ r ∈ Store.sample.rulesOf 0, ∃ name, r.property.name = .str name := by
    intro r hr
    rcases List.mem_pair.mp hr with rfl | rfl <;> exact ⟨"name", rfl⟩
  have hv : (validate (.signalling 0 (.bool false)) .outside 0 .nameless none).exec
      Store.sample = (.ok ⟨[(.str "name", [.str "missing", .str "wrong", .str "empty",
        .str "late"])]⟩, Store.sample.signalled 0) := rfl
  rcases validate_reports_failing hI rfl (fun t ht p c _ => by rw [ht])
    (fun _ _ _ _ _ _ h => nomatch h) hnames .outside .nameless with h | h
  · exact h
  · obtain ⟨_, _, _, _, _, _, _, _, -, -, -, hfault⟩ := h
    rw [hv] at hfault
    cases hfault

end Run

end Rulebook

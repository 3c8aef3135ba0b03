import Rulebook.Proofs.Run.Tasks

/-!
# Runs that are stopped

A run asks its signal before every rule and stops at the first answer that says so. Up to there it
does what its first rules do without a signal, whatever the answers: where calls do not depend on
how often the signal has been asked, the questions change nothing but their own count.

* `Run.runFirst`: the run of the first rules alone. `Run.answerAt`: what the signal answers to
  each question.
* `Run.runRules_going`: where the signal lets a run go on, the rest of it comes after the run of
  its first rules.
* `Run.validate_stopped`: what a validation with a signal gives and leaves.
-/

namespace Rulebook

variable {ω : Type}

/-- The other store is this one after more questions to a signal, and the property holds of it. -/
def Store.Later (g d : Nat) (I : Store ω → Prop) (s t : Store ω) : Prop := t = s.later g d ∧ I s

/-- Where the property holds, calls do the same after any number of questions to a signal, and
they keep the property. -/
def Host.Uncounting (host : Host ω) (g : Nat) (I : Store ω → Prop) : Prop :=
  ∀ d, host.AlikeEverywhere (Store.Later g d I) host

theorem Store.later_view (g d : Nat) (I : Store ω → Prop) : Store.SameView (Store.Later g d I) := by
  refine ⟨?_, ?_, ?_, ?_⟩ <;> rintro s _ ⟨rfl, -⟩ <;> intros <;> rfl

theorem Host.Uncounting.keeps {host : Host ω} {g : Nat} {I : Store ω → Prop}
    (h : host.Uncounting g I) : host.Keeps I := by
  have keeps : ∀ {α : Type} {a : Action ω α}, Action.Alike (Store.Later g 0 I) a a →
      Action.Keeps I a := by
    intro α a ha s r s' hs hf
    obtain ⟨_, _, _, hf', -, -, hs'⟩ := ha s s ⟨(s.later_zero g).symm, hs⟩
    rw [hf] at hf'
    obtain ⟨-, rfl⟩ := Prod.mk.inj hf'
    exact hs'
  exact ⟨fun place f args => keeps (((h 0).place place).body f args),
    keeps ((h 0).place .outside).systemTime, keeps (h 0).fresh⟩

namespace Run

open Rulebook.Action

variable {host : Host ω} {mode : Mode} {validator : Nat} {object : Value} {g : Nat}
  {I : Store ω → Prop}

/-! ## One rule -/

variable {s s' : Store ω} {r : Rule} {messages : List Value} {report report' : Report}

/-- What a run does with the rule at its front, and with those behind it. -/
def runOn (host : Host ω) (mode : Mode) (validator : Nat) (object : Value) (signal : Option Nat)
    (total : Nat) (r : Rule) (rs : List Rule) (done : Nat) (report : Report) : Action ω Report := do
  let messages ← runRule host mode validator object r
  let report ← collect report r.property.name messages
  runRules host mode validator object signal total rs (done + 1) report

theorem runRules_none (total : Nat) (r : Rule) (rs : List Rule) (done : Nat) (report : Report) :
    runRules host mode validator object none total (r :: rs) done report =
      runOn host mode validator object none total r rs done report := rfl

theorem runRules_stopped (h : s.answer g = true) (total : Nat) (r : Rule) (rs : List Rule)
    (done : Nat) (report : Report) :
    (runRules host mode validator object (some g) total (r :: rs) done report).exec s =
      (.ok report,
        (s.later g 1).write .info (cancelledText (s.classNameOf validator) done total)) := by
  rw [runRules, isCancelled, exec_bind_ok (poll_exec g s), h]
  rfl

theorem runRules_asked (h : s.answer g = false) (total : Nat) (r : Rule) (rs : List Rule)
    (done : Nat) (report : Report) :
    (runRules host mode validator object (some g) total (r :: rs) done report).exec s =
      (runOn host mode validator object (some g) total r rs done report).exec (s.later g 1) := by
  rw [runRules, isCancelled, exec_bind_ok (poll_exec g s), h]
  rfl

theorem runOn_ok (hr : (runRule host mode validator object r).exec s = (.ok messages, s'))
    (hc : collect report r.property.name messages = .ok report') (signal : Option Nat)
    (total : Nat) (rs : List Rule) (done : Nat) :
    (runOn host mode validator object signal total r rs done report).exec s =
      (runRules host mode validator object signal total rs (done + 1) report').exec s' := by
  rw [runOn, exec_bind_ok hr, exec_bind_ok (by rw [exec_lift, hc])]

/-! ## The first rules -/

/-- The run of the first rules of a validator, without a signal. -/
def runFirst (host : Host ω) (mode : Mode) (validator : Nat) (object : Value) (k : Nat) :
    Action ω Report := do
  let rules := (← get).rulesOf validator
  runRules host mode validator object none rules.length (rules.take k) 0 .empty

/-- What a signal answers when a run that starts in a store asks it before the rule at a
position. -/
def answerAt (host : Host ω) (mode : Mode) (validator : Nat) (object : Value) (g : Nat)
    (s : Store ω) (i : Nat) : Bool :=
  (((runFirst host mode validator object i).exec s).2.later g i).answer g

/-- A run that its signal lets go on for some rules goes on after what these do without it. -/
theorem runRules_going (hq : host.Uncounting g I) {rs : List Rule} {k d total done : Nat}
    (hs : I s)
    (hrun : (runRules host mode validator object none total (rs.take k) done report).exec s =
      (.ok report', s'))
    (hk : k ≤ rs.length)
    (hgo : ∀ i < k, (((runRules host mode validator object none total (rs.take i) done
      report).exec s).2.later g (d + i)).answer g = false) :
    (runRules host mode validator object (some g) total rs done report).exec (s.later g d) =
        (runRules host mode validator object (some g) total (rs.drop k) (done + k) report').exec
          (s'.later g (d + k)) ∧ I s' := by
  induction k generalizing rs d done report s with
  | zero =>
    obtain ⟨h, rfl⟩ := Prod.mk.inj hrun
    cases h
    exact ⟨rfl, hs⟩
  | succ k ih =>
    obtain _ | ⟨r, rs⟩ := rs
    · simp at hk
    -- The rule at the front does the same before and after the question.
    rw [List.take_succ_cons, runRules_none] at hrun
    obtain ⟨messages, s₁, hr, hrest⟩ := bind_ok hrun
    obtain ⟨report₁, _, hc, hrest⟩ := bind_ok hrest
    rw [exec_lift] at hc
    obtain ⟨hcollect, rfl⟩ := Prod.mk.inj hc
    obtain ⟨_, _, _, hr₁, hl, rfl, hs₁⟩ := runRule_alike (Store.later_view g (d + 1) I)
      ((hq (d + 1)).place _) (drivenAlike (Store.later_view g (d + 1) I) (hq (d + 1)) mode validator)
      object r s _ ⟨rfl, hs⟩
    rw [hr] at hr₁
    obtain ⟨rfl, rfl⟩ := Prod.mk.inj hr₁
    have hgo₁ : ∀ i < k, (((runRules host mode validator object none total (rs.take i) (done + 1)
        report₁).exec s₁).2.later g (d + 1 + i)).answer g = false := by
      intro i hi
      have h := hgo (i + 1) (Nat.succ_lt_succ hi)
      rwa [List.take_succ_cons, runRules_none, runOn_ok hr hcollect, ← Nat.add_assoc,
        Nat.add_right_comm] at h
    have front : (s.later g d).answer g = false := hgo 0 (Nat.succ_pos k)
    obtain ⟨rest, hs'⟩ := ih hs₁ hrest (Nat.le_of_succ_le_succ hk) hgo₁
    refine ⟨?_, hs'⟩
    rw [runRules_asked front, Store.later_later, runOn_ok hl hcollect, rest, List.drop_succ_cons,
      Nat.add_right_comm done, Nat.add_right_comm d]
    rfl

/-- A run of rules is a run of the first of them and then of the others. -/
theorem runRules_append (rs us : List Rule) (total done : Nat) (report : Report) :
    runRules host mode validator object none total (rs ++ us) done report = (do
      let report ← runRules host mode validator object none total rs done report
      runRules host mode validator object none total us (done + rs.length) report) := by
  induction rs generalizing done report with
  | nil => rfl
  | cons r rs ih =>
    simp only [List.cons_append, runRules_none, runOn, ih, bind_assoc, List.length_cons,
      Nat.add_assoc, Nat.add_comm 1]

/-- What calls keep, a run of rules keeps that asks no signal. -/
theorem runRules_keeps {K : Store ω → Prop} (hK : host.Keeps K) (rs : List Rule)
    (total done : Nat) (report : Report) :
    Keeps K (runRules host mode validator object none total rs done report) := by
  induction rs generalizing done report with
  | nil => exact keeps_iff_alike.mpr (.ret _)
  | cons r rs ih =>
    rw [runRules_none, runOn, keeps_iff_alike]
    exact (keeps_iff_alike.mp (runRule_keeps hK mode validator object r)).bind fun messages =>
      (Alike.lift _).bind fun report => keeps_iff_alike.mp (ih _ _)

/-! ## Validations -/

theorem runFirst_exec (k : Nat) :
    (runFirst host mode validator object k).exec s =
      (runRules host mode validator object none (s.rulesOf validator).length
        ((s.rulesOf validator).take k) 0 .empty).exec s := by
  rw [runFirst, exec_bind_ok (exec_get s)]

/-- A validation with a signal, where the run of the rules does not fault. -/
theorem run_exec {signal : Option Nat}
    (h : (runRules host mode validator object signal (s.rulesOf validator).length
      (s.rulesOf validator) 0 .empty).exec s = (.ok report, s')) :
    (run host mode validator object signal).exec s = (.ok report, s') := by
  have hall : (runAll host mode validator object signal).exec s = (.ok report, s') := by
    rw [runAll, exec_bind_ok (exec_get s), h]
  cases mode with
  | blocking place =>
    rw [run, validate_eq]
    exact hall
  | awaited place =>
    rw [run, validateAsync_eq]
    exact (insideCoroutine_exec (by simp [hall])).trans hall

/-- A run of the first rules that does not fault starts with one of fewer rules. -/
theorem runFirst_le {i k : Nat} (hi : i ≤ k)
    (h : (runFirst host mode validator object k).exec s = (.ok report, s')) :
    ∃ report₁ s₁, (runFirst host mode validator object i).exec s = (.ok report₁, s₁) := by
  obtain ⟨e, rfl⟩ := Nat.exists_eq_add_of_le hi
  rw [runFirst_exec, List.take_add, runRules_append] at h
  obtain ⟨report₁, s₁, hfirst, -⟩ := bind_ok h
  exact ⟨report₁, s₁, (runFirst_exec i).trans hfirst⟩

/-- With one rule more, this rule comes last. -/
theorem runFirst_succ {i : Nat} (hr : (s.rulesOf validator)[i]? = some r)
    (h : (runFirst host mode validator object (i + 1)).exec s = (.ok report, s')) :
    ∃ report₁ s₁ messages,
      (runFirst host mode validator object i).exec s = (.ok report₁, s₁) ∧
        (runRule host mode validator object r).exec s₁ = (.ok messages, s') := by
  have hnext : (s.rulesOf validator).take (i + 1) = (s.rulesOf validator).take i ++ [r] := by
    rw [List.take_add_one, hr]
    rfl
  rw [runFirst_exec, hnext, runRules_append] at h
  obtain ⟨report₁, s₁, hfront, hlast⟩ := bind_ok h
  rw [runRules_none] at hlast
  obtain ⟨messages, s₂, hrule, hlast⟩ := bind_ok hlast
  obtain ⟨_, _, hcollect, hlast⟩ := bind_ok hlast
  obtain ⟨-, rfl⟩ := Prod.mk.inj hcollect
  obtain ⟨-, rfl⟩ := Prod.mk.inj hlast
  exact ⟨report₁, s₁, messages, (runFirst_exec i).trans hfront, hrule⟩

/-- Each of the first rules runs between two questions. A chain that it reads is asked in full. -/
theorem runFirst_asksAll (hq : host.Uncounting g I) {k : Nat} (hs : I s)
    (hrun : (runFirst host mode validator object k).exec s = (.ok report, s')) {i : Nat}
    (hi : i < k) {p : Property} {c : Nat}
    (hr : (s.rulesOf validator)[i]? = some (.batched p c)) :
    AsksAll host mode validator object p c
      (((runFirst host mode validator object i).exec s).2.later g (i + 1))
      (((runFirst host mode validator object (i + 1)).exec s).2.later g (i + 1)) := by
  obtain ⟨report₂, s₂, hnext⟩ := runFirst_le (Nat.succ_le_of_lt hi) hrun
  obtain ⟨report₁, s₁, messages, hfront, hrule⟩ := runFirst_succ hr hnext
  have hs₁ : I s₁ :=
    runRules_keeps hq.keeps _ _ _ _ s _ s₁ hs ((runFirst_exec i).symm.trans hfront)
  obtain ⟨_, _, _, hrule', hlater, rfl, -⟩ := runRule_alike (Store.later_view g (i + 1) I)
    ((hq (i + 1)).place _) (drivenAlike (Store.later_view g (i + 1) I) (hq (i + 1)) mode validator)
    object (.batched p c) s₁ _ ⟨rfl, hs₁⟩
  rw [hrule] at hrule'
  obtain ⟨rfl, rfl⟩ := Prod.mk.inj hrule'
  rw [hfront, hnext]
  exact asksAll_of_runRule hlater

/-- A validation that its signal lets go on for some rules, none of which faults. At the first
answer that stops it, it reports what these rules report without a signal, and says so in one
record; the signal has been asked once for each of them and once more. If all rules are run, the
signal has been asked once for each, and there is no record. Whatever the signal becomes
meanwhile, every chain that was read was asked in full. The rest of the store is what calls made
of it: all that they keep is kept. -/
theorem validate_stopped (hq : host.Uncounting g I) (hg : ∀ s, I s → g < s.signals.length)
    (hs : I s) {k : Nat} (hk : k ≤ (s.rulesOf validator).length)
    (hrun : (runFirst host mode validator object k).exec s = (.ok report, s'))
    (hgo : ∀ i < k, answerAt host mode validator object g s i = false) :
    (k < (s.rulesOf validator).length → answerAt host mode validator object g s k = true →
        ∃ s'', (run host mode validator object (some g)).exec s = (.ok report, s'') ∧
          s''.polls g = s'.polls g + (k + 1) ∧
          s''.log = s'.log ++ [⟨.info, s'.classNameOf validator ++
            ": validation cancelled after " ++ toString k ++ " of " ++
              toString (s.rulesOf validator).length ++ " rules"⟩]) ∧
      (k = (s.rulesOf validator).length →
        ∃ s'', (run host mode validator object (some g)).exec s = (.ok report, s'') ∧
          (run host mode validator object none).exec s = (.ok report, s') ∧
          s''.polls g = s'.polls g + k ∧ s''.log = s'.log) ∧
      (∀ i < k, ∀ p c, (s.rulesOf validator)[i]? = some (.batched p c) →
        AsksAll host mode validator object p c
          (((runFirst host mode validator object i).exec s).2.later g (i + 1))
          (((runFirst host mode validator object (i + 1)).exec s).2.later g (i + 1))) ∧
      ∀ K : Store ω → Prop, host.Keeps K → K s → K s' := by
  have hfirst := (runFirst_exec k).symm.trans hrun
  have hgo' : ∀ i < k, (((runRules host mode validator object none (s.rulesOf validator).length
      ((s.rulesOf validator).take i) 0 .empty).exec s).2.later g (0 + i)).answer g = false := by
    intro i hi
    rw [Nat.zero_add, ← runFirst_exec]
    exact hgo i hi
  obtain ⟨hrest, hs'⟩ := runRules_going hq hs hfirst hk hgo'
  rw [Store.later_zero, Nat.zero_add] at hrest
  refine ⟨?_, ?_, fun i hi p c hr => runFirst_asksAll hq hs hrun hi hr,
    fun K hK hKs => runRules_keeps hK _ _ _ _ s _ s' hKs hfirst⟩
  · intro hlt hstop
    rw [answerAt, hrun] at hstop
    rw [List.drop_eq_getElem_cons hlt, runRules_stopped hstop, Store.later_later] at hrest
    refine ⟨_, run_exec hrest, ?_, rfl⟩
    exact Store.polls_later (hg s' hs') (k + 1)
  · rintro rfl
    rw [List.drop_length] at hrest
    rw [List.take_length] at hfirst
    exact ⟨_, run_exec hrest, run_exec hfirst, Store.polls_later (hg s' hs') _, rfl⟩

theorem validate_sample_stopped :
    ∃ s', (run (.signalling 0 (.bool false)) (.awaited .inside) 0 .nameless (some 0)).exec .sample =
        (.ok ⟨[(.str "name", [.str "missing", .str "wrong", .str "empty"])]⟩, s') ∧
      s'.polls 0 = 2 ∧ s'.log = [⟨.info, "Sample: validation cancelled after 1 of 2 rules"⟩] ∧
      AsksAll (.signalling 0 (.bool false)) (.awaited .inside) 0 .nameless (.named "name") 0
        (Store.sample.later 0 1) ((Store.sample.signalled 0).later 0 1) := by
  have hq : (Host.signalling 0 (.bool false)).Uncounting 0
      fun s : Store Unit => 0 < s.signals.length := by
    refine fun d => ⟨fun place => ⟨rfl, fun f args => ?_, .ret _⟩, .ret _⟩
    rintro s _ ⟨rfl, hs⟩
    refine ⟨.ok (.bool false), s.signalled 0, (s.later 0 d).signalled 0, rfl, rfl,
      s.signalled_later 0 d, ?_⟩
    simpa [Store.signalled] using hs
  have hrun : (runFirst (.signalling 0 (.bool false)) (.awaited .inside) 0 .nameless 1).exec .sample =
      (.ok ⟨[(.str "name", [.str "missing", .str "wrong", .str "empty"])]⟩,
        Store.sample.signalled 0) := rfl
  have h := validate_stopped hq (fun _ hs => hs) (by decide) (by decide) hrun (by decide)
  obtain ⟨s'', hv, hpolls, hlog⟩ := h.1 (by decide) (by decide)
  exact ⟨s'', hv, hpolls, hlog, h.2.2.1 0 (by decide) _ _ rfl⟩

end Run

end Rulebook

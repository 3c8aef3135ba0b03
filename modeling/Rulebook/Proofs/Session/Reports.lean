import Rulebook.Proofs.Action
import Rulebook.Proofs.Report.SelfMerge
import Rulebook.Proofs.Session.Terms
import Rulebook.Session.Play

/-!
# The reports of a session

Reports are edited in a session by three kinds of steps: a new one is made, messages are added to
one, or one is merged into another. Whatever edits are made, and whether they fail or not, every
report that is there is made of added messages and merged reports (`Report.Making`), so the laws of
merging hold of all of them.

* `Session.mergeInto_exec`, `Session.mergeInto_self_exec`: what a merge gives, and what it leaves.
* `Session.made_edit`, `Session.made_edited`: after any edits every report is made.
* `Session.reports_form_monoid`: the laws of merging, and what a merge leaves of a session.
-/

namespace Rulebook

namespace Session

open Rulebook.Action

/-- The number of the report that a name stands for. -/
def State.reportNumber? (s : State) (id : String) : Option Nat :=
  (s.names.lookup id).bind fun
    | .report r => some r
    | _ => none

/-- A report by its number; one that is not there is empty. -/
def reportIn (s : Store State) (r : Nat) : Report := (s.extra.reports[r]?).getD .empty

/-- The store with a report in place of that of a number. -/
def withReport (s : Store State) (r : Nat) (report : Report) : Store State :=
  { s with extra := { s.extra with reports := s.extra.reports.set r report } }

variable {s : Store State} {id other : String} {r o : Nat}

/-- What is done with the report of a name is done with its number, if it has one. -/
theorem reportNamed_bind_exec {α : Type} (id : String) (f : Nat → Play α) (s : Store State) :
    (Play.reportNamed id >>= f).exec s = match s.extra.reportNumber? id with
      | some r => (f r).exec s
      | none => (.error (.unknownId id), s) := by
  have hnamed : (Play.reportNamed id).exec s = match s.extra.reportNumber? id with
      | some r => (.ok r, s)
      | none => (.error (.unknownId id), s) := by
    unfold Play.reportNamed Play.named State.reportNumber?
    rw [exec_bind_ok (state_exec s)]
    cases s.extra.names.lookup id with
    | none => rfl
    | some n => cases n <;> rfl
  cases hr : s.extra.reportNumber? id with
  | none => rw [hr] at hnamed; exact exec_bind_error hnamed
  | some r => rw [hr] at hnamed; exact exec_bind_ok hnamed

theorem reportAt_exec (r : Nat) (s : Store State) :
    (reportAt r).exec s = (.ok (reportIn s r), s) := rfl

/-- A report that is merged into another one stays as it is, like every other report. -/
theorem mergeInto_exec (h : r ≠ o) (s : Store State) :
    (mergeInto r o).exec s = (.ok (.report ((reportIn s r).merge (reportIn s o)) none),
      withReport s r ((reportIn s r).merge (reportIn s o))) := by
  have hne : (r == o) = false := by simpa using h
  unfold mergeInto
  rw [exec_bind_ok (reportAt_exec r s)]
  simp only [hne]
  rw [if_neg Bool.false_ne_true]
  rfl

/-- A report that is merged into itself: the step never answers if the merge is never done. -/
theorem mergeInto_self_exec (r : Nat) (s : Store State) :
    (mergeInto r r).exec s = match (reportIn s r).mergeInPlace with
      | some merged => (.ok (.report merged none), withReport s r merged)
      | none => (.error .unbounded, s) := by
  unfold mergeInto
  rw [exec_bind_ok (reportAt_exec r s)]
  simp only [BEq.rfl, if_true]
  cases (reportIn s r).mergeInPlace <;> rfl

theorem mergeReports_exec (hr : s.extra.reportNumber? id = some r)
    (ho : s.extra.reportNumber? other = some o) :
    (mergeReports id other).exec s = (mergeInto r o).exec s := by
  unfold mergeReports
  rw [reportNamed_bind_exec, hr]
  show (Play.reportNamed other >>= mergeInto r).exec s = _
  rw [reportNamed_bind_exec, ho]

/-! ## Edits -/

/-- What edits reports: a new report, messages for properties added to one, a merge. -/
inductive Edit where
  | make (id : String)
  | add (id : String) (messages : List (String × Value))
  | merge (id other : String)

/-- The step that makes an edit. -/
def Edit.step : Edit → Step
  | .make id => .newReport id none
  | .add id messages => .addErrors id (messages.map fun p => (.value (.str p.1), .value p.2))
  | .merge id other => .mergeReport id other

/-- Every report of the session is made of added messages and merged reports. -/
def Made (s : Store State) : Prop :=
  ∀ report ∈ s.extra.reports, ∃ m : Report.Making, report = m.report

theorem Made.at (h : Made s) (r : Nat) : ∃ m : Report.Making, reportIn s r = m.report := by
  unfold reportIn
  cases hr : s.extra.reports[r]? with
  | none => exact ⟨.empty, rfl⟩
  | some report => exact h report (List.mem_of_getElem? hr)

theorem Made.withReport (h : Made s) (m : Report.Making) : Made (withReport s r m.report) := by
  intro report hreport
  rcases List.mem_or_eq_of_mem_set hreport with hold | rfl
  · exact h report hold
  · exact ⟨m, rfl⟩

theorem made_addMessages (r : Nat) (messages : List (String × Value)) (h : Made s) :
    ∃ s', (addMessages r (messages.map fun p => (.value (.str p.1), .value p.2))).exec s =
      (.ok ⟨⟩, s') ∧ Made s' := by
  induction messages generalizing s with
  | nil => exact ⟨s, rfl, h⟩
  | cons p messages ih =>
    obtain ⟨m, hm⟩ := h.at r
    obtain ⟨s', hs', hmade⟩ := ih (h.withReport (r := r) (.add m p.1 p.2))
    refine ⟨s', ?_, hmade⟩
    rw [← hs', Report.Making.report, ← hm]
    rfl

theorem keeps_named {α : Type} {I : Store State → Prop} {f : Nat → Play α}
    (h : ∀ r, Keeps I (f r)) (id : String) : Keeps I (Play.reportNamed id >>= f) := by
  intro s result s' hs hrun
  rw [reportNamed_bind_exec] at hrun
  split at hrun
  · exact h _ s result s' hs hrun
  · obtain ⟨-, rfl⟩ := Prod.mk.inj hrun
    exact hs

theorem made_mergeInto (r o : Nat) : Keeps Made (mergeInto r o) := by
  intro s result s' h hrun
  obtain ⟨m, hm⟩ := h.at r
  by_cases hne : r = o
  · subst hne
    rw [mergeInto_self_exec, hm] at hrun
    split at hrun
    · rename_i merged hmerged
      obtain ⟨rfl, -⟩ := Report.mergeInPlace_eq_some m.tidy.toNamed hmerged
      obtain ⟨-, rfl⟩ := Prod.mk.inj hrun
      exact h.withReport m
    · obtain ⟨-, rfl⟩ := Prod.mk.inj hrun
      exact h
  · obtain ⟨n, hn⟩ := h.at o
    rw [mergeInto_exec hne, hm, hn] at hrun
    obtain ⟨-, rfl⟩ := Prod.mk.inj hrun
    exact h.withReport (.merge m n)

/-- What an edit leaves has only made reports, whether the edit fails or not. -/
theorem made_edit (host : Host State) (place : Place) (e : Edit) :
    Keeps Made (runStep host place e.step) := by
  cases e with
  | make id =>
    intro s result s' h hrun
    obtain ⟨-, rfl⟩ := Prod.mk.inj hrun
    exact fun report hreport => (List.mem_append.mp hreport).elim (h report) fun hnew =>
      ⟨.empty, List.mem_singleton.mp hnew⟩
  | add id messages =>
    refine keeps_named (fun r s result s' h hrun => ?_) id
    obtain ⟨t, ht, hmade⟩ := made_addMessages r messages h
    obtain ⟨-, rfl⟩ := Prod.mk.inj ((exec_bind_ok ht).symm.trans hrun)
    exact hmade
  | merge id other => exact keeps_named (fun r => keeps_named (made_mergeInto r) other) id

/-- What a session has after edits in order. -/
def edited (host : Host State) (place : Place) (edits : List Edit) (s : Store State) :
    Store State :=
  edits.foldl (fun s e => ((runStep host place e.step).exec s).2) s

/-- After any edits of a session every report is made of added messages and merged reports. -/
theorem made_edited (host : Host State) (place : Place) (edits : List Edit) (h : Made s) :
    Made (edited host place edits s) := by
  induction edits generalizing s with
  | nil => exact h
  | cons e edits ih => exact ih (made_edit host place e s _ _ h rfl)

/-! ## The laws of merging -/

open Report

/-- The reports that are made form a monoid under merging. None of them has a property twice or
without messages, so that one is valid iff nothing was recorded in it; a merge has the messages of
the first report and then those of the second one, and the properties in this order, too; the
mapping of a report is the report. In a session, every report is made whatever edits there were,
and the report that is merged into another one is left as it is. -/
theorem reports_form_monoid (a b c : Making) :
    a.report.Tidy ∧
    (a.report.isValid = true ↔ a.recorded = []) ∧
    Report.empty.merge a.report = a.report ∧
    a.report.merge .empty = a.report ∧
    (a.report.merge b.report).merge c.report = a.report.merge (b.report.merge c.report) ∧
    (∀ name, (a.report.merge b.report).under name = a.report.under name ++ b.report.under name) ∧
    Table.keys (a.report.merge b.report).errors = Table.keys a.report.errors ++
      (Table.keys b.report.errors).filter (fun key => !Table.contains a.report.errors key) ∧
    a.report.toMapping = a.report.errors ∧
    (∀ (host : Host State) (place : Place) (edits : List Edit) (s : Store State),
      s.extra.reports = [] →
      ∀ report ∈ (edited host place edits s).extra.reports, ∃ m : Making, report = m.report) ∧
    ∀ (host : Host State) (place : Place) (s : Store State) (id other : String) (r o : Nat),
      s.extra.reportNumber? id = some r → s.extra.reportNumber? other = some o → r ≠ o →
      s.extra.reports[r]? = some a.report → s.extra.reports[o]? = some b.report →
      ∃ s', (runStep host place (.mergeReport id other)).exec s =
          (.ok (.report (a.report.merge b.report) none), s') ∧
        s'.extra.reports[r]? = some (a.report.merge b.report) ∧
        (∀ i ≠ r, s'.extra.reports[i]? = s.extra.reports[i]?) ∧
        s' = { s with extra := { s.extra with reports := s'.extra.reports } } := by
  refine ⟨a.tidy, ?_, ?_, rfl, ?_, ?_, ?_, a.tidy.toNamed.toMapping_eq, ?_, ?_⟩
  · rw [a.report_eq]
    exact isValid_ofPairs _
  · rw [a.report_eq]
    exact ofPairs_merge [] _
  · rw [a.report_eq, b.report_eq, c.report_eq]
    simp only [ofPairs_merge, List.append_assoc]
  · intro name
    rw [a.report_eq, b.report_eq, ofPairs_merge]
    simp only [under_ofPairs, messagesFor_append]
  · rw [a.report_eq, b.report_eq]
    exact keys_ofPairs_merge _ _
  · intro host place edits s hs
    refine made_edited host place edits fun report hreport => ?_
    rw [hs] at hreport
    cases hreport
  · intro host place s id other r o hr ho hne hfirst hsecond
    have hA : reportIn s r = a.report := by rw [reportIn, hfirst]; rfl
    have hB : reportIn s o = b.report := by rw [reportIn, hsecond]; rfl
    refine ⟨withReport s r (a.report.merge b.report), ?_, ?_, fun i hi => ?_, rfl⟩
    · show (mergeReports id other).exec s = _
      rw [mergeReports_exec hr ho, mergeInto_exec hne, hA, hB]
    · have hlt := (List.getElem?_eq_some_iff.mp hfirst).1
      exact List.getElem?_set_self hlt
    · exact List.getElem?_set_ne (Ne.symm hi)

/-- Two reports of a session that share a property: the first one is edited, merged with the second
one, and has the messages of both. -/
theorem reports_form_monoid_pair :
    let host := hostFor 0 0
    let s := edited host ground
      [.make "first", .make "second", .add "first" [("name", .str "short")],
        .add "second" [("age", .str "low"), ("name", .str "odd")]] (.empty (.start 0))
    let a : Making := .add .empty "name" (.str "short")
    let b : Making := .add (.add .empty "age" (.str "low")) "name" (.str "odd")
    ∃ s', (runStep host ground (.mergeReport "first" "second")).exec s =
        (.ok (.report (a.report.merge b.report) none), s') ∧
      s'.extra.reports[0]? = some (a.report.merge b.report) ∧
      s'.extra.reports[1]? = some b.report := by
  intro host s a b
  obtain ⟨-, -, -, -, -, -, -, -, -, hmerge⟩ := reports_form_monoid a b .empty
  obtain ⟨s', hrun, hfirst, hothers, -⟩ := hmerge host ground s "first" "second" 0 1
    (by rfl) (by rfl) (by decide) (by rfl) (by rfl)
  exact ⟨s', hrun, hfirst, (hothers 1 (by decide)).trans (by rfl)⟩

end Session

end Rulebook

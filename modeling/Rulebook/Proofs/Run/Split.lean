import Rulebook.Proofs.Report.Merge
import Rulebook.Proofs.Run.Cancellation
import Rulebook.Proofs.Run.Verdicts

/-!
# Runs in two parts

A validation collects messages, and its report groups them. So a validation with two rows of rules
reports what a validation with the first row reports, merged with what one with the second row
reports; the same goes for a validation that a signal has cut in two.

* `Run.gather_append`: two rows of rules leave their messages one row behind the other.
* `Run.validate_gather`: a validation groups what its rules leave.
* `Run.Phases`: what is known of a row of rules, position by position.
* `Run.validate_append`: the report of two rows of rules.
-/

namespace Rulebook

variable {ω : Type}

namespace Run

open Rulebook.Action

variable {host : Host ω} {mode : Mode} {object : Value}

/-! ## Gathering messages -/

theorem gather_append (validator : Nat) (rs us : List Rule) :
    gather host mode validator object (rs ++ us) = (do
      let ps ← gather host mode validator object rs
      let qs ← gather host mode validator object us
      pure (ps ++ qs)) := by
  induction rs with
  | nil => simp [gather]
  | cons r rs ih =>
    simp only [List.cons_append, gather, ih, bind_assoc, pure_bind, List.append_assoc]

/-- A validation without a signal groups what its rules leave. -/
theorem validate_gather {validator : Nat} {s s' : Store ω} {pairs : List (String × Value)}
    (hnames : ∀ r ∈ s.rulesOf validator, ∃ name, r.property.name = .str name)
    (h : (gather host mode validator object (s.rulesOf validator)).exec s = (.ok pairs, s')) :
    (run host mode validator object none).exec s = (.ok (.ofPairs pairs), s') := by
  refine run_exec ?_
  rw [runRules_gather hnames, exec_bind_ok h]
  rfl

/-- A validation that reports something has gathered it. -/
theorem gather_of_validate {validator : Nat} {s s' : Store ω} {report : Report}
    (hnames : ∀ r ∈ s.rulesOf validator, ∃ name, r.property.name = .str name)
    (h : (run host mode validator object none).exec s = (.ok report, s')) :
    ∃ pairs, (gather host mode validator object (s.rulesOf validator)).exec s = (.ok pairs, s') ∧
      report = .ofPairs pairs := by
  have hall : (runAll host mode validator object none).exec s = (.ok report, s') := by
    cases mode with
    | blocking place => rwa [run, validate_eq] at h
    | awaited place =>
      rw [run, validateAsync_eq] at h
      exact insideCoroutine_ok h
  rw [runAll, exec_bind_ok (exec_get s), runRules_gather hnames] at hall
  obtain ⟨pairs, t, hpairs, hreport⟩ := bind_ok hall
  obtain ⟨hok, rfl⟩ := Prod.mk.inj hreport
  exact ⟨pairs, hpairs, (Except.ok.inj hok).symm⟩

/-! ## One part after the other -/

end Run

/-- One validator has the rules of the two others, one row behind the other; besides their rules
the validators are alike. -/
structure Store.Split (s : Store ω) (v v₁ v₂ : Nat) (rs₁ rs₂ : List Rule) : Prop where
  rules : s.rulesOf v = rs₁ ++ rs₂
  first : s.rulesOf v₁ = rs₁
  second : s.rulesOf v₂ = rs₂
  settings : s.settingsOf v₁ = s.settingsOf v ∧ s.settingsOf v₂ = s.settingsOf v
  className : s.classNameOf v₁ = s.classNameOf v ∧ s.classNameOf v₂ = s.classNameOf v

namespace Run

open Rulebook.Action

variable {host : Host ω} {mode : Mode} {object : Value} {K : Store ω → Prop}

/-- Whether something may be driven in a running loop is up to the settings of the validator. -/
theorem drivenAt_settings {v w : Nat} {s : Store ω} (hsettings : s.settingsOf v = s.settingsOf w)
    (hname : s.classNameOf v = s.classNameOf w) :
    (drivenAt host mode v).exec s = (drivenAt host mode w).exec s := by
  cases mode with
  | awaited place => rfl
  | blocking place =>
    simp only [drivenAt, resolveBlocking]
    split
    · rfl
    · rw [exec_bind_ok (exec_get s), exec_bind_ok (exec_get s), hsettings, hname]

/-- Rules do the same for a validator with the same settings and class name. -/
theorem gather_alike {v w : Nat} (hK : host.Keeps K)
    (hsame : ∀ t, K t → t.settingsOf v = t.settingsOf w ∧ t.classNameOf v = t.classNameOf w)
    (rs : List Rule) :
    Alike (fun s t => s = t ∧ K s) (gather host mode v object rs)
      (gather host mode w object rs) := by
  have hdriven : DrivenAlike (fun s t => s = t ∧ K s) host mode v host mode w := by
    rintro _ c c' hc s _ ⟨rfl, hs⟩
    obtain ⟨hsettings, hname⟩ := hsame s hs
    rw [← exec_bind_congr (drivenAt_settings hsettings hname)]
    exact drivenAlike (Store.sameView_eq K) hK.everywhere mode v _ c c' hc s s ⟨rfl, hs⟩
  induction rs with
  | nil => exact .ret _
  | cons r rs ih =>
    exact (runRule_alike (Store.sameView_eq K) (hK.alike _) hdriven object r).bind
      fun messages => ih.bind fun pairs => .ret _

/-- A validation that does not fault is one with the first row of rules and then one with the
second row; its report is theirs, merged. -/
theorem validate_in_turn {v v₁ v₂ : Nat} {rs₁ rs₂ : List Rule} {s s' : Store ω} {report : Report}
    (hnames : ∀ r ∈ rs₁ ++ rs₂, ∃ name, r.property.name = .str name) (hK : host.Keeps K)
    (hsplit : ∀ t, K t → t.Split v v₁ v₂ rs₁ rs₂) (hs : K s)
    (hrun : (run host mode v object none).exec s = (.ok report, s')) :
    ∃ r₁ r₂ t, (run host mode v₁ object none).exec s = (.ok r₁, t) ∧
      (run host mode v₂ object none).exec t = (.ok r₂, s') ∧ report = r₁.merge r₂ := by
  obtain ⟨hnames₁, hnames₂⟩ := List.forall_mem_append.mp hnames
  have hsame₁ : ∀ t, K t → t.settingsOf v = t.settingsOf v₁ ∧ t.classNameOf v = t.classNameOf v₁ :=
    fun t ht => ⟨(hsplit t ht).settings.1.symm, (hsplit t ht).className.1.symm⟩
  have hsame₂ : ∀ t, K t → t.settingsOf v = t.settingsOf v₂ ∧ t.classNameOf v = t.classNameOf v₂ :=
    fun t ht => ⟨(hsplit t ht).settings.2.symm, (hsplit t ht).className.2.symm⟩
  have hrules := (hsplit s hs).rules
  obtain ⟨pairs, hgather, rfl⟩ := gather_of_validate (by rw [hrules]; exact hnames) hrun
  rw [hrules, gather_append] at hgather
  obtain ⟨ps, t, hps, hgather⟩ := bind_ok hgather
  obtain ⟨qs, t', hqs, hgather⟩ := bind_ok hgather
  obtain ⟨hpairs, rfl⟩ := Prod.mk.inj hgather
  obtain rfl := Except.ok.inj hpairs
  -- The calls of the first row have kept what holds at the start.
  obtain ⟨_, _, _, hps₁, hps', rfl, ht⟩ := gather_alike hK hsame₁ rs₁ s s ⟨rfl, hs⟩
  rw [hps] at hps₁
  obtain ⟨rfl, rfl⟩ := Prod.mk.inj hps₁
  have hqs' : (gather host mode v object rs₂).exec t = (gather host mode v₂ object rs₂).exec t :=
    (gather_alike hK hsame₂ rs₂).exec_eq ht
  refine ⟨.ofPairs ps, .ofPairs qs, t, ?_, ?_, (Report.ofPairs_merge ps qs).symm⟩
  · exact validate_gather (by rw [(hsplit s hs).first]; exact hnames₁)
      (by rw [(hsplit s hs).first]; exact hps')
  · exact validate_gather (by rw [(hsplit t ht).second]; exact hnames₂)
      (by rw [(hsplit t ht).second, ← hqs']; exact hqs)

/-! ## Parts by themselves -/

/-- What is known of a row of rules, for some validators. Before the rule at a position this
position's property holds, and the rule then does not fault, leaves this position's messages, and
a store in which the next property holds. -/
def Phases (host : Host ω) (mode : Mode) (object : Value) (vs : List Nat) (rs : List Rule)
    (I : Nat → Store ω → Prop) (messages : Nat → List Value) : Prop :=
  ∀ i r, rs[i]? = some r → ∀ v ∈ vs,
    Returns (I i) (runRule host mode v object r) (messages i) (I (i + 1))

/-- Messages position by position, each for the name of the rule at its position. -/
def pairsOf (messages : Nat → List Value) : List Rule → List (String × Value)
  | [] => []
  | r :: rs =>
    (messages 0).map (fun m => (r.property.key, m)) ++ pairsOf (fun i => messages (i + 1)) rs

theorem pairsOf_append (messages : Nat → List Value) (rs us : List Rule) :
    pairsOf messages (rs ++ us) =
      pairsOf messages rs ++ pairsOf (fun i => messages (rs.length + i)) us := by
  induction rs generalizing messages with
  | nil => simp [pairsOf]
  | cons r rs ih =>
    simp only [List.cons_append, pairsOf, ih, List.append_assoc, List.length_cons,
      Nat.add_right_comm]

/-- The messages of a row that is cut at a position. -/
theorem pairsOf_take_drop (messages : Nat → List Value) {rs : List Rule} {k : Nat}
    (hk : k ≤ rs.length) :
    pairsOf messages (rs.take k) ++ pairsOf (fun i => messages (k + i)) (rs.drop k) =
      pairsOf messages rs := by
  have happend := pairsOf_append messages (rs.take k) (rs.drop k)
  rw [List.take_append_drop, List.length_take_of_le hk] at happend
  exact happend.symm

namespace Phases

variable {vs : List Nat} {v : Nat} {r : Rule} {rs us : List Rule} {I : Nat → Store ω → Prop}
  {messages : Nat → List Value}

theorem head (h : Phases host mode object vs (r :: rs) I messages) (hv : v ∈ vs) :
    Returns (I 0) (runRule host mode v object r) (messages 0) (I 1) := h 0 r rfl v hv

theorem left (h : Phases host mode object vs (rs ++ us) I messages) :
    Phases host mode object vs rs I messages := fun i r hr =>
  h i r (by rw [List.getElem?_append_left (List.getElem?_eq_some_iff.mp hr).1, hr])

/-- What is known of the rules that are left at a position. -/
theorem drop (h : Phases host mode object vs rs I messages) (k : Nat) :
    Phases host mode object vs (rs.drop k) (fun i => I (k + i)) (fun i => messages (k + i)) :=
  fun i r hr => h (k + i) r (List.getElem?_drop.symm.trans hr)

theorem right (h : Phases host mode object vs (rs ++ us) I messages) :
    Phases host mode object vs us (fun i => I (rs.length + i))
      (fun i => messages (rs.length + i)) := by
  have hright := h.drop rs.length
  rwa [List.drop_left] at hright

theorem tail (h : Phases host mode object vs (r :: rs) I messages) :
    Phases host mode object vs rs (fun i => I (i + 1)) (fun i => messages (i + 1)) :=
  fun i r hr => h (i + 1) r hr

/-- The rules of the row leave its messages. -/
theorem gather (h : Phases host mode object vs rs I messages) (hv : v ∈ vs) :
    Returns (I 0) (gather host mode v object rs) (pairsOf messages rs) (I rs.length) := by
  induction rs generalizing I messages with
  | nil => exact .ret _
  | cons r rs ih => exact (h.head hv).bind ((ih h.tail).bind (.ret _))

/-- A validation with the rules of the row groups its messages. -/
theorem validate (h : Phases host mode object vs rs I messages) (hv : v ∈ vs)
    (hnames : ∀ r ∈ rs, ∃ name, r.property.name = .str name) {s : Store ω} (hs : I 0 s)
    (hrules : s.rulesOf v = rs) :
    ∃ s', (run host mode v object none).exec s =
      (.ok (.ofPairs (pairsOf messages rs)), s') ∧ I rs.length s' := by
  obtain ⟨s', hgather, hs'⟩ := h.gather hv s hs
  subst hrules
  exact ⟨s', validate_gather hnames hgather, hs'⟩

/-- With a signal the rules up to some position leave their messages. If these are not all rules,
the last record of the log says so. -/
theorem runRules (h : Phases host mode object vs rs I messages) (hv : v ∈ vs)
    (hnames : ∀ r ∈ rs, ∃ name, r.property.name = .str name) {g : Nat}
    (hasked : ∀ i s, I i s → I i (s.later g 1))
    (hwrite : ∀ i s text, I i s → I i (s.write .info text)) {s : Store ω} (hs : I 0 s)
    (total done : Nat) (report : Report) :
    ∃ k u, k ≤ rs.length ∧
      (runRules host mode v object (some g) total rs done report).exec s =
        (.ok (report.addPairs (pairsOf messages (rs.take k))), u) ∧ I k u ∧
      (k < rs.length →
        u.log.getLast? = some ⟨.info, cancelledText (u.classNameOf v) (done + k) total⟩) := by
  induction rs generalizing I messages s done report with
  | nil => exact ⟨0, s, Nat.le_refl 0, rfl, hs, fun hlt => absurd hlt (Nat.lt_irrefl 0)⟩
  | cons r rs ih =>
    obtain ⟨⟨name, hname⟩, hrest⟩ := List.forall_mem_cons.mp hnames
    have hkey : r.property.key = name := by rw [Property.key, hname]
    cases hanswer : s.answer g with
    | true =>
      refine ⟨0, _, Nat.zero_le _, runRules_stopped hanswer total r rs done report,
        hwrite 0 _ _ (hasked 0 s hs), fun _ => List.getLast?_concat⟩
    | false =>
      obtain ⟨t, hrule, ht⟩ := h.head hv (s.later g 1) (hasked 0 s hs)
      obtain ⟨k, u, hk, hrun, hu, hlog⟩ := ih h.tail hrest (fun i => hasked (i + 1))
        (fun i => hwrite (i + 1)) ht (done + 1)
        (report.addPairs ((messages 0).map fun m => (name, m)))
      refine ⟨k + 1, u, Nat.succ_le_succ hk, ?_, hu, fun hlt => ?_⟩
      · rw [runRules_asked hanswer, runOn_ok hrule (collect_str hname _), hrun,
          List.take_succ_cons, pairsOf, Report.addPairs_append, hkey]
      · rw [hlog (Nat.lt_of_succ_lt_succ hlt), Nat.add_right_comm, Nat.add_assoc]

/-- A validation with a signal groups the messages of the rules up to some position. -/
theorem validate_signal (h : Phases host mode object vs rs I messages) (hv : v ∈ vs)
    (hnames : ∀ r ∈ rs, ∃ name, r.property.name = .str name) {g : Nat}
    (hasked : ∀ i s, I i s → I i (s.later g 1))
    (hwrite : ∀ i s text, I i s → I i (s.write .info text)) {s : Store ω} (hs : I 0 s)
    (hrules : s.rulesOf v = rs) :
    ∃ k u, k ≤ rs.length ∧
      (Run.run host mode v object (some g)).exec s =
        (.ok (.ofPairs (pairsOf messages (rs.take k))), u) ∧ I k u ∧
      (k < rs.length →
        u.log.getLast? = some ⟨.info, cancelledText (u.classNameOf v) k rs.length⟩) := by
  obtain ⟨k, u, hk, hrun, hu, hlog⟩ :=
    h.runRules hv hnames hasked hwrite hs rs.length 0 .empty
  rw [Nat.zero_add] at hlog
  subst hrules
  exact ⟨k, u, hk, run_exec hrun, hu, hlog⟩

end Phases

/-- A validation with two rows of rules reports what one with the first row reports, merged with
what one with the second row reports. This is so if the three validations run one after the other,
whatever the calls have made of the store in between besides the validators. It is so, too, if they
run by themselves, from any stores in which the rules leave the same messages; a validation that is
cancelled on the way then reports what is missing from the report of the rules that are left. -/
theorem validate_append {v v₁ v₂ : Nat} {rs₁ rs₂ : List Rule}
    (hnames : ∀ r ∈ rs₁ ++ rs₂, ∃ name, r.property.name = .str name) :
    (∀ (K : Store ω → Prop) (s s' : Store ω) (report : Report), host.Keeps K →
      (∀ t, K t → t.Split v v₁ v₂ rs₁ rs₂) → K s →
      (run host mode v object none).exec s = (.ok report, s') →
      ∃ r₁ r₂ t, (run host mode v₁ object none).exec s = (.ok r₁, t) ∧
        (run host mode v₂ object none).exec t = (.ok r₂, s') ∧ report = r₁.merge r₂) ∧
    ∀ (vs : List Nat) (I : Nat → Store ω → Prop) (messages : Nat → List Value),
      Phases host mode object vs (rs₁ ++ rs₂) I messages → v ∈ vs → v₁ ∈ vs → v₂ ∈ vs →
      ∀ s s₁ s₂, I 0 s → I 0 s₁ → I rs₁.length s₂ →
      s.rulesOf v = rs₁ ++ rs₂ → s₁.rulesOf v₁ = rs₁ → s₂.rulesOf v₂ = rs₂ →
      ∃ r₁ r₂ t t₁ t₂, (run host mode v object none).exec s = (.ok (r₁.merge r₂), t) ∧
        (run host mode v₁ object none).exec s₁ = (.ok r₁, t₁) ∧
        (run host mode v₂ object none).exec s₂ = (.ok r₂, t₂) ∧
        ∀ g, (∀ i s, I i s → I i (s.later g 1)) →
          (∀ i s text, I i s → I i (s.write .info text)) →
          ∃ k part u, k ≤ (rs₁ ++ rs₂).length ∧
            (run host mode v object (some g)).exec s = (.ok part, u) ∧ I k u ∧
            (k < (rs₁ ++ rs₂).length → u.log.getLast? =
              some ⟨.info, cancelledText (u.classNameOf v) k (rs₁ ++ rs₂).length⟩) ∧
            ∀ w ∈ vs, ∀ u', I k u' → u'.rulesOf w = (rs₁ ++ rs₂).drop k →
              ∃ rest t', (run host mode w object none).exec u' = (.ok rest, t') ∧
                part.merge rest = r₁.merge r₂ := by
  refine ⟨fun K s s' report hK hsplit hs hrun => validate_in_turn hnames hK hsplit hs hrun, ?_⟩
  intro vs I messages h hv hv₁ hv₂ s s₁ s₂ hs hs₁ hs₂ hrules hrules₁ hrules₂
  obtain ⟨hnames₁, hnames₂⟩ := List.forall_mem_append.mp hnames
  have hmerge := Report.ofPairs_merge (pairsOf messages rs₁)
    (pairsOf (fun i => messages (rs₁.length + i)) rs₂)
  rw [← pairsOf_append] at hmerge
  obtain ⟨t, hrun, -⟩ := h.validate hv hnames hs hrules
  obtain ⟨t₁, hrun₁, -⟩ := h.left.validate hv₁ hnames₁ hs₁ hrules₁
  obtain ⟨t₂, hrun₂, -⟩ := h.right.validate hv₂ hnames₂ hs₂ hrules₂
  refine ⟨_, _, t, t₁, t₂, hmerge.symm ▸ hrun, hrun₁, hrun₂, fun g hasked hwrite => ?_⟩
  obtain ⟨k, u, hk, hpart, hu, hlog⟩ := h.validate_signal hv hnames hasked hwrite hs hrules
  refine ⟨k, _, u, hk, hpart, hu, hlog, fun w hw u' hu' hleft => ?_⟩
  obtain ⟨t', hrest, -⟩ := (h.drop k).validate hw
    (fun r hr => hnames r (List.mem_of_mem_drop hr)) hu' hleft
  refine ⟨_, t', hrest, ?_⟩
  rw [Report.ofPairs_merge, pairsOf_take_drop messages hk, hmerge]

end Run

/-! ## Three small validators -/

/-- The sample with its rules in two parts: the second validator has the first of them, the third
one the other. -/
def Store.parted : Store Unit :=
  { Store.sample with
    validators := [⟨"Sample", none, 0, Store.sample.rulesOf 0⟩,
      ⟨"Sample", none, 0, (Store.sample.rulesOf 0).take 1⟩,
      ⟨"Sample", none, 0, (Store.sample.rulesOf 0).drop 1⟩] }

namespace Run

/-- Whatever else there is in a store, the chain of the sample leaves its messages. -/
theorem parted_phases :
    Phases (Host.signalling 0 (.bool false) : Host Unit) (.blocking .outside) .nameless [0, 1, 2]
      (Store.parted.rulesOf 0) (fun _ s => s.chains = Store.parted.chains)
      (fun i => if i = 0 then [.str "missing", .str "wrong", .str "empty"] else [.str "late"]) := by
  rintro i r hr v - ⟨validators, chains, settings, signals, log, drained, extra⟩ hs
  obtain rfl : chains = Store.parted.chains := hs
  have hi : i < 2 := (List.getElem?_eq_some_iff.mp hr).1
  obtain rfl | rfl : i = 0 ∨ i = 1 := by omega
  · obtain rfl := Option.some.inj hr
    exact ⟨_, rfl, rfl⟩
  · obtain rfl := Option.some.inj hr
    exact ⟨_, rfl, rfl⟩

/-- The two parts one after the other, by themselves, and where the first one has set the signal. -/
theorem validate_append_parted :
    let run := fun (v : Nat) (signal : Option Nat) =>
      Run.run (Host.signalling 0 (.bool false) : Host Unit) (.blocking .outside) v .nameless signal
    (∃ r₁ r₂ t s', (run 0 none).exec Store.parted = (.ok (r₁.merge r₂), s') ∧
      (run 1 none).exec Store.parted = (.ok r₁, t) ∧ (run 2 none).exec t = (.ok r₂, s')) ∧
    ∃ r₁ r₂ t t₁ t₂, (run 0 none).exec Store.parted = (.ok (r₁.merge r₂), t) ∧
      (run 1 none).exec Store.parted = (.ok r₁, t₁) ∧
      (run 2 none).exec Store.parted = (.ok r₂, t₂) ∧
      ∃ k part u, k ≤ 2 ∧ (run 0 (some 0)).exec Store.parted = (.ok part, u) ∧
        (k < 2 → u.log.getLast? = some ⟨.info, cancelledText (u.classNameOf 0) k 2⟩) ∧
        ∀ w ∈ [0, 1, 2], ∀ u' : Store Unit, u'.chains = Store.parted.chains →
          u'.rulesOf w = (Store.parted.rulesOf 0).drop k →
          ∃ rest t', (run w none).exec u' = (.ok rest, t') ∧ part.merge rest = r₁.merge r₂ := by
  intro run
  have hnames : ∀ r ∈ Store.parted.rulesOf 1 ++ Store.parted.rulesOf 2,
      ∃ name, r.property.name = .str name := by
    intro r hr
    have hr : r ∈ Store.sample.rulesOf 0 := hr
    rcases List.mem_pair.mp hr with rfl | rfl <;> exact ⟨"name", rfl⟩
  have hK : (Host.signalling 0 (.bool false)).Keeps fun s : Store Unit =>
      s.validators = Store.parted.validators ∧ s.settings = Store.parted.settings :=
    Host.signalling_keeps (fun _ hs => hs) _
  have hsplit : ∀ t : Store Unit,
      t.validators = Store.parted.validators ∧ t.settings = Store.parted.settings →
      t.Split 0 1 2 (Store.parted.rulesOf 1) (Store.parted.rulesOf 2) := by
    rintro ⟨validators, chains, settings, signals, log, drained, extra⟩ ⟨hvalidators, hsettings⟩
    obtain rfl : validators = Store.parted.validators := hvalidators
    obtain rfl : settings = Store.parted.settings := hsettings
    exact ⟨rfl, rfl, rfl, ⟨rfl, rfl⟩, ⟨rfl, rfl⟩⟩
  obtain ⟨hturn, hparts⟩ := @validate_append Unit (.signalling 0 (.bool false)) (.blocking .outside)
    .nameless
    0 1 2 _ _ hnames
  constructor
  · obtain ⟨r₁, r₂, t, hfirst, hsecond, hmerge⟩ :=
      hturn _ Store.parted _ _ hK hsplit ⟨rfl, rfl⟩ rfl
    refine ⟨r₁, r₂, t, _, ?_, hfirst, hsecond⟩
    rw [← hmerge]
    rfl
  · obtain ⟨r₁, r₂, t, t₁, t₂, hrun, hfirst, hsecond, hcut⟩ :=
      hparts [0, 1, 2] _ _ parted_phases (by simp) (by simp) (by simp) Store.parted Store.parted
        Store.parted rfl rfl rfl rfl rfl rfl
    obtain ⟨k, part, u, hk, hpart, -, hlog, hrest⟩ :=
      hcut 0 (fun _ _ hs => hs) (fun _ _ _ hs => hs)
    exact ⟨r₁, r₂, t, t₁, t₂, hrun, hfirst, hsecond, k, part, u, hk, hpart, hlog, hrest⟩

end Run

end Rulebook

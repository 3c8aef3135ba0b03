import Mathlib
import Rulebook.Proofs.Declare.Plan
import Rulebook.Proofs.Value.Writing

/-!
# The rules of a history

The rules of a validator follow from what was declared on it: in the order of the events that
caused them, they are one rule for each chain, caused by its first check, and one for each check
that may have to be waited for. Calls that fail leave no trace, except where a rule of its own has
been registered and the note of it has a name that cannot be written. A chain keeps growing after
its rule has been registered.

* `History.Event`: a chain is started, or called. `History.play`: what a history leaves.
* `History.Deed`: what an event does. `History.deeds`: those of a history.
* `History.Reflects`: what the deeds so far say about a store. Every event keeps it
  (`History.run_reflects`).
* `History.rules_follow_history`: what a history leaves, in terms of its deeds.
-/

namespace Rulebook

variable {ω : Type}

/-- Whether a rule reads a chain. -/
def Store.isRegistered (s : Store ω) (c : Nat) : Bool := (s.chains[c]?).elim false (·.registered)

namespace History

open Rulebook.Action Chain

/-! ## Events and deeds -/

/-- Something that is tried with a validator. The chains that are started are counted from zero. -/
inductive Event where
  /-- Starts a chain on the property that a selector stands for. -/
  | ruleFor (selector : Value)
  /-- Calls a method of a chain. -/
  | call (b : Nat) (method : String) (args : List Value)

/-- What an event does. -/
inductive Deed where
  | started (p : Property)
  | made (b : Nat) (e : Effect)

/-- An event of the history of a validator, whose first chain has the number `base`. -/
def Event.run (v base : Nat) : Event → Action ω Unit
  | .ruleFor selector => do
    let _ ← Validator.ruleFor v selector
    pure ()
  | .call b method args => Chain.call (base + b) method args

/-- What an event in a store does, if it does anything. -/
def Event.deed (v base : Nat) (s : Store ω) : Event → Option Deed
  | .ruleFor selector => (Property.resolve selector (s.modelOf v)).toOption.map .started
  | .call b method args => do
    let chain ← s.chains[base + b]?
    let d ← (Declaration.ofCall method args).toOption
    let e ← (plan s chain d).toOption
    pure (.made b e)

variable (v base : Nat)

/-- The store that a history leaves. A failing event does not end it. -/
def play (s : Store ω) : List Event → Store ω
  | [] => s
  | event :: events => play ((event.run v base).exec s).2 events

/-- The deeds of a history. -/
def deeds (s : Store ω) : List Event → List Deed
  | [] => []
  | event :: events =>
    (event.deed v base s).toList ++ deeds ((event.run v base).exec s).2 events

/-! ## What deeds say -/

/-- The properties of the chains that were started. -/
def started (ds : List Deed) : List Property :=
  ds.filterMap fun
    | .started p => some p
    | .made _ _ => none

/-- The checks that were declared on a chain. -/
def checksOf (ds : List Deed) (b : Nat) : List Check :=
  ds.filterMap fun
    | .made b' (.check added _) => if b' = b then some added else none
    | _ => none

/-- The rules that a deed causes after others: the first check of a chain causes the rule of the
chain, and a check that may have to be waited for causes its own. -/
def caused (before : List Deed) : Deed → List Rule
  | .made b (.check _ _) =>
    if (checksOf before b).isEmpty then
      ((started before)[b]?).toList.map fun p => .batched p (base + b)
    else []
  | .made b (.rule added text) =>
    ((started before)[b]?).toList.map fun p => .standalone p added text
  | _ => []

/-- The rules that deeds cause after others. -/
def rulesFrom (before : List Deed) : List Deed → List Rule
  | [] => []
  | d :: ds => caused base before d ++ rulesFrom (before ++ [d]) ds

variable {v base}

theorem rulesFrom_append_one (before ds : List Deed) (d : Deed) :
    rulesFrom base before (ds ++ [d]) =
      rulesFrom base before ds ++ caused base (before ++ ds) d := by
  induction ds generalizing before with
  | nil => simp [rulesFrom]
  | cons d' ds ih => simp [rulesFrom, ih, List.append_assoc]

theorem started_append (ds es : List Deed) : started (ds ++ es) = started ds ++ started es :=
  List.filterMap_append

theorem checksOf_append (ds es : List Deed) (b : Nat) :
    checksOf (ds ++ es) b = checksOf ds b ++ checksOf es b :=
  List.filterMap_append

/-! ## The invariant of a history -/

variable (v base) in
/-- The store holds what the deeds say: the chains with their properties and checks, and the rules
of the validator. A chain is registered as soon as it has a check, and it is then read by one
rule. -/
structure Reflects (ds : List Deed) (s : Store ω) : Prop where
  validator : v < s.validators.length
  length : s.chains.length = base + (started ds).length
  chainOf : ∀ b p, (started ds)[b]? = some p → ∃ chain, s.chains[base + b]? = some chain ∧
    chain.validator = v ∧ chain.property = p ∧ chain.registered = !chain.entries.isEmpty ∧
      chain.entries.map (·.check) = checksOf ds b
  unstarted : ∀ b, (started ds).length ≤ b → checksOf ds b = []
  rules : s.rulesOf v = rulesFrom base [] ds
  readers : ∀ b, (s.rulesOf v).countP (Rule.reads (base + b)) =
    if (checksOf ds b).isEmpty then 0 else 1
  batched : ∀ p c, .batched p c ∈ s.rulesOf v →
    ∃ b, c = base + b ∧ (started ds)[b]? = some p

variable {ds : List Deed} {s t : Store ω}

/-- Only validators and chains matter. -/
theorem Reflects.of_eq (h : Reflects v base ds s) (hv : t.validators = s.validators)
    (hc : t.chains = s.chains) : Reflects v base ds t := by
  have hr : t.rulesOf v = s.rulesOf v := by rw [Store.rulesOf, Store.rulesOf, hv]
  refine ⟨hv ▸ h.validator, hc ▸ h.length, hc ▸ h.chainOf, h.unstarted, hr ▸ h.rules,
    hr ▸ h.readers, hr ▸ h.batched⟩

theorem Reflects.start (h : Reflects v base ds s) (p : Property) :
    Reflects v base (ds ++ [.started p]) { s with chains := s.chains ++ [Chain.start v p] } := by
  have hchecks : ∀ b, checksOf (ds ++ [.started p]) b = checksOf ds b := fun b => by
    rw [checksOf_append]
    exact List.append_nil _
  have hstarted : started (ds ++ [.started p]) = started ds ++ [p] := started_append ds _
  refine ⟨h.validator, ?_, ?_, ?_, ?_, ?_, ?_⟩
  · rw [hstarted, List.length_append, List.length_append, h.length]
    rfl
  · intro b q hq
    rw [hchecks]
    rw [hstarted] at hq
    by_cases hb : b < (started ds).length
    · rw [List.getElem?_append_left hb] at hq
      obtain ⟨chain, hc, rest⟩ := h.chainOf b q hq
      refine ⟨chain, ?_, rest⟩
      rw [List.getElem?_append_left (by rw [h.length]; omega), hc]
    · have hlen := (List.getElem?_eq_some_iff.mp hq).1
      rw [List.length_append, List.length_singleton] at hlen
      obtain rfl : b = (started ds).length := by omega
      rw [List.getElem?_concat_length] at hq
      obtain rfl := Option.some.inj hq
      rw [h.unstarted _ (Nat.le_refl _), ← h.length]
      exact ⟨Chain.start v p, List.getElem?_concat_length, rfl, rfl, rfl, rfl⟩
  · intro b hb
    rw [hstarted, List.length_append] at hb
    rw [hchecks]
    exact h.unstarted b (by omega)
  · rw [rulesFrom_append_one, ← h.rules]
    exact (List.append_nil _).symm
  · intro b
    rw [hchecks]
    exact h.readers b
  · intro q c hr
    obtain ⟨b, rfl, hb⟩ := h.batched q c hr
    refine ⟨b, rfl, ?_⟩
    rw [hstarted, List.getElem?_append_left (List.getElem?_eq_some_iff.mp hb).1, hb]

theorem started_made (ds : List Deed) (b : Nat) (e : Effect) :
    started (ds ++ [.made b e]) = started ds :=
  (started_append ds _).trans (List.append_nil _)

theorem checksOf_made (ds : List Deed) (b : Nat) (e : Effect) (b' : Nat) :
    checksOf (ds ++ [.made b e]) b' = checksOf ds b' ++ if b = b' then e.checks else [] := by
  rw [checksOf_append]
  cases e with
  | check added text => by_cases hb : b = b' <;> simp [checksOf, Effect.checks, hb]
  | _ => simp [checksOf, Effect.checks]

/-- The rules that an effect on a chain registers are those that its deed causes. -/
theorem caused_made {b : Nat} {chain : Chain}
    (hp : (started ds)[b]? = some chain.property)
    (hr : chain.registered = !(checksOf ds b).isEmpty) (e : Effect) :
    caused base ds (.made b e) = e.registers (base + b) chain := by
  cases e with
  | check added text =>
    simp only [caused, Effect.registers, hp, hr]
    cases (checksOf ds b).isEmpty <;> rfl
  | rule added text => simp [caused, Effect.registers, hp]
  | _ => rfl

theorem Reflects.make (h : Reflects v base ds s) {b : Nat} {chain : Chain}
    (hc : s.chains[base + b]? = some chain) (e : Effect) :
    Reflects v base (ds ++ [.made b e]) (e.apply (base + b) chain s) := by
  have hb : b < (started ds).length := by
    have := (List.getElem?_eq_some_iff.mp hc).1
    rw [h.length] at this
    omega
  obtain ⟨_, hc', hv, hp, hreg, hchecks⟩ := h.chainOf b _ (List.getElem?_eq_getElem hb)
  obtain rfl := Option.some.inj (hc.symm.trans hc')
  have hprop : (started ds)[b]? = some chain.property := by rw [hp, List.getElem?_eq_getElem hb]
  have hempty : chain.registered = !(checksOf ds b).isEmpty := by
    rw [hreg, ← hchecks, List.isEmpty_map]
  have hrules : (e.apply (base + b) chain s).rulesOf v =
      s.rulesOf v ++ e.registers (base + b) chain := by
    have := rulesOf_apply (s := s) (hv ▸ h.validator) e (base + b)
    rwa [hv] at this
  refine ⟨?_, ?_, ?_, ?_, ?_, ?_, ?_⟩
  · rw [(length_apply e _ _ s).2]
    exact h.validator
  · rw [(length_apply e _ _ s).1, h.length, started_made]
  · intro b' p' hp'
    rw [started_made] at hp'
    rw [chains_apply hc, checksOf_made]
    obtain ⟨other, ho, rest⟩ := h.chainOf b' p' hp'
    by_cases hbb : b = b'
    · subst hbb
      refine ⟨e.after chain, if_pos rfl, ?_, ?_, registered_after hreg e, ?_⟩
      · rw [Effect.validator_after, hv]
      · exact (e.property_after chain).trans (Option.some.inj (hprop.symm.trans hp'))
      · rw [checks_after, hchecks, if_pos rfl]
    · rw [if_neg (by omega), if_neg hbb, List.append_nil]
      exact ⟨other, ho, rest⟩
  · intro b' hb'
    rw [started_made] at hb'
    rw [checksOf_made, h.unstarted b' hb', if_neg (by omega)]
    rfl
  · rw [hrules, h.rules, rulesFrom_append_one, List.nil_append, caused_made hprop hempty]
  · intro b'
    rw [hrules, List.countP_append, h.readers, checksOf_made, countP_registers, hempty]
    by_cases hbb : b = b'
    · subst hbb
      cases hcs : (checksOf ds b).isEmpty <;> cases hes : e.checks <;> simp [hcs]
    · simp [hbb]
  · intro p c hr
    rw [hrules, List.mem_append] at hr
    rw [started_made]
    rcases hr with hr | hr
    · exact h.batched p c hr
    · obtain ⟨rfl, rfl⟩ := mem_registers_batched hr
      exact ⟨b, rfl, hprop⟩

/-! ## One event -/

theorem toOption_eq_some {α : Type} {x : Except Fault α} {a : α} :
    x.toOption = some a ↔ x = .ok a := by
  cases x <;> simp [Except.toOption]

/-- A chain is started by its event iff that does not fail. -/
theorem ruleFor_run (v base : Nat) (selector : Value) (s : Store ω) :
    ((Event.ruleFor selector).run v base).exec s =
      match Property.resolve selector (s.modelOf v) with
      | .ok p => (.ok (), { s with chains := s.chains ++ [Chain.start v p] })
      | .error f => (.error f, s) := by
  have h := ruleFor_exec v selector s
  unfold Event.run
  cases hp : Property.resolve selector (s.modelOf v) with
  | ok p =>
    rw [hp] at h
    rw [exec_bind_ok h]
    rfl
  | error f =>
    rw [hp] at h
    exact exec_bind_error h

/-- What comes of an event: it has a deed, and gives what comes of noting it, or it has none and
fails. -/
theorem run_cases (v base : Nat) (event : Event) (s : Store ω) :
    (∃ p, event.deed v base s = some (.started p) ∧
      (event.run v base).exec s =
        (.ok (), { s with chains := s.chains ++ [Chain.start v p] })) ∨
    (∃ b chain e drained, event.deed v base s = some (.made b e) ∧
      s.chains[base + b]? = some chain ∧ (event.run v base).exec s =
        (e.noted chain, e.apply (base + b) chain { s with drained := drained })) ∨
    (event.deed v base s = none ∧ ∃ f drained,
      (event.run v base).exec s = (.error f, { s with drained := drained })) := by
  cases event with
  | ruleFor selector =>
    rw [ruleFor_run, Event.deed]
    cases Property.resolve selector (s.modelOf v) with
    | ok p => exact .inl ⟨p, rfl, rfl⟩
    | error f => exact .inr (.inr ⟨rfl, f, s.drained, rfl⟩)
  | call b method args =>
    rw [Event.run, call_exec, Event.deed]
    cases hd : Declaration.ofCall method args with
    | error f =>
      refine .inr (.inr ⟨?_, f, s.drained, rfl⟩)
      cases s.chains[base + b]? <;> rfl
    | ok d =>
      simp only [declare_exec]
      cases hc : s.chains[base + b]? with
      | none => exact .inr (.inr ⟨rfl, _, s.drained, rfl⟩)
      | some chain =>
        obtain ⟨drained, hplanned⟩ := planned_eq s d
        simp only [hplanned]
        cases he : plan s chain d with
        | error f => exact .inr (.inr ⟨by simp [Except.toOption, he], f, drained, rfl⟩)
        | ok e =>
          exact .inr (.inl ⟨b, chain, e, drained, by simp [Except.toOption, he], hc, rfl⟩)

/-- The store still holds what the deeds say after one more event. -/
theorem run_reflects (h : Reflects v base ds s) (event : Event) :
    Reflects v base (ds ++ (event.deed v base s).toList) ((event.run v base).exec s).2 := by
  rcases run_cases v base event s with ⟨p, hdeed, hrun⟩ |
    ⟨b, chain, e, drained, hdeed, hc, hrun⟩ | ⟨hdeed, f, drained, hrun⟩
  · rw [hdeed, hrun]
    exact h.start p
  · have hs : Reflects v base ds { s with drained := drained } := h.of_eq rfl rfl
    rw [hdeed, hrun]
    exact hs.make hc e
  · rw [hdeed, hrun]
    exact (List.append_nil ds).symm ▸ h.of_eq rfl rfl

theorem play_reflects (h : Reflects v base ds s) (events : List Event) :
    Reflects v base (ds ++ deeds v base s events) (play v base s events) := by
  induction events generalizing ds s with
  | nil => exact (List.append_nil ds).symm ▸ h
  | cons event events ih =>
    rw [deeds, ← List.append_assoc]
    exact ih (run_reflects h event)

/-! ## Histories -/

theorem deeds_append (s : Store ω) (earlier later : List Event) :
    deeds v base s (earlier ++ later) =
      deeds v base s earlier ++ deeds v base (play v base s earlier) later := by
  induction earlier generalizing s with
  | nil => rfl
  | cons event earlier ih => simp [deeds, play, ih, List.append_assoc]

/-- A chain is registered iff it has a check. -/
theorem Reflects.isRegistered_iff (h : Reflects v base ds s) (b : Nat) :
    s.isRegistered (base + b) = true ↔ checksOf ds b ≠ [] := by
  by_cases hb : b < (started ds).length
  · obtain ⟨chain, hc, -, -, hreg, hchecks⟩ := h.chainOf b _ (List.getElem?_eq_getElem hb)
    rw [Store.isRegistered, hc, ← hchecks]
    simp [hreg]
  · have hc : s.chains[base + b]? = none :=
      List.getElem?_eq_none_iff.mpr (by rw [h.length]; omega)
    rw [Store.isRegistered, hc, h.unstarted b (Nat.le_of_not_lt hb)]
    simp

/-- What a deed has to do with its event. -/
def Event.FitsTo (v base : Nat) (s : Store ω) : Event → Deed → Prop
  | .ruleFor selector, .started p => Property.resolve selector (s.modelOf v) = .ok p
  | .call b method args, .made b' e => b' = b ∧ ∃ chain d,
      s.chains[base + b]? = some chain ∧ Declaration.ofCall method args = .ok d ∧
        e.FitsTo s chain d
  | _, _ => False

theorem deed_fitsTo {event : Event} {d : Deed} (h : event.deed v base s = some d) :
    event.FitsTo v base s d := by
  cases event with
  | ruleFor selector =>
    rw [Event.deed] at h
    cases hp : Property.resolve selector (s.modelOf v) with
    | error f => rw [hp] at h; cases h
    | ok p => rw [hp] at h; cases h; exact hp
  | call b method args =>
    simp only [Event.deed, Option.bind_eq_bind, Option.bind_eq_some_iff] at h
    obtain ⟨chain, hc, declared, hd, e, he, hdeed⟩ := h
    cases hdeed
    exact ⟨rfl, chain, declared, hc, toOption_eq_some.mp hd, plan_fitsTo (toOption_eq_some.mp he)⟩

/-- A deed that registers a rule of its own whose note has a name that cannot be written, for this
fault. -/
def Deed.Unwritten (base : Nat) (s : Store ω) (f : Fault) (d : Deed) : Prop :=
  ∃ b chain added text, d = .made b (.rule added text) ∧ s.chains[base + b]? = some chain ∧
    ∃ name ∈ namesOf chain.property added, name.text = .error f

/-- An event that does not fail has a deed. -/
theorem deed_of_ok {event : Event} (h : (event.run v base).exec s = (.ok (), t)) :
    ∃ d, event.deed v base s = some d := by
  rcases run_cases v base event s with ⟨p, hdeed, -⟩ | ⟨b, chain, e, _, hdeed, -⟩ |
    ⟨-, f, drained, hrun⟩
  · exact ⟨_, hdeed⟩
  · exact ⟨_, hdeed⟩
  · rw [hrun] at h
    cases h

/-- An event that fails has no deed, or one whose note cannot be written. -/
theorem deed_of_error {event : Event} {f : Fault}
    (h : (event.run v base).exec s = (.error f, t)) :
    event.deed v base s = none ∨ ∃ d, event.deed v base s = some d ∧ d.Unwritten base s f := by
  rcases run_cases v base event s with ⟨p, -, hrun⟩ |
    ⟨b, chain, e, drained, hdeed, hc, hrun⟩ | ⟨hdeed, -⟩
  · rw [hrun] at h
    cases h
  · rw [hrun] at h
    obtain ⟨added, text, rfl, hname⟩ := noted_error (Prod.mk.inj h).1
    exact .inr ⟨_, hdeed, b, chain, added, text, rfl, hc, hname⟩
  · exact .inl hdeed

/-- Before its first event a history says nothing of a validator without rules. -/
theorem reflects_start (hv : (s.validators[v]?).map (·.rules) = some [])
    (hbase : s.chains.length = base) : Reflects v base [] s := by
  obtain ⟨validator, hget, hrules⟩ := Option.map_eq_some_iff.mp hv
  have hr : s.rulesOf v = [] := by
    rw [Store.rulesOf, hget]
    exact hrules
  refine ⟨(List.getElem?_eq_some_iff.mp hget).1, hbase, fun b p hb => ?_, fun _ _ => rfl, hr,
    fun b => ?_, fun p c hc => ?_⟩
  · cases hb
  · rw [hr]
    rfl
  · rw [hr] at hc
    cases hc

/-- Whatever is tried with a validator that has no rules yet, in whatever order and failing
anywhere, its rules are those that the deeds cause, in their order. The rule of a chain reads the
checks that were declared on the chain, all of them and in order. A chain is registered iff it has
a check, iff exactly one rule reads it, and then for good. Every event that did not fail has a deed,
and one that failed has none, unless it has registered a rule of its own whose note has a name
that cannot be written. -/
theorem rules_follow_history {s : Store ω} {v base : Nat}
    (hv : (s.validators[v]?).map (·.rules) = some []) (hbase : s.chains.length = base)
    (events : List Event) :
    (play v base s events).rulesOf v = rulesFrom base [] (deeds v base s events) ∧
      (∀ p c, .batched p c ∈ (play v base s events).rulesOf v → ∃ b, c = base + b ∧
        (started (deeds v base s events))[b]? = some p ∧
        ((play v base s events).entriesOf c).map (·.check) =
          checksOf (deeds v base s events) b) ∧
      (∀ b < (started (deeds v base s events)).length,
        ((play v base s events).isRegistered (base + b) = true ↔
          ((play v base s events).entriesOf (base + b)).length ≠ 0) ∧
        ((play v base s events).isRegistered (base + b) = true ↔
          ((play v base s events).rulesOf v).countP (Rule.reads (base + b)) = 1) ∧
        ((play v base s events).entriesOf (base + b)).map (·.check) =
          checksOf (deeds v base s events) b) ∧
      (∀ earlier later, events = earlier ++ later → ∀ b,
        (play v base s earlier).isRegistered (base + b) = true →
          (play v base s events).isRegistered (base + b) = true) ∧
      ∀ earlier event later, events = earlier ++ event :: later → ∀ t,
        ((event.run v base).exec (play v base s earlier) = (.ok (), t) →
          ∃ d, event.FitsTo v base (play v base s earlier) d ∧
            deeds v base s events = deeds v base s earlier ++ d :: deeds v base t later) ∧
        ∀ f, (event.run v base).exec (play v base s earlier) = (.error f, t) →
          deeds v base s events = deeds v base s earlier ++ deeds v base t later ∨
            ∃ d, event.FitsTo v base (play v base s earlier) d ∧
              d.Unwritten base (play v base s earlier) f ∧
              deeds v base s events = deeds v base s earlier ++ d :: deeds v base t later := by
  have hstart := reflects_start hv hbase
  have hend : Reflects v base (deeds v base s events) (play v base s events) :=
    play_reflects hstart events
  refine ⟨hend.rules, ?_, ?_, ?_, ?_⟩
  · intro p c hr
    obtain ⟨b, rfl, hb⟩ := hend.batched p c hr
    obtain ⟨chain, hc, -, -, -, hchecks⟩ := hend.chainOf b p hb
    refine ⟨b, rfl, hb, ?_⟩
    rw [Store.entriesOf, hc, ← hchecks]
  · intro b hb
    obtain ⟨chain, hc, -, -, -, hchecks⟩ := hend.chainOf b _ (List.getElem?_eq_getElem hb)
    have hentries : (play v base s events).entriesOf (base + b) = chain.entries := by
      rw [Store.entriesOf, hc]
    refine ⟨?_, ?_, ?_⟩
    · rw [hend.isRegistered_iff, hentries, ← hchecks]
      simp
    · rw [hend.isRegistered_iff, hend.readers]
      cases checksOf (deeds v base s events) b <;> simp
    · rw [hentries, hchecks]
  · rintro earlier later rfl b hreg
    rw [(play_reflects hstart earlier).isRegistered_iff] at hreg
    rw [hend.isRegistered_iff, deeds_append, checksOf_append]
    exact fun h => hreg (List.append_eq_nil_iff.mp h).1
  · rintro earlier event later rfl t
    constructor
    · intro ht
      obtain ⟨d, hd⟩ := deed_of_ok ht
      refine ⟨d, deed_fitsTo hd, ?_⟩
      rw [deeds_append, deeds, hd, ht]
      rfl
    · intro f ht
      rcases deed_of_error ht with hd | ⟨d, hd, hunwritten⟩
      · refine .inl ?_
        rw [deeds_append, deeds, hd, ht]
        rfl
      · refine .inr ⟨d, deed_fitsTo hd, hunwritten, ?_⟩
        rw [deeds_append, deeds, hd, ht]
        rfl

/-- A store with a validator that has no rules. -/
def fresh : Store Unit where
  validators := [⟨"Sample", none, 0, []⟩]
  chains := []
  settings := [.default]
  signals := []
  log := []
  drained := []
  extra := ()

/-- What reads the properties of the sample. -/
def reader : Value := .callable ⟨0, "reads", none, none⟩

/-- What the sample waits for. -/
def waiter : Value := .callable ⟨1, "waits", none, some "coroutine"⟩

/-- Two chains are called in turn. Two of the calls fail. -/
def sampleEvents : List Event := [
  .ruleFor (.property (.str "name") reader .any),
  .ruleFor (.property (.str "age") reader .any),
  .call 0 "not_null" [],
  .call 1 "positive" [.none],
  .call 1 "must_async" [waiter, .str "late"],
  .call 1 "positive" [],
  .call 1 "must_async" [.none],
  .call 0 "not_empty" []]

set_option maxRecDepth 2000 in
theorem rules_follow_sample :
    (play 0 0 fresh sampleEvents).rulesOf 0 =
        [.batched ⟨.str "name", .call reader, .any⟩ 0,
          .standalone ⟨.str "age", .call reader, .any⟩ (.own waiter) (.str "late"),
          .batched ⟨.str "age", .call reader, .any⟩ 1] ∧
      ((play 0 0 fresh sampleEvents).entriesOf 0).map (·.check) = [.notNull, .notEmpty] := by
  have h := rules_follow_history (s := fresh) (v := 0) rfl rfl sampleEvents
  refine ⟨h.1.trans (by cbv), ((h.2.2.1 0 (by cbv)).2.2).trans (by cbv)⟩

set_option maxRecDepth 2000 in
/-- On a property whose name cannot be written a call fails and registers its rule. -/
theorem rules_outlive_failure :
    let start := Event.ruleFor (.property .unwritten reader .any)
    let late := Event.call 0 "must_async" [waiter, .str "late"]
    ((late.run 0 0).exec (play 0 0 fresh [start])).1 = .error (.noAttribute "Flag" "on") ∧
      (play 0 0 fresh [start, late]).rulesOf 0 =
        [.standalone ⟨.unwritten, .call reader, .any⟩ (.own waiter) (.str "late")] := by
  constructor <;> cbv

end History

end Rulebook

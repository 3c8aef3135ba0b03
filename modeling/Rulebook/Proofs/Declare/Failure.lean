import Mathlib
import Rulebook.Proofs.Declare.Plan
import Rulebook.Proofs.Run.Alike
import Rulebook.Proofs.Template
import Rulebook.Proofs.Value.Writing

/-!
# Declarations that fail

A declaration does what can fail before it changes anything, so one that fails leaves the store as
it was. The one thing that happens before the message is written is that the items of an iterator
are taken; but then the message names only the property, and writing it cannot fail. What can fail
afterwards is the note of a rule of its own, which names the properties of the rule: on a property
that is named by a text it fails only for another property. Calls one after the other stop at the
first one that fails, and what the calls before it did stays.

* `Check.isPlain_template`: the message of a check without operands names only the property.
* `Chain.call_failed`: a call that fails changes nothing, a rule that cannot be noted apart.
* `Chain.callAll_failed`: of calls one after the other, those before the one that fails have had
  all their effects, and the others have had none, with that exception.
-/

namespace Rulebook

variable {ω : Type}

open Rulebook.Action

/-- The message of a check without operands names only the property. -/
theorem Check.isPlain_template {c : Check} (h : c.operands = []) :
    Template.IsPlain c.template := by
  cases c with
  | minLength | maxLength | startsWith | endsWith | contains | equalTo | greaterThan | lessThan
  | between | hasCount => cases h
  | _ =>
    rw [template]
    decide +kernel

/-- The chain, if there is one, is on a property whose name is a text. -/
def Store.NamedByText (c : Nat) (s : Store ω) : Prop :=
  ∀ chain, s.chains[c]? = some chain → ∃ name, chain.property.name = .str name

namespace Chain

/-- Nothing fails in planning a check that any property can have and that has no operands. -/
theorem planCheck_plain {p : Property} {name : String} (hname : p.name = .str name) {c : Check}
    (hany : c.numericName? = none) (hplain : c.operands = []) :
    ∃ text, planCheck p c = .ok (.check c text) := by
  have htext := Template.fill_plain (Check.isPlain_template hplain) name
  rw [planCheck, requireNumeric, hany, checkMessage, message, hname, hplain]
  exact ⟨_, by rw [ok_then]; exact congrArg (· >>= _) htext⟩

/-- Where a plan fails nothing has been used up: an iterator gives its items to a check whose
message cannot fail. -/
theorem planned_failed {s : Store ω} {chain : Chain} {name : String}
    (hname : chain.property.name = .str name) {d : Declaration} {f : Fault}
    (h : plan s chain d = .error f) : planned s d = s := by
  cases d with
  | isIn values =>
    cases values with
    | iterator id items =>
      obtain ⟨text, htext⟩ := planCheck_plain hname (c := .isIn (items.drop
        ((s.drained.lookup id).getD 0))) rfl rfl
      rw [plan, Store.itemsOf, ok_then, htext] at h
      cases h
    | _ => rfl
  | _ => rfl

/-- Only a declaration on two properties registers a rule on another property. -/
theorem planned_dependent {s : Store ω} {chain : Chain} {d : Declaration} {p : Property}
    {predicate text : Value} (h : plan s chain d = .ok (.rule (.dependent p predicate) text)) :
    ∃ other given, d = .dependent other predicate given ∧
      Property.resolve other (s.modelOf chain.validator) = .ok p := by
  have hfits := plan_fitsTo h
  cases d with
  | dependent other f given =>
    obtain ⟨q, text', hq, he⟩ := hfits
    obtain ⟨⟨rfl, rfl⟩, -⟩ := Effect.rule.inj he |>.imp_left StandaloneCheck.dependent.inj
    exact ⟨other, given, rfl, hq⟩
  | check added => obtain ⟨_, he⟩ := hfits; cases he
  | isIn values => obtain ⟨_, _, _, he⟩ := hfits; cases he
  | must f => cases f <;> (obtain ⟨_, he⟩ := hfits; cases he)
  | mustAsync f given => obtain ⟨_, he⟩ := hfits; cases he
  | withMessage given => rcases hfits with he | ⟨_, he⟩ <;> cases he

/-- A call that fails changes nothing, unless it has registered a rule on another property whose
name cannot be written into the note of the rule. -/
theorem call_failed {s t : Store ω} {c : Nat} (hname : s.NamedByText c) {method : String}
    {args : List Value} {f : Fault} (h : (call c method args).exec s = (.error f, t)) :
    t = s ∨ ∃ chain other predicate given p text, s.chains[c]? = some chain ∧
      Declaration.ofCall method args = .ok (.dependent other predicate given) ∧
      Property.resolve other (s.modelOf chain.validator) = .ok p ∧ p.name.text = .error f ∧
      t = s.addRule chain.validator (.standalone chain.property (.dependent p predicate) text) := by
  rcases call_error h with rfl |
    ⟨chain, d, hc, hd, ⟨hplan, rfl⟩ | ⟨added, text, hplan, ⟨name, hmem, hunwritten⟩, rfl⟩⟩
  · exact .inl rfl
  · obtain ⟨name, hname⟩ := hname chain hc
    exact .inl (planned_failed hname hplan)
  · obtain ⟨own, hown⟩ := hname chain hc
    have hother : name ≠ chain.property.name := by
      rintro rfl
      rw [hown] at hunwritten
      cases hunwritten
    -- Only a rule on two properties notes another name than that of the chain.
    cases added with
    | own predicate => exact absurd (List.mem_singleton.mp hmem) hother
    | dependent p predicate =>
      obtain rfl := List.mem_singleton.mp ((List.mem_cons.mp hmem).resolve_left hother)
      obtain ⟨other, given, rfl, hp⟩ := planned_dependent hplan
      exact .inr ⟨chain, other, predicate, given, p, text, hc, hd, hp, hunwritten, rfl⟩

/-- A call leaves the property of its chain. -/
theorem call_keeps_name (c : Nat) (method : String) (args : List Value) :
    Action.Keeps (Store.NamedByText c) (call c method args : Action ω Unit) := by
  intro s r t hname h chain' hchain'
  rcases call_cases h with ⟨chain, d, e, hc, -, -, -, rfl⟩ | ⟨f, drained, -, rfl⟩
  · obtain ⟨drained, hplanned⟩ := planned_eq s d
    rw [hplanned, chains_apply (by exact hc), if_pos rfl] at hchain'
    obtain rfl := Option.some.inj hchain'
    rw [Effect.property_after]
    exact hname chain hc
  · exact hname chain' hchain'

/-- Calls one after the other. The first one that fails ends them. -/
def callAll (c : Nat) : List (String × List Value) → Action ω Unit
  | [] => pure ()
  | (method, args) :: rest => do
    call c method args
    callAll c rest

/-- If calls one after the other fail, one of them does: those before it have had all their
effects, and it and those behind it have had none. The one exception is a rule on another property
whose name cannot be written: it has been registered when the note of it fails. -/
theorem callAll_failed {c : Nat} {calls : List (String × List Value)} {s t : Store ω} {f : Fault}
    (hname : s.NamedByText c) (h : (callAll c calls).exec s = (.error f, t)) :
    ∃ done method args rest u, calls = done ++ (method, args) :: rest ∧
      (callAll c done).exec s = (.ok (), u) ∧ (call c method args).exec u = (.error f, t) ∧
      (t = u ∨ ∃ chain other predicate given p text, u.chains[c]? = some chain ∧
        Declaration.ofCall method args = .ok (.dependent other predicate given) ∧
        Property.resolve other (u.modelOf chain.validator) = .ok p ∧ p.name.text = .error f ∧
        t = u.addRule chain.validator
          (.standalone chain.property (.dependent p predicate) text)) := by
  induction calls generalizing s with
  | nil => cases (Prod.mk.inj h).1
  | cons first rest ih =>
    obtain ⟨method, args⟩ := first
    rcases bind_error h with hfirst | ⟨⟨⟩, s', hfirst, hrest⟩
    · exact ⟨[], method, args, rest, s, rfl, rfl, hfirst, call_failed hname hfirst⟩
    · obtain ⟨done, method', args', rest', u, rfl, hdone, hfails, hleft⟩ :=
        ih (call_keeps_name c method args s _ s' hname hfirst) hrest
      exact ⟨(method, args) :: done, method', args', rest', u, rfl,
        (exec_bind_ok hfirst).trans hdone, hfails, hleft⟩

/-- Calls of which the third one fails, since a number has no items. -/
def sampleCalls : List (String × List Value) :=
  [("with_message", [.str "changed"]),
    ("must_async", [.callable ⟨1, "waits", none, some "coroutine"⟩, .str "later"]),
    ("is_in", [.int 3]), ("email", [])]

theorem namedByText_sample : Store.sample.NamedByText 0 := by
  intro chain h
  cases h
  exact ⟨"name", rfl⟩

set_option maxRecDepth 4000 in
theorem callAll_failed_sample :
    ∃ t, (callAll 0 sampleCalls).exec .sample = (.error (.notIterable "int"), t) ∧
      (t.entriesOf 0).map (·.message) = [.str "missing", .str "wrong", .str "changed"] ∧
      (t.rulesOf 0).length = 3 ∧
      ∃ done method args rest, sampleCalls = done ++ (method, args) :: rest ∧
        (callAll 0 done).exec .sample = (.ok (), t) ∧
        (call 0 method args).exec t = (.error (.notIterable "int"), t) := by
  have hfails : ((callAll 0 sampleCalls).exec Store.sample).1 = .error (.notIterable "int") := by
    cbv
  have hentries : (((callAll 0 sampleCalls).exec Store.sample).2.entriesOf 0).map (·.message) =
      [.str "missing", .str "wrong", .str "changed"] := by cbv
  have hrules : (((callAll 0 sampleCalls).exec Store.sample).2.rulesOf 0).length = 3 := by cbv
  have h : (callAll 0 sampleCalls).exec Store.sample =
      (.error (.notIterable "int"), ((callAll 0 sampleCalls).exec Store.sample).2) :=
    Prod.ext hfails rfl
  refine ⟨_, h, hentries, hrules, ?_⟩
  obtain ⟨done, method, args, rest, u, hcalls, hdone, hcall, rfl |
    ⟨_, _, _, _, p, _, _, _, _, hunwritten, _⟩⟩ := callAll_failed namedByText_sample h
  · exact ⟨done, method, args, rest, hcalls, hdone, hcall⟩
  · exact (Value.text_error hunwritten).elim

/-- A call that fails and leaves a rule: the name of the other property cannot be written. -/
theorem callAll_leaves_rule :
    let calls := [("dependent_rule_async",
      [.property .unwritten (.callable ⟨0, "reads", none, none⟩) .any,
        .callable ⟨1, "waits", none, none⟩, .str "late"])]
    ((callAll 0 calls).exec Store.sample).1 = .error (.noAttribute "Flag" "on") ∧
      (((callAll 0 calls).exec Store.sample).2.rulesOf 0).length =
        (Store.sample.rulesOf 0).length + 1 := by
  constructor <;> cbv

end Chain

end Rulebook

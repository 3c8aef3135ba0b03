import Mathlib
import Rulebook.Proofs.Declare.Plan
import Rulebook.Proofs.Run.Alike
import Rulebook.Proofs.Template
import Rulebook.Settings.Mapping

/-!
# The default message of the settings

Asking for no message gives the last check of a chain the default message of the settings, filled
in with the name of the property. Settings with a template that cannot be read, or that has other
fields, cannot be made. A template that passes can still fail to be filled in: the conversion and
the format of its fields are looked at only then.

* `Chain.restoreMessage_exec`: what asking for no message does.
* `Chain.restoreMessage_iff`: it does not fail iff all fields of the template can be filled in; a
  plain template never fails.
* `Chain.restoreMessage_nested`: a template that settings are made with, and that fails.
-/

namespace Rulebook

variable {ω : Type}

/-- Settings are made if their template passes, and they keep it. -/
theorem Settings.make_ok {clock : Clock} {template : String} {blocking : Value}
    {settings : Settings} (h : make clock (.str template) blocking = .ok settings) :
    Template.check template = .ok () ∧ settings.defaultMessage = .str template := by
  simp only [make] at h
  cases hcheck : Template.check template with
  | error e => rw [hcheck] at h; cases h
  | ok _ => rw [hcheck] at h; cases h; exact ⟨rfl, rfl⟩

namespace Chain

open Rulebook.Action

theorem ofCall_withMessage (given : Value) :
    Declaration.ofCall "with_message" [given] = .ok (.withMessage given) := by
  rfl

/-- Asking for no message on a chain with checks fills in the default message. -/
theorem restoreMessage_exec {s : Store ω} {c : Nat} {chain : Chain} {template name : String}
    (hc : s.chains[c]? = some chain) (hchecks : chain.entries ≠ [])
    (hmessage : (s.settingsOf chain.validator).defaultMessage = .str template)
    (hname : chain.property.name = .str name) :
    (call c "with_message" [.none]).exec s =
      match Template.fill template (Template.fieldOperands name) with
      | .ok text => (.ok (), (Effect.message (.str text)).apply c chain s)
      | .error f => (.error f, s) := by
  have hplan : plan s chain (.withMessage .none) =
      (Template.fill template (Template.fieldOperands name)).map fun text =>
        .message (.str text) := by
    simp only [plan, List.isEmpty_eq_false_iff.mpr hchecks, messageOr, defaultMessage, hmessage,
      message, hname]
    show ((Template.fill template (Template.fieldOperands name)).map Value.str).map
      Effect.message = _
    cases Template.fill template (Template.fieldOperands name) <;> rfl
  rw [call_exec, ofCall_withMessage]
  simp only [declare_exec, hc, hplan]
  cases Template.fill template (Template.fieldOperands name) <;> rfl

/-- With settings that were made with a template, asking for no message on a chain with checks
gives the last one a message if and only if all fields of the template can be filled in with the
name of the property; otherwise it fails and changes nothing. The fields of a plain template can
always be filled in. -/
theorem restoreMessage_iff {s : Store ω} {c : Nat} {chain : Chain} {clock : Clock}
    {template name : String} {blocking : Value}
    (hsettings : Settings.make clock (.str template) blocking =
      .ok (s.settingsOf chain.validator))
    (hc : s.chains[c]? = some chain) (hchecks : chain.entries ≠ [])
    (hname : chain.property.name = .str name) :
    ((∃ text, (call c "with_message" [.none]).exec s =
        (.ok (), s.modifyChain c fun ch =>
          { ch with entries := replaceLast ch.entries (.str text) })) ↔
      Template.Fits name template) ∧
    ((∃ f, (call c "with_message" [.none]).exec s = (.error f, s)) ↔
      ¬Template.Fits name template) ∧
    (Template.IsPlain template → Template.Fits name template) := by
  obtain ⟨hcheck, hmessage⟩ := Settings.make_ok hsettings
  refine ⟨?_, ?_, fun hplain => hplain.fits name⟩ <;>
    rw [restoreMessage_exec hc hchecks hmessage hname, ← Template.fill_ok_iff hcheck name]
  · cases Template.fill template (Template.fieldOperands name) with
    | error f => simp
    | ok text => exact iff_of_true ⟨text, rfl⟩ ⟨text, rfl⟩
  · cases Template.fill template (Template.fieldOperands name) with
    | error f => simp
    | ok text => simp

end Chain

/-! ## A template that passes and fails -/

/-- A validator with a check on a property, and settings with a template. -/
def Store.templated (template : String) : Store Unit where
  validators := [⟨"Sample", none, 0, [.batched (.named "name") 0]⟩]
  chains := [⟨0, .named "name", [⟨.notNull, .str "missing"⟩], true⟩]
  settings := [⟨.system, .str template, .bool true⟩]
  signals := []
  log := []
  drained := []
  extra := ()

namespace Chain

open Rulebook.Action

set_option maxRecDepth 4000 in
theorem restoreMessage_shown :
    Settings.make .system (.str "<\x7bfield!r:>8\x7d>") (.bool true) =
        .ok ((Store.templated "<\x7bfield!r:>8\x7d>").settingsOf 0) ∧
      ∃ text, (call 0 "with_message" [.none]).exec (.templated "<\x7bfield!r:>8\x7d>") =
        (.ok (), (Store.templated "<\x7bfield!r:>8\x7d>").modifyChain 0 fun ch =>
          { ch with entries := replaceLast ch.entries (.str text) }) := by
  have hmake : Settings.make .system (.str "<\x7bfield!r:>8\x7d>") (.bool true) =
      .ok ((Store.templated "<\x7bfield!r:>8\x7d>").settingsOf 0) := by cbv
  have hread : Template.read "<\x7bfield!r:>8\x7d>".toList =
      ⟨[.char '<', .field ⟨Template.fieldName.toList, some 'r', [ '>', '8']⟩, .char '>'], none⟩ :=
    by cbv
  have hfits : Template.Fits "name" "<\x7bfield!r:>8\x7d>" := by
    intro f hf
    rw [Template.mem_fields, hread] at hf
    simp only [List.mem_cons, List.not_mem_nil, or_false, reduceCtorEq, false_or,
      Template.Piece.field.injEq] at hf
    subst hf
    have hformat : Template.readTextFormat [ '>', '8'] =
        .ok ⟨' ', '>', none, false, false, some 8, none, none, 's'⟩ := by cbv
    exact ⟨by simp, [ '>', '8'], rfl, .inr ⟨_, hformat, rfl, rfl, rfl, rfl, by decide⟩⟩
  exact ⟨hmake, (restoreMessage_iff hmake rfl (by simp) rfl).1.mpr hfits⟩

set_option maxRecDepth 4000 in
/-- Settings are made with a template whose field has a field in its format that nobody knows, and
asking for the default message fails. -/
theorem restoreMessage_nested :
    Settings.make .system (.str "\x7bfield:\x7bx\x7d\x7d") (.bool true) =
        .ok ((Store.templated "\x7bfield:\x7bx\x7d\x7d").settingsOf 0) ∧
      ((call 0 "with_message" [.none]).exec (.templated "\x7bfield:\x7bx\x7d\x7d")).1 =
        .error (.template (.missingName "'x'")) := by
  constructor <;> cbv

end Chain

end Rulebook

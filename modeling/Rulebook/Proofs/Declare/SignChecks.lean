import Rulebook.Proofs.Declare.Failure
import Rulebook.Proofs.DeclaredType.Inhabitants
import Rulebook.Proofs.DeclaredType.Writing

/-!
# Checks of the sign of a number

A check of the sign of a number is refused on a property that is declared to hold none. What is
declared is only looked at when the check is, so the values that are there at run time do not
matter; the refusal is safe if a property that may hold a number is never refused.

The refusal names the property and its declared type, and both can be such that they have no text;
then it is this fault that the call ends in.

* `Chain.call_sign`: a call of such a check does what is planned for it.
* `Chain.refuses_iff_leaves`: it is refused iff all leaves of the declared type are known to be no
  numbers, however the declared type is written, and the refusal can be said.
* `Chain.refuses_inhabited_iff`: where a number inhabits the declared type, it is refused iff
  besides this leaf, which is a class that all values are objects of or one that says so itself, no
  other one may hold numbers.
-/

namespace Rulebook

variable {ω : Type}

open Rulebook.Action DeclaredType

/-- The store with another declared type for the property of a chain. -/
def Store.redeclare (c : Nat) (a : DeclaredType) (s : Store ω) : Store ω :=
  s.modifyChain c fun chain => { chain with property := { chain.property with declared := a } }

/-- A store with a chain on a name that is declared to be of a type. -/
def Store.sampleDeclared (a : DeclaredType) : Store Unit :=
  { Store.sample with chains := [⟨0, ⟨.str "name", .attribute_ "name", a⟩, [], false⟩] }

namespace Chain

/-- The checks of the sign of a number. -/
def signChecks : List String := ["positive", "negative", "not_zero"]

/-- A call without arguments is refused as a fault of the declarations themselves. -/
def Refuses (s : Store ω) (c : Nat) (method : String) : Prop :=
  ∃ f t, (call c method []).exec s = (.error f, t) ∧ f.kind = "ConfigurationError"

theorem ofCall_sign {method : String} (hm : method ∈ signChecks) :
    ∃ check : Check, Declaration.ofCall method [] = .ok (.check check) ∧
      check.numericName? = some method ∧ check.operands = [] := by
  simp only [signChecks, List.mem_cons, List.not_mem_nil, or_false] at hm
  rcases hm with rfl | rfl | rfl
  · exact ⟨.positive, rfl, rfl, rfl⟩
  · exact ⟨.negative, rfl, rfl, rfl⟩
  · exact ⟨.notZero, rfl, rfl, rfl⟩

/-- A check that needs numbers is not planned where there are none. -/
theorem planCheck_refused {p : Property} {check : Check} {method : String}
    (hcheck : check.numericName? = some method) (hall : p.declared.AllOther) :
    planCheck p check = (do
      let name ← p.name.text
      let declared ← p.declared.text
      .error (.notNumeric method p.name name declared)) := by
  rw [planCheck, requireNumeric, hcheck]
  simp only [(numericVerdict_false_iff _).mpr hall, beq_self_eq_true, if_true]
  cases p.name.text with
  | error f => rfl
  | ok name => cases p.declared.text <;> rfl

/-- A check that needs numbers is planned, where there may be some, as soon as its message is
written. -/
theorem planCheck_allowed {p : Property} {check : Check} {method : String}
    (hcheck : check.numericName? = some method) (hall : ¬ p.declared.AllOther) :
    planCheck p check = (checkMessage p check).map (.check check) := by
  have hverdict : (p.declared.numericVerdict == some false) = false := by
    rw [beq_eq_false_iff_ne, Ne, numericVerdict_false_iff]
    exact hall
  rw [planCheck, requireNumeric, hcheck]
  simp only [hverdict, Bool.false_eq_true, if_false]
  cases checkMessage p check <;> rfl

/-- The plan for a check that needs numbers fails as a fault of the declarations iff there are none,
and what is refused can be said. -/
theorem planCheck_config_iff {p : Property} {check : Check} {method : String}
    (hcheck : check.numericName? = some method) (hplain : check.operands = []) :
    (∃ f, planCheck p check = .error f ∧ f.kind = "ConfigurationError") ↔
      p.declared.AllOther ∧ (∃ text, p.name.text = .ok text) ∧ ¬ p.declared.HoldsLong := by
  rw [← text_ok_iff]
  by_cases hall : p.declared.AllOther
  · rw [planCheck_refused hcheck hall]
    constructor
    · rintro ⟨f, hf, hkind⟩
      rcases error_of_bind hf with hname | ⟨name, hname, hf⟩
      · exact absurd hkind (Value.text_error hname).kind_ne
      rcases error_of_bind hf with hdeclared | ⟨declared, hdeclared, -⟩
      · exact absurd hkind (Value.declared_fails _ f hdeclared).kind_ne
      · exact ⟨hall, ⟨name, hname⟩, declared, hdeclared⟩
    · rintro ⟨-, ⟨name, hname⟩, declared, hdeclared⟩
      rw [hname, hdeclared]
      exact ⟨_, rfl, rfl⟩
  · simp only [hall, false_and, iff_false]
    rintro ⟨f, hf, hkind⟩
    rw [planCheck_allowed hcheck hall] at hf
    cases hmessage : checkMessage p check with
    | ok text =>
      rw [hmessage] at hf
      cases hf
    | error g =>
      rw [hmessage] at hf
      obtain rfl : g = f := Except.error.inj hf
      rw [checkMessage, message, hplain] at hmessage
      have hname := Template.fill_named_error (Check.isPlain_template hplain) hmessage
      exact (Value.text_error hname).kind_ne hkind

/-- A call of a check of a sign does what is planned. -/
theorem call_sign {s : Store ω} {c : Nat} {chain : Chain} (hc : s.chains[c]? = some chain)
    {method : String} {check : Check} (hcall : Declaration.ofCall method [] = .ok (.check check)) :
    (call c method []).exec s = match planCheck chain.property check with
      | .ok e => (e.noted chain, e.apply c chain s)
      | .error f => (.error f, s) := by
  have hdeclare := declare_exec c (.check check) s
  rw [hc] at hdeclare
  rw [call_exec, hcall]
  exact hdeclare

/-- A check of a sign is refused iff there are no numbers and what is refused can be said. -/
theorem refuses_iff_allOther {s : Store ω} {c : Nat} {chain : Chain}
    (hc : s.chains[c]? = some chain) {method : String} (hm : method ∈ signChecks) :
    Refuses s c method ↔ chain.property.declared.AllOther ∧
      (∃ text, chain.property.name.text = .ok text) ∧ ¬ chain.property.declared.HoldsLong := by
  obtain ⟨check, hcall, hcheck, hplain⟩ := ofCall_sign hm
  rw [← planCheck_config_iff hcheck hplain, Refuses, call_sign hc hcall]
  cases hplan : planCheck chain.property check with
  | error f => simp
  | ok e =>
    obtain ⟨text, rfl⟩ := planCheck_ok hplan
    simp [Effect.noted]

theorem chains_redeclare {s : Store ω} {c : Nat} {chain : Chain} (hc : s.chains[c]? = some chain)
    (a : DeclaredType) : (s.redeclare c a).chains[c]? =
      some { chain with property := { chain.property with declared := a } } := by
  simp [Store.redeclare, Store.modifyChain, List.getElem?_modify_eq, hc]

/-- Where there are no numbers a check of a sign fails, whether this can be said or not. -/
theorem call_sign_error {s : Store ω} {c : Nat} {chain : Chain}
    (hc : s.chains[c]? = some chain) {method : String} (hm : method ∈ signChecks)
    (hall : chain.property.declared.AllOther) :
    ∃ f, (call c method []).exec s = (.error f, s) ∧
      (f.kind = "ConfigurationError" ∨ f.IsOfWriting) := by
  obtain ⟨check, hcall, hcheck, -⟩ := ofCall_sign hm
  rw [call_sign hc hcall, planCheck_refused hcheck hall]
  cases hname : chain.property.name.text with
  | error f => exact ⟨f, rfl, .inr (Value.text_error hname)⟩
  | ok name =>
    cases hdeclared : chain.property.declared.text with
    | error f => exact ⟨f, rfl, .inr (Value.declared_fails _ f hdeclared)⟩
    | ok declared => exact ⟨_, rfl, .inl rfl⟩

/-- All leaves are known to be no numbers iff there is a declared type, and none of them is unknown
or one of numbers. -/
theorem allOther_iff_leaves (a : DeclaredType) :
    a.AllOther ↔ a ≠ .nothing ∧ (∀ leaf ∈ a.leaves, leaf.leafKind ≠ .unknown) ∧
      ∀ leaf ∈ a.leaves, leaf.leafKind ≠ .numeric := by
  constructor
  · intro hall
    refine ⟨?_, ?_, ?_⟩
    · rintro rfl
      cases hall .nothing (List.mem_singleton_self _)
    · intro leaf hleaf
      simp [hall leaf hleaf]
    · intro leaf hleaf
      simp [hall leaf hleaf]
  · rintro ⟨-, hunknown, hnumeric⟩ leaf hleaf
    cases hkind : leaf.leafKind with
    | numeric => exact absurd hkind (hnumeric leaf hleaf)
    | unknown => exact absurd hkind (hunknown leaf hleaf)
    | other => rfl

/-- A check of a sign is refused iff there is a declared type, each of its leaves is known to be no
number, and the refusal can be said: the name of the property has a text, and no integer that is too
long stands in the declared type. Where the leaves are no numbers it fails in any case. So it does
not matter how the declared type is written: with or without nothing or notes around a part, in
which order the members of a union are, how often they are there and how they are put together, and
in which spelling. -/
theorem refuses_iff_leaves {s : Store ω} {c : Nat} {chain : Chain}
    (hc : s.chains[c]? = some chain) {method : String} (hm : method ∈ signChecks) :
    (Refuses s c method ↔ (chain.property.declared ≠ .nothing ∧
        (∀ leaf ∈ chain.property.declared.leaves, leaf.leafKind ≠ .unknown) ∧
        ∀ leaf ∈ chain.property.declared.leaves, leaf.leafKind ≠ .numeric) ∧
        (∃ text, chain.property.name.text = .ok text) ∧ ¬ chain.property.declared.HoldsLong) ∧
      (chain.property.declared ≠ .nothing →
        (∀ leaf ∈ chain.property.declared.leaves, leaf.leafKind ≠ .unknown) →
        (∀ leaf ∈ chain.property.declared.leaves, leaf.leafKind ≠ .numeric) →
        ∃ f, (call c method []).exec s = (.error f, s) ∧
          (f.kind = "ConfigurationError" ∨ f.IsOfWriting)) ∧
      ∀ a, Rearranged chain.property.declared a →
        (Refuses (s.redeclare c a) c method ↔ Refuses s c method) := by
  have hrefuses := refuses_iff_allOther hc hm
  refine ⟨?_, fun hdeclared hunknown hnumeric => ?_, fun a ha => ?_⟩
  · rw [hrefuses, allOther_iff_leaves]
  · exact call_sign_error hc hm ((allOther_iff_leaves _).mpr ⟨hdeclared, hunknown, hnumeric⟩)
  · rw [hrefuses, refuses_iff_allOther (chains_redeclare hc a) hm, ha.allOther_iff,
      isOfParts_holdsLong.rearranged_iff ha]

/-- A text with a note, and then a text that may be missing. -/
theorem refuses_iff_leaves_sample :
    Refuses (.sampleDeclared (withNote "note" (.class .ofStr))) 0 "positive" ∧
      Refuses (Store.redeclare 0 (.optional (.class .ofStr))
        (.sampleDeclared (withNote "note" (.class .ofStr)))) 0 "positive" := by
  have hpositive : "positive" ∈ signChecks := by decide
  have hleaves := refuses_iff_leaves (s := .sampleDeclared (withNote "note" (.class .ofStr)))
    (c := 0) rfl hpositive
  have hshort : ¬ (withNote "note" (.class .ofStr)).HoldsLong := text_ok_iff.mp ⟨_, rfl⟩
  have hrefuses : Refuses (.sampleDeclared (withNote "note" (.class .ofStr))) 0 "positive" :=
    hleaves.1.mpr ⟨⟨by simp [withNote], by decide +kernel, by decide +kernel⟩, ⟨_, rfl⟩, hshort⟩
  have hstr : DeclaredType.class .ofStr ≠ .nothing := by simp
  have hsame : Rearranged (withNote "note" (.class .ofStr)) (.optional (.class .ofStr)) :=
    (Rearranged.withNote "note" hstr).trans (Rearranged.optional hstr).symm
  exact ⟨hrefuses, (hleaves.2.2 _ hsame).mpr hrefuses⟩

/-- A list of constants, of which one is an integer that is too long to be written. -/
def longList : DeclaredType := .generic .ofList [.literal [.int longInteger]]

theorem text_longList : longList.text = .error (.tooManyDigits none) := by
  have hconstant : DeclaredType.HoldsLong (.literal [.int longInteger]) :=
    .literal List.mem_cons_self isLong_longInteger
  exact text_error_iff.mpr ⟨rfl, .argument List.mem_cons_self hconstant⟩

/-- Lists and texts are no numbers, and yet this is not what is said where an integer that is too
long stands in the declared type, nor where the name of the property has no text. -/
theorem refuses_unsaid :
    (∀ leaf ∈ longList.leaves, leaf.leafKind = .other) ∧
      ((call 0 "positive" []).exec (.sampleDeclared longList)).1 = .error (.tooManyDigits none) ∧
      (∀ leaf ∈ (DeclaredType.class .ofStr).leaves, leaf.leafKind = .other) ∧
      ((call 0 "positive" []).exec ({ Store.sample with
          chains := [⟨0, ⟨.unwritten, .attribute_ "name", .class .ofStr⟩, [], false⟩] } :
        Store Unit)).1 = .error (.noAttribute "Flag" "on") := by
  have hleaves : longList.AllOther := by decide +kernel
  refine ⟨hleaves, ?_, by decide +kernel, by cbv⟩
  have hpositive : "positive" ∈ signChecks := by decide
  obtain ⟨check, hcall, hcheck, -⟩ := ofCall_sign hpositive
  rw [call_sign rfl hcall, planCheck_refused hcheck hleaves, text_longList]
  rfl

/-- Where a number inhabits the declared type, a check of a sign is refused iff all leaves are
known to be no numbers and yet one of them is the class of all objects, or a class that says
itself that the number is one of its objects, and the refusal can be said. -/
theorem refuses_inhabited_iff {s : Store ω} {c : Nat} {chain : Chain}
    (hc : s.chains[c]? = some chain) {method : String} (hm : method ∈ signChecks)
    {answers : ClassInfo → Value → Prop} {v : Value}
    (hv : Inhabits answers v chain.property.declared) (hnum : Predicate.isNumber v = true) :
    Refuses s c method ↔ (chain.property.declared.AllOther ∧
      ∃ cls, .class cls ∈ chain.property.declared.leaves ∧ (cls = .ofObject ∨ answers cls v)) ∧
      (∃ text, chain.property.name.text = .ok text) ∧ ¬ chain.property.declared.HoldsLong := by
  rw [refuses_iff_allOther hc hm]
  refine and_congr_left fun _ => ⟨fun hall => ⟨hall, hv.outside_of_allOther hnum hall⟩, ?_⟩
  exact fun h => h.1

/-- Five is one of texts and integers, among which there are numbers, and one of all objects. -/
theorem refuses_inhabited_sample :
    ¬ Refuses (.sampleDeclared (.union .named [.class .ofStr, .class .ofInt])) 0 "positive" ∧
      Refuses (.sampleDeclared (.class .ofObject)) 0 "positive" := by
  have hint : Value.IsObjectOf (fun _ _ => False) (.int 5) .ofInt :=
    .own (by simp [Value.ownClasses])
  have hobject : Value.IsObjectOf (fun _ _ => False) (.int 5) .ofObject :=
    .own (by simp [Value.ownClasses])
  constructor
  · intro hrefuses
    have hunion : Inhabits (fun _ _ => False) (.int 5)
        (.union .named [.class .ofStr, .class .ofInt]) :=
      .member (List.mem_cons_of_mem _ List.mem_cons_self) (.class hint)
    have hall := ((refuses_inhabited_iff rfl (by decide) hunion rfl).mp hrefuses).1.1
    revert hall
    decide +kernel
  · have hleaf : DeclaredType.class .ofObject ∈ (DeclaredType.class .ofObject).leaves :=
      List.mem_singleton_self _
    exact (refuses_inhabited_iff rfl (by decide) (.class hobject) rfl).mpr
      ⟨⟨by decide +kernel, .ofObject, hleaf, .inl rfl⟩, ⟨_, rfl⟩, text_ok_iff.mp ⟨_, rfl⟩⟩

/-- Five is one of all objects, and yet its sign cannot be checked there. -/
theorem refuses_number :
    Inhabits (fun _ _ => False) (.int 5) (.class .ofObject) ∧
      Predicate.isNumber (.int 5) = true ∧
      Refuses (.sampleDeclared (.class .ofObject)) 0 "positive" := by
  have hobject : Value.IsObjectOf (fun _ _ => False) (.int 5) .ofObject :=
    .own (by simp [Value.ownClasses])
  refine ⟨.class hobject, rfl, ?_⟩
  exact (refuses_iff_allOther rfl (by decide)).mpr
    ⟨by decide +kernel, ⟨_, rfl⟩, text_ok_iff.mp ⟨_, rfl⟩⟩

end Chain

end Rulebook

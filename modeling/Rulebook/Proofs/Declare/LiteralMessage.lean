import Mathlib
import Rulebook.Proofs.Declare.DefaultMessage
import Rulebook.Proofs.Declare.Overrides
import Rulebook.Proofs.Template.Literal

/-!
# Default messages around the name of a property

Any texts can stand before, between and after the places of a property name in a default message.
Their braces are doubled, so that a brace of a text never meets one of the places, whatever stands
beside it: the template is read from left to right, and what it was made of comes back.

* `Template.around`: the template of texts with the place of the name between each two of them.
* `Template.check_around`: settings take such a template.
* `Template.fill_around`: filled in, it is the texts with the name between each two of them.
* `Chain.restoreMessage_around`: this is the message that the last check of a chain is given.
-/

namespace Rulebook

namespace Template

/-- A text with its braces doubled. -/
def doubled (t : String) : String := String.ofList (t.toList.flatMap escapeBrace)

/-- The place of the name of a property. -/
def place : String := "\x7bfield\x7d"

/-- The template of texts with the place of the name between each two of them. -/
def around (texts : List String) : String := place.intercalate (texts.map doubled)

/-- The parts of that template. -/
def partsAround : List String → List Segment
  | [] => []
  | [t] => [.text t]
  | t :: next :: texts => .text t :: .operand fieldName :: partsAround (next :: texts)

theorem written_cons (segment : Segment) (segments : List Segment) :
    written (segment :: segments) = String.ofList segment.write ++ written segments := by
  simp [written]

theorem around_eq_written (texts : List String) : around texts = written (partsAround texts) := by
  induction texts with
  | nil => rfl
  | cons t texts ih =>
    cases texts with
    | nil => simp [around, partsAround, written, Segment.write, doubled]
    | cons next texts =>
      have hplace : place = String.ofList (Segment.operand fieldName).write := rfl
      have hrest : place.intercalate (doubled next :: texts.map doubled) =
          written (partsAround (next :: texts)) := ih
      rw [around, List.map_cons, List.map_cons, String.intercalate_cons_cons, hrest, partsAround,
        written_cons, written_cons, ← hplace, String.append_assoc]
      rfl

theorem isOperandName_fieldName : IsOperandName fieldName.toList := by
  decide +kernel

theorem operand_of_mem_partsAround {texts : List String} {name : String}
    (h : .operand name ∈ partsAround texts) : name = fieldName := by
  induction texts with
  | nil => cases h
  | cons t texts ih =>
    cases texts with
    | nil => simp [partsAround] at h
    | cons next texts =>
      simp only [partsAround, List.mem_cons, reduceCtorEq, false_or, Segment.operand.injEq] at h
      exact h.elim id ih

/-- All names in the template are ones that reading finds again. -/
theorem isOperandName_partsAround (texts : List String) (name : String)
    (h : .operand name ∈ partsAround texts) : IsOperandName name.toList := by
  rw [operand_of_mem_partsAround h]
  exact isOperandName_fieldName

/-- Settings take the template: its only fields are the places of the name. -/
theorem check_around (texts : List String) : check (around texts) = .ok () := by
  have hread := read_written (isOperandName_partsAround texts)
  rw [← around_eq_written] at hread
  refine (check_ok_iff _).mpr ⟨by rw [hread], fun f hf => ?_⟩
  rw [mem_fields, hread] at hf
  obtain ⟨segment, hsegment, hpiece⟩ := List.mem_flatMap.mp hf
  cases segment with
  | text t => simp [Segment.pieces] at hpiece
  | operand name =>
    have hname := operand_of_mem_partsAround hsegment
    simp only [Segment.pieces, List.mem_singleton, Piece.field.injEq] at hpiece
    rw [hpiece, String.ofList_toList, hname]

/-- Filled in with the name of a property, the template is the texts with the name between each
two of them. -/
theorem fill_around (texts : List String) (name : String) :
    fill (around texts) (fieldOperands name) = .ok (name.intercalate texts) := by
  have hname : (Segment.operand fieldName).value (fieldOperands name) = .ok name := by
    simp [Segment.value, fieldOperands]
  rw [around_eq_written, fill_written (isOperandName_partsAround texts)]
  induction texts with
  | nil => rfl
  | cons t texts ih =>
    cases texts with
    | nil => simp [partsAround, Segment.value, Except.map, String.join]
    | cons next texts =>
      rw [partsAround, List.mapM_cons, map_join_cons, List.mapM_cons, map_join_cons, ih, hname,
        String.intercalate_cons_cons, String.append_assoc]
      rfl

end Template

namespace Chain

open Rulebook.Action

variable {ω : Type}

/-- Changes of a chain are the same if they leave the same of it. -/
theorem modifyChain_congr {s : Store ω} {c : Nat} {chain : Chain} {f g : Chain → Chain}
    (hc : s.chains[c]? = some chain) (h : f chain = g chain) :
    s.modifyChain c f = s.modifyChain c g := by
  have hchains : s.chains.modify c f = s.chains.modify c g := by
    apply List.ext_getElem?
    intro i
    rw [List.getElem?_modify, List.getElem?_modify]
    by_cases hi : c = i
    · subst hi
      simp [hc, h]
    · simp [hi]
  rw [Store.modifyChain, Store.modifyChain, hchains]

/-- Settings can be made with the template of any texts. On a chain with checks, asking for no
message then gives the last check the texts with the name of the property between each two of them,
and changes nothing else. -/
theorem restoreMessage_around (texts : List String) (clock : Clock) (blocking : Value) :
    Settings.make clock (.str (Template.around texts)) blocking =
        .ok ⟨clock, .str (Template.around texts), blocking⟩ ∧
      ∀ {s : Store ω} {c : Nat} {chain : Chain} {front : List Entry} {last : Entry}
        {name : String},
        s.chains[c]? = some chain → chain.entries = front ++ [last] →
        chain.property.name = .str name →
        s.settingsOf chain.validator = ⟨clock, .str (Template.around texts), blocking⟩ →
        (call c "with_message" [.none]).exec s =
          (.ok (), s.modifyChain c fun ch => { ch with
            entries := front ++ [{ last with message := .str (name.intercalate texts) }] }) := by
  refine ⟨by rw [Settings.make, Template.check_around]; rfl, ?_⟩
  intro s c chain front last name hc hentries hname hsettings
  have hchecks : chain.entries ≠ [] := by simp [hentries]
  have hmessage : (s.settingsOf chain.validator).defaultMessage = .str (Template.around texts) := by
    rw [hsettings]
  rw [restoreMessage_exec hc hchecks hmessage hname, Template.fill_around]
  refine congrArg (Prod.mk (Except.ok ())) (modifyChain_congr hc ?_)
  rw [hentries, replaceLast_concat]

/-- The braces of the texts meet those of the places, as in `{{{field}}} of {{{field}}}`. -/
theorem restoreMessage_around_sample :
    (call 0 "with_message" [.none]).exec
        (.templated (Template.around ["\x7b", "\x7d of \x7b", "\x7d"])) =
      (.ok (), (Store.templated (Template.around ["\x7b", "\x7d of \x7b", "\x7d"])).modifyChain 0
        fun ch => { ch with
          entries := [⟨.notNull, .str "\x7bname\x7d of \x7bname\x7d"⟩] }) := by
  have hentries : [(⟨.notNull, .str "missing"⟩ : Entry)] =
      [] ++ [⟨.notNull, .str "missing"⟩] := rfl
  have hname : (Property.named "name").name = .str "name" := rfl
  exact (restoreMessage_around ["\x7b", "\x7d of \x7b", "\x7d"] .system (.bool true)).2
    (s := .templated (Template.around ["\x7b", "\x7d of \x7b", "\x7d"])) (c := 0)
    rfl hentries hname rfl

end Chain

end Rulebook

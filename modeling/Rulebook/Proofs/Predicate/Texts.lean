import Rulebook.Predicate.Named
import Rulebook.Proofs.Action

/-!
# Checks of text

What the checks answer that look for a text at the start, at the end or anywhere in the text of a
value. Folding takes every character by itself, so it keeps what stands in front of a part and
behind it, even where it changes how long they are.

* `Predicate.Answers`: a check answers whether something holds.
* `infix_foldCase`: a part of a text is one when case is folded.
* `Predicate.texts_by_strength`: a text at an end is contained, and what is contained stays so when
  case is folded, also under any other spelling with the same fold.
-/

namespace Rulebook

theorem Value.isInfix_iff {α : Type} [BEq α] [LawfulBEq α] (part xs : List α) :
    Value.isInfix part xs = true ↔ part <:+: xs := by
  induction xs with
  | nil => rw [Value.isInfix, List.isEmpty_iff, List.infix_nil]
  | cons x xs ih =>
    rw [Value.isInfix, Bool.or_eq_true, List.isPrefixOf_iff_prefix, ih, List.infix_cons_iff]

/-- What is part of a text stays part of it when case is folded. -/
theorem infix_foldCase {part cs : List Char} (h : part <:+: cs) :
    foldCase part <:+: foldCase cs := by
  obtain ⟨front, back, rfl⟩ := h
  rw [foldCase_append, foldCase_append]
  exact ⟨foldCase front, foldCase back, rfl⟩

namespace Predicate

/-- A check answers whether a statement holds. -/
def Answers (r : Except Fault Bool) (P : Prop) : Prop := ∃ b, r = .ok b ∧ (b = true ↔ P)

theorem Answers.passes_iff {r : Except Fault Bool} {P : Prop} (h : Answers r P) :
    r = .ok true ↔ P := by
  obtain ⟨b, rfl, hb⟩ := h
  rw [← hb, Except.ok.injEq]

variable {v : Value} {t : String}

theorem ifPresent_of_ne (hv : v ≠ .none) (test : Except Fault Bool) : ifPresent v test = test := by
  cases v with
  | none => exact absurd rfl hv
  | _ => rfl

/-- A check of the text of a value, where there is one, is the check of that text. -/
theorem ifPresent_of_text (hv : v ≠ .none) (ht : v.text = .ok t) (f : String → Except Fault Bool) :
    (ifPresent v do
      let text ← v.text
      f text) = f t := by
  rw [ifPresent_of_ne hv, ht, ok_then]

/-- What passes a check of its text is there, and has one. -/
theorem exists_text {f : String → Except Fault Bool}
    (h : (ifPresent v do
      let text ← v.text
      f text) = .ok true) : v ≠ .none ∧ ∃ t, v.text = .ok t := by
  have hv : v ≠ .none := by
    rintro rfl
    cases h
  rw [ifPresent_of_ne hv] at h
  obtain ⟨t, ht, -⟩ := ok_of_bind h
  exact ⟨hv, t, ht⟩

theorem startsWith_answers (hv : v ≠ .none) (ht : v.text = .ok t) (p : String) :
    Answers (startsWith v (.str p)) (p.toList <+: t.toList) :=
  ⟨_, ifPresent_of_text hv ht _, List.isPrefixOf_iff_prefix⟩

theorem endsWith_answers (hv : v ≠ .none) (ht : v.text = .ok t) (p : String) :
    Answers (endsWith v (.str p)) (p.toList <:+ t.toList) :=
  ⟨_, ifPresent_of_text hv ht _, List.isSuffixOf_iff_suffix⟩

theorem contains_answers (hv : v ≠ .none) (ht : v.text = .ok t) (p : String) :
    Answers (contains v (.str p) (.bool true)) (p.toList <:+: t.toList) :=
  ⟨_, ifPresent_of_text hv ht _, Value.isInfix_iff _ _⟩

theorem contains_folded_answers (hv : v ≠ .none) (ht : v.text = .ok t) (p : String) :
    Answers (contains v (.str p) (.bool false)) (foldCase p.toList <:+: foldCase t.toList) :=
  ⟨_, ifPresent_of_text hv ht _, Value.isInfix_iff _ _⟩

theorem contains_of_end {p : String}
    (h : startsWith v (.str p) = .ok true ∨ endsWith v (.str p) = .ok true) :
    contains v (.str p) (.bool true) = .ok true := by
  rcases h with h | h
  · obtain ⟨hv, t, ht⟩ := exists_text h
    exact (contains_answers hv ht p).passes_iff.mpr
      ((startsWith_answers hv ht p).passes_iff.mp h).isInfix
  · obtain ⟨hv, t, ht⟩ := exists_text h
    exact (contains_answers hv ht p).passes_iff.mpr
      ((endsWith_answers hv ht p).passes_iff.mp h).isInfix

theorem contains_folded_of_contains {p : String}
    (h : contains v (.str p) (.bool true) = .ok true) :
    contains v (.str p) (.bool false) = .ok true := by
  obtain ⟨hv, t, ht⟩ := exists_text h
  exact (contains_folded_answers hv ht p).passes_iff.mpr
    (infix_foldCase ((contains_answers hv ht p).passes_iff.mp h))

/-- A text between two others is found under every spelling with the same fold. -/
theorem contains_between {b b' : String} (h : foldCase b'.toList = foldCase b.toList)
    (a c : String) : contains (.str (a ++ b ++ c)) (.str b') (.bool false) = .ok true := by
  refine (contains_folded_answers (v := .str (a ++ b ++ c)) nofun rfl b').passes_iff.mpr ?_
  rw [h, String.toList_append, String.toList_append]
  exact infix_foldCase (List.infix_append _ _ _)

/-- Checks of text in the order of their strength: what starts or ends with a text contains it, and
contains it where case does not count, as it does not if nothing is said about it. There every
spelling with the same fold is as good. -/
theorem texts_by_strength (zone : Int) :
    (∀ v p, call zone "starts_with" [v, .str p] = .ok true ∨
        call zone "ends_with" [v, .str p] = .ok true →
      call zone "contains" [v, .str p, .bool true] = .ok true) ∧
    (∀ v p, call zone "contains" [v, .str p, .bool true] = .ok true →
      call zone "contains" [v, .str p] = .ok true) ∧
    ∀ a b c b' : String, foldCase b'.toList = foldCase b.toList →
      call zone "contains" [.str (a ++ b ++ c), .str b', .bool false] = .ok true :=
  ⟨fun _ _ => contains_of_end, fun _ _ => contains_folded_of_contains,
    fun a _ c _ h => contains_between h a c⟩

/-- The text of a truth value starts with its first letters. A sharp s folds to two letters, so a text
is found in a longer one with fewer characters. -/
theorem texts_by_strength_sample :
    call 0 "starts_with" [.bool true, .str "Tr"] = .ok true ∧
      call 0 "contains" [.bool true, .str "Tr"] = .ok true ∧
      foldCase "STRASSE".toList = foldCase "Straße".toList ∧
      call 0 "contains" [.str ("(" ++ "Straße" ++ ")"), .str "STRASSE", .bool false] =
        .ok true := by
  have hstarts : call 0 "starts_with" [.bool true, .str "Tr"] = .ok true := rfl
  have hfold : foldCase "STRASSE".toList = foldCase "Straße".toList := by decide +kernel
  obtain ⟨hends, hfolded, hbetween⟩ := texts_by_strength 0
  exact ⟨hstarts, hfolded _ _ (hends _ _ (.inl hstarts)), hfold, hbetween _ _ _ _ hfold⟩

end Predicate

end Rulebook

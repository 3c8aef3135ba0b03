import Mathlib.Data.List.Induction
import Mathlib.Data.List.Nodup
import Rulebook.Registry

/-!
# The attributes of a module

A module may bind a name again, and the latest binding counts. The attributes are gone through in
increasing order of their names.

* `ModuleInfo.mem_bindings`: an attribute is the binding of its name that is found first from the
  end.
* `ModuleInfo.bindings_increasing`: every name is there once, and the names increase.
-/

namespace Rulebook

namespace ModuleInfo

/-- Bindings with one more: in place of that of its name, or at the end. -/
def rebind (made : List (String × Value)) (b : String × Value) : List (String × Value) :=
  if made.any (·.1 == b.1) then made.map fun a => if a.1 == b.1 then (a.1, b.2) else a
  else made ++ [b]

/-- The latest binding of every name. -/
def latest (members : List (String × Value)) : List (String × Value) := members.foldl rebind []

theorem bindings_eq (m : ModuleInfo) :
    m.bindings = (latest m.members).mergeSort fun a b => decide (a.1 ≤ b.1) := rfl

theorem mem_rebind (made : List (String × Value)) (n : String) (v : Value)
    (b : String × Value) :
    (n, v) ∈ rebind made b ↔ if n = b.1 then v = b.2 else (n, v) ∈ made := by
  unfold rebind
  cases hany : made.any (·.1 == b.1) with
  | true =>
    obtain ⟨a, ha, hname⟩ := List.any_eq_true.mp hany
    rw [if_pos rfl, List.mem_map]
    grind
  | false =>
    have habsent : ∀ a ∈ made, a.1 ≠ b.1 := by simpa using hany
    rw [if_neg Bool.false_ne_true, List.mem_append, List.mem_singleton]
    grind

theorem latest_append_one (members : List (String × Value)) (b : String × Value) :
    latest (members ++ [b]) = rebind (latest members) b := List.foldl_concat ..

/-- The latest binding of a name is the one that is found first from the end. -/
theorem mem_latest (members : List (String × Value)) (n : String) (v : Value) :
    (n, v) ∈ latest members ↔ members.reverse.lookup n = some v := by
  induction members using List.reverseRecOn with
  | nil => simp [latest]
  | append_singleton members b ih =>
    rw [latest_append_one, mem_rebind, List.reverse_concat, List.lookup_cons, ih]
    by_cases h : n = b.1
    · simp [h, eq_comm]
    · have hname : (n == b.1) = false := by simpa using h
      simp [h, hname]

theorem names_rebind (made : List (String × Value)) (b : String × Value) :
    (rebind made b).map Prod.fst =
      if made.any (·.1 == b.1) then made.map Prod.fst else made.map Prod.fst ++ [b.1] := by
  unfold rebind
  cases made.any (·.1 == b.1) with
  | true =>
    rw [if_pos rfl, if_pos rfl, List.map_map]
    refine List.map_congr_left fun a _ => ?_
    show (if a.1 == b.1 then (a.1, b.2) else a).1 = a.1
    split <;> rfl
  | false => simp

theorem nodup_latest (members : List (String × Value)) :
    ((latest members).map Prod.fst).Nodup := by
  induction members using List.reverseRecOn with
  | nil => exact List.nodup_nil
  | append_singleton members b ih =>
    rw [latest_append_one, names_rebind]
    cases hany : (latest members).any (·.1 == b.1) with
    | true => exact ih
    | false =>
      have habsent : ∀ a ∈ latest members, a.1 ≠ b.1 := by simpa using hany
      refine List.nodup_append.mpr ⟨ih, List.nodup_singleton _, ?_⟩
      rintro n hn n' hn'
      obtain ⟨a, ha, rfl⟩ := List.mem_map.mp hn
      obtain rfl := List.mem_singleton.mp hn'
      exact habsent a ha

theorem mem_bindings (m : ModuleInfo) (n : String) (v : Value) :
    (n, v) ∈ m.bindings ↔ m.members.reverse.lookup n = some v := by
  rw [bindings_eq, List.mem_mergeSort, mem_latest]

/-- Every name is there once, and the names increase. -/
theorem bindings_increasing (m : ModuleInfo) :
    m.bindings.Pairwise fun a b => a.1 < b.1 := by
  have hordered : m.bindings.Pairwise fun a b => a.1 ≤ b.1 := by
    have h := @List.pairwise_mergeSort (String × Value) (fun a b => decide (a.1 ≤ b.1))
      (fun a b c hab hbc => by simpa using String.le_trans (by simpa using hab) (by simpa using hbc))
      (fun a b => by simpa using String.le_total a.1 b.1) (latest m.members)
    simpa [bindings_eq] using h
  have hnames : (m.bindings.map Prod.fst).Nodup :=
    ((List.mergeSort_perm _ _).map Prod.fst).nodup_iff.mpr (nodup_latest m.members)
  refine hordered.imp₂ (fun a b hle hne => ?_) (List.pairwise_map.mp hnames)
  exact String.not_le.mp fun hge => hne (String.le_antisymm hle hge)

end ModuleInfo

end Rulebook

import Rulebook.Predicate.Named
import Rulebook.Proofs.Action

/-!
# Checks of nothing

What the predicates answer when there is no value. Each looks by itself at whether there is one.
Equality and membership do not: they compare nothing with what they are given like any value.

* `Named.Takes`: how many arguments a predicate takes. `Predicate.call_of_mem`: a call by name.
* `Predicate.isIn_nothing`: whether nothing is in a container.
* `Predicate.call_nothing`: the answer of every predicate about nothing.
-/

namespace Rulebook

namespace Value

/-- The values among which one is looked for in a container of values. -/
def members? : Value → Option (List Value)
  | .list items | .tuple items | .set items | .iterator _ items => some items
  | .dict entries => some (entries.map Prod.fst)
  | _ => Option.none

end Value

namespace Predicate

/-! ## Predicates by name -/

/-- A predicate takes so many arguments. -/
def Named.Takes (p : Named) (n : Nat) : Prop :=
  p.required.length ≤ n ∧ n ≤ p.required.length + p.optional.length

instance (p : Named) (n : Nat) : Decidable (p.Takes n) := inferInstanceAs (Decidable (_ ∧ _))

theorem find?_of_mem_of_nodup {ps : List Named} (hnames : (ps.map Named.name).Nodup) {p : Named}
    (hp : p ∈ ps) : ps.find? (·.name == p.name) = some p := by
  induction ps with
  | nil => cases hp
  | cons q ps ih =>
    obtain ⟨hq, hnames⟩ := List.nodup_cons.mp hnames
    rw [List.find?_cons]
    rcases List.mem_cons.mp hp with rfl | hp
    · rw [beq_self_eq_true]
    · have hne : q.name ≠ p.name := by
        intro heq
        apply hq
        rw [heq]
        exact List.mem_map_of_mem hp
      rw [beq_eq_false_iff_ne.mpr hne]
      exact ih hnames hp

theorem nodup_names : (all.map Named.name).Nodup := by decide +kernel

/-- A call by name asks the predicate of this name, with the arguments that were left out. -/
theorem call_of_mem {p : Named} (hp : p ∈ all) (args : List Value) (hargs : p.Takes args.length)
    (zone : Int) :
    call zone p.name args =
      p.answer zone (args ++ (p.optional.drop (args.length - p.required.length)).map Prod.snd) := by
  obtain ⟨hleast, hmost⟩ := hargs
  rw [call, find?_of_mem_of_nodup nodup_names hp]
  simp only [Arguments.fill]
  rw [if_neg (by omega), if_neg (by omega), ok_then]

/-! ## Comparing with nothing -/

theorem equals_nothing (v : Value) : Value.equals .none v = .ok (isNull v) := by
  cases v <;> simp [Value.equals, Value.complexEqual, Value.quantity?, isNull]

theorem same_nothing (v : Value) : Value.same v .none = .ok (isNull v) := by
  cases v <;>
    simp [Value.same, Value.identical, Value.equals, Value.complexEqual, Value.quantity?, isNull]

theorem isAmong_nothing (items : List Value) :
    Value.isAmong .none items = .ok (items.any isNull) := by
  unfold Value.isAmong
  induction items with
  | nil => rfl
  | cons x xs ih =>
    rw [List.anyM_cons, same_nothing, ok_then, List.any_cons]
    cases isNull x with
    | true => rfl
    | false => exact ih

/-- Whether nothing is in a container is whether one of its members is nothing. In what is no
container of values it cannot be looked for. -/
theorem isIn_nothing (container : Value) :
    match container.members? with
    | some items => Value.isIn .none container = .ok (items.any isNull)
    | none => ∃ f, Value.isIn .none container = .error f ∧ f.kind = "TypeError" := by
  cases container with
  | list items => exact isAmong_nothing items
  | tuple items => exact isAmong_nothing items
  | set items => exact isAmong_nothing items
  | iterator _ items => exact isAmong_nothing items
  | dict entries => exact isAmong_nothing _
  | _ => exact ⟨_, rfl, rfl⟩

/-! ## The library -/

/-- What the predicate of a name asks about nothing, for its other arguments. -/
def aboutNothing (name : String) (rest : List Value) : Except Fault Bool :=
  if name = "is_null" ∨ name = "is_empty" then .ok true
  else if name = "equals" then Value.equals .none (rest[0]?.getD .none)
  else if name = "is_in" then Value.isIn .none (rest[0]?.getD .none)
  else .ok false

theorem answer_nothing {p : Named} (hp : p ∈ all) (zone : Int) (rest : List Value) :
    p.answer zone (.none :: rest) = aboutNothing p.name rest := by
  -- Row by row: where a predicate looks at whether there is a value, nothing is left to compute.
  have hrows : ∀ p ∈ all, p.answer zone (.none :: rest) = aboutNothing p.name rest := by
    simp only [all, List.forall_mem_cons]
    and_intros
    all_goals first | rfl | exact List.forall_mem_nil _
  exact hrows p hp

/-- A predicate that compares with something takes it and nothing else. -/
theorem eq_singleton_of_takes {p : Named} (hp : p ∈ all)
    (hname : p.name = "equals" ∨ p.name = "is_in") {args : List Value}
    (hargs : p.Takes (args.length + 1)) : ∃ a, args = [a] := by
  have hrows : ∀ p ∈ all, p.name = "equals" ∨ p.name = "is_in" →
      p.required.length = 2 ∧ p.optional.length = 0 := by decide +kernel
  obtain ⟨hrequired, hoptional⟩ := hrows p hp hname
  obtain ⟨hleast, hmost⟩ := hargs
  exact List.length_eq_one_iff.mp (by omega)

/-- What a predicate of the library answers about nothing, whatever its other arguments are: the
checks for absence say yes; equality says whether the other value is nothing, and membership
whether one of the members of the container is, and fails for what has none; all others say no. -/
theorem call_nothing {p : Named} (hp : p ∈ all) (args : List Value)
    (hargs : p.Takes (args.length + 1)) (zone : Int) :
    (p.name ∈ ["is_null", "is_empty"] → call zone p.name (.none :: args) = .ok true) ∧
    (p.name = "equals" →
      call zone p.name (.none :: args) = .ok (isNull (args.headD .none))) ∧
    (p.name = "is_in" →
      match (args.headD .none).members? with
      | some items => call zone p.name (.none :: args) = .ok (items.any isNull)
      | none => ∃ f, call zone p.name (.none :: args) = .error f ∧ f.kind = "TypeError") ∧
    (p.name ∉ ["is_null", "is_empty", "equals", "is_in"] →
      call zone p.name (.none :: args) = .ok false) := by
  have hcall := call_of_mem hp (.none :: args) hargs zone
  rw [List.cons_append, answer_nothing hp] at hcall
  refine ⟨?_, ?_, ?_, ?_⟩
  · intro hname
    rw [hcall, aboutNothing, if_pos (by simpa using hname)]
  · intro hname
    obtain ⟨a, rfl⟩ := eq_singleton_of_takes hp (.inl hname) hargs
    rw [hcall, hname]
    exact equals_nothing a
  · intro hname
    obtain ⟨a, rfl⟩ := eq_singleton_of_takes hp (.inr hname) hargs
    rw [hcall, hname]
    exact isIn_nothing a
  · intro hname
    simp only [List.mem_cons, List.not_mem_nil, or_false, not_or] at hname
    obtain ⟨hnull, hempty, hequals, hin⟩ := hname
    rw [hcall, aboutNothing, if_neg (by simp [hnull, hempty]), if_neg hequals, if_neg hin]

/-- Nothing is not above nothing, but it is among one and nothing. -/
theorem call_nothing_sample :
    (∃ p ∈ all, p.name = "greater_than" ∧ p.Takes 2) ∧
      call 0 "greater_than" [.none, .none] = .ok false ∧
      call 0 "is_in" [.none, .list [.int 1, .none]] = .ok true := by
  have hgreater : ∃ p ∈ all, p.name = "greater_than" ∧ p.Takes 2 := by decide +kernel
  have hin : ∃ p ∈ all, p.name = "is_in" ∧ p.Takes 2 := by decide +kernel
  refine ⟨hgreater, ?_, ?_⟩
  · obtain ⟨p, hp, hname, hargs⟩ := hgreater
    have hcall := (call_nothing hp [.none] hargs 0).2.2.2 (by rw [hname]; decide)
    rwa [hname] at hcall
  · obtain ⟨p, hp, hname, hargs⟩ := hin
    have hcall := (call_nothing hp [.list [.int 1, .none]] hargs 0).2.2.1 hname
    rwa [hname] at hcall

/-- Nothing passes as equal to nothing and as one of what holds nothing; whether it is part of a
text is not answered. -/
theorem nothing_passes :
    call 0 "equals" [.none, .none] = .ok true ∧
      call 0 "is_in" [.none, .tuple [.none]] = .ok true ∧
      ¬ ∃ b, call 0 "is_in" [.none, .str "red"] = .ok b := by
  refine ⟨rfl, rfl, ?_⟩
  rintro ⟨b, hb⟩
  cases hb

end Predicate

end Rulebook

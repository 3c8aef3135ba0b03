import Mathlib.Data.List.Induction
import Rulebook.Report

/-!
# Reports as grouped messages

A report made of messages, each for a name, has the names in the order in which they first come,
and under each of them its messages in order.

* `Report.ofPairs`: the report of messages added one after the other.
* `Report.errors_ofPairs`: it groups them (`Report.grouped`).
* `Report.keys_ofPairs`, `Report.find?_ofPairs`: its names, and what it has under each of them.
-/

namespace Rulebook

namespace Report

/-- A report with messages added one after the other, each for a name. -/
def addPairs (r : Report) (pairs : List (String × Value)) : Report :=
  pairs.foldl (fun r p => r.add (.str p.1) p.2) r

/-- The report of messages, each for a name. -/
def ofPairs (pairs : List (String × Value)) : Report := empty.addPairs pairs

/-- The messages for a name. -/
def messagesFor (pairs : List (String × Value)) (name : String) : List Value :=
  (pairs.filter (·.1 == name)).map Prod.snd

/-- The names of messages, each where it first comes. -/
def names (pairs : List (String × Value)) : List String := (pairs.map Prod.fst).eraseDups

/-- Every name once, with all its messages. -/
def grouped (pairs : List (String × Value)) : List (Value × List Value) :=
  (names pairs).map fun name => (.str name, messagesFor pairs name)

theorem addPairs_append (r : Report) (ps qs : List (String × Value)) :
    r.addPairs (ps ++ qs) = (r.addPairs ps).addPairs qs := by
  simp [addPairs]

theorem addAll_str (r : Report) (name : String) (messages : List Value) :
    r.addAll (.str name) messages = r.addPairs (messages.map fun m => (name, m)) := by
  rw [addAll, addPairs, List.foldl_map]

/-- One more message for a name that has none. -/
theorem addTo_map_of_not_mem {l : List String} {f : String → List Value} {name : String}
    (h : name ∉ l) (m : Value) :
    addTo (l.map fun n => (.str n, f n)) (.str name) m =
      (l.map fun n => (.str n, f n)) ++ [(.str name, [m])] := by
  induction l with
  | nil => rfl
  | cons n l ih =>
    obtain ⟨hn, hl⟩ := not_or.mp (mt List.mem_cons.mpr h)
    have hs : Value.sameKey (.str n) (.str name) = false := by
      simpa using fun e => hn e.symm
    rw [List.map_cons, addTo, hs, if_neg (by simp), ih hl]
    rfl

/-- One more message for a name that has some. -/
theorem addTo_map_of_mem {l : List String} {f : String → List Value} {name : String}
    (h : name ∈ l) (hl : l.Nodup) (m : Value) :
    addTo (l.map fun n => (.str n, f n)) (.str name) m =
      l.map fun n => (.str n, if n = name then f n ++ [m] else f n) := by
  induction l with
  | nil => simp at h
  | cons n l ih =>
    obtain ⟨hn, hl⟩ := List.nodup_cons.mp hl
    rw [List.map_cons, addTo, Value.sameKey_str]
    by_cases hnn : n = name
    · subst hnn
      have rest : ∀ k ∈ l, (Value.str k, f k) = (.str k, if k = n then f k ++ [m] else f k) := by
        intro k hk
        rw [if_neg (ne_of_mem_of_not_mem hk hn)]
      simp only [BEq.rfl, if_true, List.map_cons]
      rw [List.map_congr_left rest]
    · have hm : name ∈ l := (List.mem_cons.mp h).resolve_left (Ne.symm hnn)
      rw [if_neg (by simpa using hnn), ih hm hl, List.map_cons, if_neg hnn]

theorem messagesFor_append_one (pairs : List (String × Value)) (name key : String) (m : Value) :
    messagesFor (pairs ++ [(key, m)]) name =
      if name = key then messagesFor pairs name ++ [m] else messagesFor pairs name := by
  unfold messagesFor
  by_cases h : name = key
  · subst h
    simp
  · rw [if_neg h, List.filter_append, List.filter_cons_of_neg (by simpa using Ne.symm h)]
    simp

theorem mem_names {pairs : List (String × Value)} {name : String} :
    name ∈ names pairs ↔ ∃ p ∈ pairs, p.1 = name := by
  simp [names, List.mem_eraseDups]

theorem names_append_one (pairs : List (String × Value)) (name : String) (m : Value) :
    names (pairs ++ [(name, m)]) =
      if name ∈ names pairs then names pairs else names pairs ++ [name] := by
  unfold names
  rw [List.map_append, List.eraseDups_append]
  by_cases h : name ∈ pairs.map Prod.fst
  · have hr : [name].removeAll (pairs.map Prod.fst) = [] := by
      simpa [List.removeAll] using h
    rw [if_pos (List.mem_eraseDups.mpr h), List.map_singleton, hr, List.eraseDups_nil,
      List.append_nil]
  · have hr : [name].removeAll (pairs.map Prod.fst) = [name] := by
      simpa [List.removeAll] using h
    rw [if_neg (mt List.mem_eraseDups.mp h), List.map_singleton, hr]
    rfl

theorem nodup_names (pairs : List (String × Value)) : (names pairs).Nodup := by
  induction pairs using List.reverseRecOn with
  | nil => exact List.nodup_nil
  | append_singleton pairs p ih =>
    rw [names_append_one]
    split
    · exact ih
    · rename_i h
      exact List.nodup_append.mpr ⟨ih, by simp, by
        intro a ha b hb
        rw [List.mem_singleton.mp hb]
        exact ne_of_mem_of_not_mem ha h⟩

theorem messagesFor_eq_nil {pairs : List (String × Value)} {name : String}
    (h : name ∉ names pairs) : messagesFor pairs name = [] := by
  unfold messagesFor
  rw [List.filter_eq_nil_iff.mpr, List.map_nil]
  intro p hp e
  exact h (mem_names.mpr ⟨p, hp, eq_of_beq e⟩)

/-- One more message for a name, in the grouping. -/
theorem grouped_append_one (pairs : List (String × Value)) (name : String) (m : Value) :
    grouped (pairs ++ [(name, m)]) = addTo (grouped pairs) (.str name) m := by
  unfold grouped
  rw [names_append_one]
  by_cases h : name ∈ names pairs
  · rw [if_pos h, addTo_map_of_mem h (nodup_names pairs)]
    simp only [messagesFor_append_one]
  · have rest : ∀ k ∈ names pairs, (Value.str k, messagesFor (pairs ++ [(name, m)]) k) =
        (.str k, messagesFor pairs k) := by
      intro k hk
      rw [messagesFor_append_one, if_neg (ne_of_mem_of_not_mem hk h)]
    rw [if_neg h, addTo_map_of_not_mem h, List.map_append, List.map_congr_left rest,
      List.map_singleton, messagesFor_append_one, if_pos rfl, messagesFor_eq_nil h]
    rfl

/-- A report groups the messages that are added to it. -/
theorem errors_ofPairs (pairs : List (String × Value)) :
    (ofPairs pairs).errors = grouped pairs := by
  induction pairs using List.reverseRecOn with
  | nil => rfl
  | append_singleton pairs p ih =>
    rw [grouped_append_one, ← ih, ofPairs, addPairs_append]
    rfl

/-- The names of a report stand where they first come among its messages. -/
theorem keys_ofPairs (pairs : List (String × Value)) :
    Table.keys (ofPairs pairs).errors = (names pairs).map .str := by
  rw [errors_ofPairs, grouped, Table.keys, List.map_map]
  rfl

private theorem find?_map {l : List String} {f : String → List Value} {name : String}
    (h : name ∈ l) : Table.find? (l.map fun n => (.str n, f n)) (.str name) = some (f name) := by
  induction l with
  | nil => simp at h
  | cons n l ih =>
    rw [List.map_cons, Table.find?, Value.sameKey_str]
    by_cases hn : n = name
    · rw [hn, if_pos (by simp)]
    · rw [if_neg (by simpa using hn)]
      exact ih ((List.mem_cons.mp h).resolve_left (Ne.symm hn))

/-- Under each of its names a report has all messages for it, in order. -/
theorem find?_ofPairs {pairs : List (String × Value)} {name : String} (h : name ∈ names pairs) :
    Table.find? (ofPairs pairs).errors (.str name) = some (messagesFor pairs name) := by
  rw [errors_ofPairs]
  exact find?_map h

/-- A report is valid iff no message was added. -/
theorem isValid_ofPairs (pairs : List (String × Value)) :
    (ofPairs pairs).isValid = true ↔ pairs = [] := by
  rw [isValid, errors_ofPairs, grouped, List.isEmpty_iff, List.map_eq_nil_iff]
  constructor
  · intro h
    cases pairs with
    | nil => rfl
    | cons p pairs =>
      have hp : p.1 ∈ names (p :: pairs) := mem_names.mpr ⟨p, List.mem_cons_self, rfl⟩
      rw [h] at hp
      simp at hp
  · rintro rfl
    rfl

end Report

end Rulebook

import Mathlib.Data.List.Induction
import Rulebook.Proofs.Report
import Rulebook.Proofs.Table

/-!
# Merging reports

A report that is made by adding messages and by merging others into it groups the messages that
were recorded in it, those of a merged report behind its own. So reports behave under merging as
what was recorded in them behaves under appending.

* `Report.ofPairs_merge`: the report of some messages merged with that of others is the report of
  all of them.
* `Report.Making`: how a report is made. `Report.Making.report_eq`: it groups what was recorded.
* `Report.Named`, `Report.Tidy`: what holds of the properties of such a report.
* `Report.Named.toMapping_eq`: the mapping made of a report has its entries in their order.
-/

namespace Rulebook

namespace Report

/-! ## Appended messages -/

theorem messagesFor_append (ps qs : List (String × Value)) (name : String) :
    messagesFor (ps ++ qs) name = messagesFor ps name ++ messagesFor qs name := by
  simp [messagesFor]

theorem mem_names_append {ps qs : List (String × Value)} {name : String} :
    name ∈ names (ps ++ qs) ↔ name ∈ names ps ∨ name ∈ names qs := by
  simp [names, List.mem_eraseDups]

/-- The names of more messages come behind those that are there, if they are new. -/
theorem names_append (ps qs : List (String × Value)) :
    names (ps ++ qs) = names ps ++ (names qs).filter fun name => decide (name ∉ names ps) := by
  induction qs using List.reverseRecOn with
  | nil => simp [names]
  | append_singleton qs q ih =>
    have hmem : q.1 ∈ names (ps ++ qs) ↔ q.1 ∈ names ps ∨ q.1 ∈ names qs := mem_names_append
    rw [← List.append_assoc, names_append_one, names_append_one]
    by_cases hp : q.1 ∈ names ps
    · rw [if_pos (hmem.mpr (.inl hp)), ih]
      split <;> simp [hp]
    · by_cases hq : q.1 ∈ names qs
      · rw [if_pos (hmem.mpr (.inr hq)), if_pos hq, ih]
      · rw [if_neg (by simp [hmem, hp, hq]), if_neg hq, ih]
        simp [hp]

/-- Messages are grouped alike if they have the same names in the same order, and the same
messages for each. -/
theorem ofPairs_congr {ps qs : List (String × Value)} (hnames : names ps = names qs)
    (hmessages : ∀ name, messagesFor ps name = messagesFor qs name) : ofPairs ps = ofPairs qs := by
  have herrors : (ofPairs ps).errors = (ofPairs qs).errors := by
    rw [errors_ofPairs, errors_ofPairs, grouped, grouped, hnames]
    exact List.map_congr_left fun name _ => by rw [hmessages]
  exact congrArg Report.mk herrors

/-! ## Messages that are grouped already -/

/-- The messages for names, name by name. -/
def spread (l : List String) (f : String → List Value) : List (String × Value) :=
  l.flatMap fun name => (f name).map fun m => (name, m)

theorem spread_cons (name : String) (l : List String) (f : String → List Value) :
    spread (name :: l) f = (f name).map (fun m => (name, m)) ++ spread l f := List.flatMap_cons

/-- Merging in what is grouped adds it name by name. -/
theorem merge_map (r : Report) (l : List String) (f : String → List Value) :
    r.merge ⟨l.map fun name => (.str name, f name)⟩ = r.addPairs (spread l f) := by
  induction l generalizing r with
  | nil => rfl
  | cons name l ih =>
    rw [spread_cons, addPairs_append, ← addAll_str, ← ih]
    rfl

theorem names_map (name : String) {messages : List Value} (h : messages ≠ []) :
    names (messages.map fun m => (name, m)) = [name] := by
  induction messages using List.reverseRecOn with
  | nil => exact absurd rfl h
  | append_singleton messages m ih =>
    rw [List.map_append, List.map_singleton, names_append_one]
    by_cases hm : messages = []
    · subst hm
      rfl
    · rw [ih hm, if_pos (List.mem_singleton.mpr rfl)]

theorem names_spread {l : List String} {f : String → List Value} (hl : l.Nodup)
    (hf : ∀ name ∈ l, f name ≠ []) : names (spread l f) = l := by
  induction l with
  | nil => rfl
  | cons name l ih =>
    obtain ⟨hname, hl⟩ := List.nodup_cons.mp hl
    obtain ⟨hfirst, hrest⟩ := List.forall_mem_cons.mp hf
    rw [spread_cons, names_append, names_map name hfirst, ih hl hrest,
      List.filter_eq_self.mpr fun k hk => ?_]
    · rfl
    · simpa using ne_of_mem_of_not_mem hk hname

theorem messagesFor_map (name key : String) (messages : List Value) :
    messagesFor (messages.map fun m => (key, m)) name = if key = name then messages else [] := by
  by_cases h : key = name <;> simp [messagesFor, List.filter_map, Function.comp_def, h]

theorem messagesFor_spread {l : List String} {f : String → List Value} (hl : l.Nodup)
    (name : String) : messagesFor (spread l f) name = if name ∈ l then f name else [] := by
  induction l with
  | nil => rfl
  | cons key l ih =>
    obtain ⟨hkey, hl⟩ := List.nodup_cons.mp hl
    rw [spread_cons, messagesFor_append, messagesFor_map, ih hl]
    by_cases h : key = name
    · subst h
      simp [hkey]
    · simp [h, Ne.symm h]

theorem messagesFor_ne_nil {pairs : List (String × Value)} {name : String}
    (h : name ∈ names pairs) : messagesFor pairs name ≠ [] := by
  obtain ⟨p, hp, hname⟩ := mem_names.mp h
  unfold messagesFor
  rw [ne_eq, List.map_eq_nil_iff]
  exact List.ne_nil_of_mem (List.mem_filter.mpr ⟨hp, by simpa using hname⟩)

/-- The report of some messages merged with that of others is the report of all of them. -/
theorem ofPairs_merge (ps qs : List (String × Value)) :
    (ofPairs ps).merge (ofPairs qs) = ofPairs (ps ++ qs) := by
  have hnodup := nodup_names qs
  have hmerge : (ofPairs ps).merge (ofPairs qs) =
      ofPairs (ps ++ spread (names qs) (messagesFor qs)) := by
    have hgrouped : ofPairs qs = ⟨grouped qs⟩ := congrArg Report.mk (errors_ofPairs qs)
    rw [hgrouped, grouped, merge_map, ofPairs, ofPairs, addPairs_append]
  rw [hmerge]
  refine ofPairs_congr ?_ fun name => ?_
  · rw [names_append, names_append, names_spread hnodup fun _ h => messagesFor_ne_nil h]
  · rw [messagesFor_append, messagesFor_append, messagesFor_spread hnodup]
    split
    · rfl
    · rename_i h
      rw [messagesFor_eq_nil h]

/-! ## What holds of the properties -/

/-- The messages that a report has for a property. -/
def under (r : Report) (name : String) : List Value := (Table.find? r.errors (.str name)).getD []

/-- Properties are named by texts, and no property is there twice. -/
structure Named (r : Report) : Prop where
  text : ∀ key ∈ Table.keys r.errors, ∃ name, key = .str name
  once : (Table.keys r.errors).Nodup

/-- Besides, every property that is there has messages. -/
structure Tidy (r : Report) : Prop extends Named r where
  messages : ∀ entry ∈ r.errors, entry.2 ≠ []

theorem Named.distinct {r : Report} (h : r.Named) :
    (Table.keys r.errors).Pairwise fun k l => k.sameKey l = false := by
  refine h.once.imp_of_mem fun hk hl hne => ?_
  obtain ⟨name, rfl⟩ := h.text _ hk
  obtain ⟨other, rfl⟩ := h.text _ hl
  simpa using fun e => hne (congrArg Value.str e)

/-- The mapping made of a report has its entries in their order. -/
theorem Named.toMapping_eq {r : Report} (h : r.Named) : r.toMapping = r.errors :=
  Table.foldl_insert (t := []) h.distinct

theorem ofPairs_tidy (pairs : List (String × Value)) : (ofPairs pairs).Tidy := by
  refine ⟨⟨fun key hkey => ?_, ?_⟩, fun entry hentry => ?_⟩
  · rw [keys_ofPairs, List.mem_map] at hkey
    obtain ⟨name, -, rfl⟩ := hkey
    exact ⟨name, rfl⟩
  · rw [keys_ofPairs]
    exact List.Pairwise.map Value.str (fun _ _ hne e => hne (Value.str.inj e)) (nodup_names pairs)
  · rw [errors_ofPairs, grouped, List.mem_map] at hentry
    obtain ⟨name, hname, rfl⟩ := hentry
    exact messagesFor_ne_nil hname

theorem contains_ofPairs (pairs : List (String × Value)) (name : String) :
    Table.contains (ofPairs pairs).errors (.str name) = decide (name ∈ names pairs) := by
  rw [Table.contains_eq_any, keys_ofPairs, List.any_map, Bool.eq_iff_iff, List.any_eq_true]
  simp

theorem under_ofPairs (pairs : List (String × Value)) (name : String) :
    (ofPairs pairs).under name = messagesFor pairs name := by
  unfold under
  by_cases h : name ∈ names pairs
  · rw [find?_ofPairs h]
    rfl
  · rw [Table.find?_eq_none (by rw [contains_ofPairs]; simpa using h), messagesFor_eq_nil h]
    rfl

/-- The properties of a merge are those of the first report and then the new ones of the second. -/
theorem keys_ofPairs_merge (ps qs : List (String × Value)) :
    Table.keys ((ofPairs ps).merge (ofPairs qs)).errors = Table.keys (ofPairs ps).errors ++
      (Table.keys (ofPairs qs).errors).filter fun key =>
        !Table.contains (ofPairs ps).errors key := by
  have hnew : (fun key => !Table.contains (ofPairs ps).errors key) ∘ Value.str =
      fun name => decide (name ∉ names ps) := by
    funext name
    simp [contains_ofPairs]
  rw [ofPairs_merge, keys_ofPairs, keys_ofPairs, keys_ofPairs, names_append, List.map_append,
    List.filter_map, hnew]

/-! ## Reports that are made -/

/-- How a report is made: from an empty one, by adding messages and by merging other reports that
are made into it. -/
inductive Making where
  | empty
  | add (m : Making) (name : String) (message : Value)
  | merge (m other : Making)

namespace Making

/-- The report that is made. -/
def report : Making → Report
  | .empty => .empty
  | .add m name message => m.report.add (.str name) message
  | .merge m other => m.report.merge other.report

/-- The messages that are recorded, in the order in which they come into the report. -/
def recorded : Making → List (String × Value)
  | .empty => []
  | .add m name message => m.recorded ++ [(name, message)]
  | .merge m other => m.recorded ++ other.recorded

/-- A report groups the messages that were recorded when it was made. -/
theorem report_eq (m : Making) : m.report = ofPairs m.recorded := by
  induction m with
  | empty => rfl
  | add m name message ih => rw [report, recorded, ih, ofPairs, ofPairs, addPairs_append]; rfl
  | merge m other ihm iho => rw [report, recorded, ihm, iho, ofPairs_merge]

theorem tidy (m : Making) : m.report.Tidy := by
  rw [m.report_eq]
  exact ofPairs_tidy _

end Making

end Report

end Rulebook

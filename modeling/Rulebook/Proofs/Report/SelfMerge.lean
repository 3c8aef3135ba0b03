import Rulebook.Proofs.Report.Merge

/-!
# Merging a report into itself

A report that is merged into itself reads the messages that it adds. A property that has a message
therefore always has one left to read: the merge never gets past the first such property, whose
messages are repeated over and over. Only where no property has any messages is the merge ever
done, and then it has changed nothing.

* `Report.SelfMerge.after`: the merge after some steps.
* `Report.SelfMerge.finish_eq_some_iff`: a merge is done iff some number of steps ends it.
* `Report.SelfMerge.after_empty`, `Report.SelfMerge.after_reading`: the steps past properties
  without messages, and those at the first property that has some.
* `Report.mergeInPlace_ends_iff`: which reports can be merged into themselves.
-/

namespace Rulebook

namespace Report

namespace SelfMerge

/-! ## Steps -/

/-- The merge after some steps; nothing if it is done before. -/
def after : Nat → SelfMerge → Option SelfMerge
  | 0, m => some m
  | n + 1, m => m.next.bind (after n)

theorem after_add (n k : Nat) (m : SelfMerge) : after (n + k) m = (after n m).bind (after k) := by
  induction n generalizing m with
  | zero => rw [Nat.zero_add]; rfl
  | succ n ih =>
    rw [Nat.succ_add, after, after]
    cases m.next with
    | none => rfl
    | some next => exact ih next

theorem after_succ {n : Nat} {m last : SelfMerge} (h : after n m = some last) :
    after (n + 1) m = last.next := by
  rw [after_add, h]
  show last.next.bind (after 0) = last.next
  cases last.next <;> rfl

/-- A merge is done with a report iff it comes to an end after some steps, with this report. -/
theorem finish_eq_some_iff {m : SelfMerge} {r : Report} :
    m.finish = some r ↔ ∃ n last, after n m = some last ∧ last.next = none ∧ last.report = r := by
  constructor
  · intro h
    refine finish.partial_correctness (fun m r => ∃ n last, after n m = some last ∧
      last.next = none ∧ last.report = r) (fun rest ih m r h => ?_) m r h
    cases hnext : m.next with
    | none =>
      rw [hnext] at h
      exact ⟨0, m, rfl, hnext, Option.some.inj h⟩
    | some next =>
      rw [hnext] at h
      obtain ⟨n, last, hlast, hdone⟩ := ih next r h
      exact ⟨n + 1, last, by rw [after, hnext]; exact hlast, hdone⟩
  · rintro ⟨n, last, hlast, hdone, rfl⟩
    induction n generalizing m with
    | zero =>
      obtain rfl := Option.some.inj hlast
      rw [finish, hdone]
    | succ n ih =>
      rw [after] at hlast
      cases hnext : m.next with
      | none => rw [hnext] at hlast; cases hlast
      | some next =>
        rw [hnext] at hlast
        rw [finish, hnext]
        exact ih hlast

/-- A merge that goes on after any number of steps is never done. -/
theorem finish_eq_none {m : SelfMerge} (h : ∀ n, ∃ k last, n ≤ k ∧ after k m = some last) :
    m.finish = none := by
  by_contra hne
  obtain ⟨r, hr⟩ := Option.ne_none_iff_exists'.mp hne
  obtain ⟨n, last, hlast, hdone, -⟩ := finish_eq_some_iff.mp hr
  obtain ⟨k, later, hk, hlater⟩ := h (n + 1)
  obtain ⟨d, rfl⟩ := Nat.exists_eq_add_of_le hk
  rw [after_add, after_succ hlast, hdone] at hlater
  cases hlater

/-! ## Properties without messages -/

/-- Properties without messages are passed, and nothing is changed. -/
theorem after_empty {r : Report} {i n : Nat}
    (h : ∀ j < n, ∃ name, r.errors[i + j]? = some (name, [])) :
    after n ⟨i, 0, r⟩ = some ⟨i + n, 0, r⟩ := by
  induction n with
  | zero => rfl
  | succ n ih =>
    obtain ⟨name, hname⟩ := h n (Nat.lt_succ_self n)
    rw [after_succ (ih fun j hj => h j (Nat.lt_succ_of_lt hj)), next, hname]
    rfl

/-! ## A property with messages -/

variable {done rest : List (Value × List Value)} {name : Value} {messages texts : List Value}

/-- Properties that are not looked for are left as they are. -/
theorem addTo_append (h : ∀ entry ∈ done, entry.1.sameKey name = false) (m : Value) :
    addTo (done ++ rest) name m = done ++ addTo rest name m := by
  induction done with
  | nil => rfl
  | cons entry done ih =>
    obtain ⟨hentry, hdone⟩ := List.forall_mem_cons.mp h
    rw [List.cons_append, addTo, hentry, if_neg Bool.false_ne_true, ih hdone]
    rfl

/-- One more message for a property goes where the property stands. -/
theorem add_at (h : Named ⟨done ++ (name, texts) :: rest⟩) (m : Value) :
    add ⟨done ++ (name, texts) :: rest⟩ name m = ⟨done ++ (name, texts ++ [m]) :: rest⟩ := by
  have hkeys : Table.keys (done ++ (name, texts) :: rest) =
      Table.keys done ++ name :: Table.keys rest := List.map_append
  have hdistinct := h.distinct
  rw [hkeys, List.pairwise_append] at hdistinct
  have hdone : ∀ entry ∈ done, entry.1.sameKey name = false := fun entry hentry =>
    hdistinct.2.2 entry.1 (List.mem_map_of_mem hentry) name List.mem_cons_self
  have hself : name.sameKey name = true := by
    obtain ⟨text, rfl⟩ := h.text name (by rw [hkeys]; simp)
    simp
  rw [add, addTo_append hdone, addTo, if_pos hself]

/-- Which messages a property has is nothing to its name. -/
theorem named_at (h : Named ⟨done ++ (name, messages) :: rest⟩) (texts : List Value) :
    Named ⟨done ++ (name, texts) :: rest⟩ := by
  have hkeys : Table.keys (done ++ (name, texts) :: rest) =
      Table.keys (done ++ (name, messages) :: rest) := by
    simp [Table.keys]
  exact ⟨by rw [hkeys]; exact h.text, by rw [hkeys]; exact h.once⟩

/-- At a property with messages the merge adds one message with every step, and has as many left
to read as before: what the property has is its messages over and over. -/
theorem after_reading (h : Named ⟨done ++ (name, messages) :: rest⟩) (hne : messages ≠ [])
    (n : Nat) : ∃ texts,
      after n ⟨done.length, 0, ⟨done ++ (name, messages) :: rest⟩⟩ =
        some ⟨done.length, n, ⟨done ++ (name, texts) :: rest⟩⟩ ∧
      texts.length = messages.length + n ∧
      ∀ k < texts.length, texts[k]? = messages[k % messages.length]? := by
  have hpos : 0 < messages.length := List.length_pos_iff.mpr hne
  induction n with
  | zero => exact ⟨messages, rfl, rfl, fun k hk => by rw [Nat.mod_eq_of_lt hk]⟩
  | succ n ih =>
    obtain ⟨texts, hafter, hlength, hrepeat⟩ := ih
    have hn : n < texts.length := by omega
    have hread : (done ++ (name, texts) :: rest)[done.length]? = some (name, texts) := by simp
    have hnext : next ⟨done.length, n, ⟨done ++ (name, texts) :: rest⟩⟩ =
        some ⟨done.length, n + 1, ⟨done ++ (name, texts ++ [texts[n]]) :: rest⟩⟩ := by
      simp only [next, hread, List.getElem?_eq_getElem hn, add_at (named_at h texts)]
    refine ⟨texts ++ [texts[n]], (after_succ hafter).trans hnext, ?_, fun k hk => ?_⟩
    · rw [List.length_append, List.length_singleton, hlength, Nat.add_assoc]
    · by_cases hlt : k < texts.length
      · rw [List.getElem?_append_left hlt, hrepeat k hlt]
      · -- the new message is the one that is read, a whole round of messages before its place
        have hk' : k = messages.length + n := by simp at hk; omega
        rw [List.getElem?_append_right (by omega), hk', hlength, Nat.sub_self,
          List.getElem?_cons_zero, ← List.getElem?_eq_getElem hn, hrepeat n hn,
          Nat.add_mod_left]

end SelfMerge

/-! ## Which reports can be merged into themselves -/

variable {r : Report}

/-- Where no property has messages, the merge is done and has changed nothing. -/
theorem mergeInPlace_of_empty (h : ∀ entry ∈ r.errors, entry.2 = []) :
    r.mergeInPlace = some r := by
  refine SelfMerge.finish_eq_some_iff.mpr ⟨r.errors.length, ⟨0 + r.errors.length, 0, r⟩,
    SelfMerge.after_empty fun j hj => ?_, ?_, rfl⟩
  · refine ⟨r.errors[j].1, ?_⟩
    rw [Nat.zero_add, List.getElem?_eq_getElem hj, ← h _ (List.getElem_mem hj)]
  · simp [SelfMerge.next]

/-- Up to the first property with messages, and any number of steps at this property. -/
theorem mergeInPlace_reading {done rest : List (Value × List Value)} {name : Value}
    {messages : List Value} (h : Named ⟨done ++ (name, messages) :: rest⟩)
    (hdone : ∀ entry ∈ done, entry.2 = []) (hne : messages ≠ []) (n : Nat) : ∃ texts,
      SelfMerge.after (done.length + n) ⟨0, 0, ⟨done ++ (name, messages) :: rest⟩⟩ =
        some ⟨done.length, n, ⟨done ++ (name, texts) :: rest⟩⟩ ∧
      texts.length = messages.length + n ∧
      ∀ k < texts.length, texts[k]? = messages[k % messages.length]? := by
  have hpassed : SelfMerge.after done.length ⟨0, 0, ⟨done ++ (name, messages) :: rest⟩⟩ =
      some ⟨0 + done.length, 0, ⟨done ++ (name, messages) :: rest⟩⟩ := by
    refine SelfMerge.after_empty fun j hj => ⟨done[j].1, ?_⟩
    rw [Nat.zero_add, List.getElem?_append_left hj, List.getElem?_eq_getElem hj,
      ← hdone _ (List.getElem_mem hj)]
  obtain ⟨texts, hafter, hlength, hrepeat⟩ := SelfMerge.after_reading h hne n
  refine ⟨texts, ?_, hlength, hrepeat⟩
  rw [SelfMerge.after_add, hpassed, Nat.zero_add]
  exact hafter

/-- Where a property has messages, there is a first one that has some. -/
theorem exists_first {entry : Value × List Value} (hentry : entry ∈ r.errors)
    (hne : entry.2 ≠ []) : ∃ done name messages rest,
      r.errors = done ++ (name, messages) :: rest ∧ (∀ e ∈ done, e.2 = []) ∧ messages ≠ [] := by
  cases hfind : r.errors.find? fun e => !e.2.isEmpty with
  | none =>
    have hempty := List.find?_eq_none.mp hfind entry hentry
    exact absurd (by simpa using hempty) hne
  | some first =>
    obtain ⟨hfirst, done, rest, hsplit, hdone⟩ := List.find?_eq_some_iff_append.mp hfind
    refine ⟨done, first.1, first.2, rest, hsplit, fun e he => ?_, ?_⟩
    · simpa using hdone e he
    · simpa using hfirst

/-- A report with messages cannot be merged into itself: the merge is never done. -/
theorem mergeInPlace_eq_none {entry : Value × List Value} (h : r.Named)
    (hentry : entry ∈ r.errors) (hne : entry.2 ≠ []) : r.mergeInPlace = none := by
  obtain ⟨done, name, messages, rest, hsplit, hdone, hmessages⟩ := exists_first hentry hne
  obtain ⟨errors⟩ := r
  subst hsplit
  refine SelfMerge.finish_eq_none fun n => ?_
  obtain ⟨texts, hafter, -⟩ := mergeInPlace_reading h hdone hmessages n
  exact ⟨done.length + n, _, Nat.le_add_left n _, hafter⟩

/-- A report that can be merged into itself is not changed by it, and has no messages. -/
theorem mergeInPlace_eq_some {r' : Report} (h : r.Named) (hr : r.mergeInPlace = some r') :
    r' = r ∧ ∀ entry ∈ r.errors, entry.2 = [] := by
  have hempty : ∀ entry ∈ r.errors, entry.2 = [] := by
    intro entry hentry
    by_contra hne
    rw [mergeInPlace_eq_none h hentry hne] at hr
    cases hr
  rw [mergeInPlace_of_empty hempty] at hr
  exact ⟨(Option.some.inj hr).symm, hempty⟩

/-- A report can be merged into itself iff no property has messages, and is then left as it is.
Otherwise the merge goes on for ever at the first property with messages: its messages are there
over and over, one more after every step, and the properties behind it are never reached. -/
theorem mergeInPlace_ends_iff (h : r.Named) :
    ((∃ r', r.mergeInPlace = some r') ↔ ∀ entry ∈ r.errors, entry.2 = []) ∧
    (∀ r', r.mergeInPlace = some r' → r' = r) ∧
    ∀ done name messages rest, r.errors = done ++ (name, messages) :: rest →
      (∀ entry ∈ done, entry.2 = []) → messages ≠ [] → ∀ n, ∃ texts,
        SelfMerge.after (done.length + n) ⟨0, 0, r⟩ =
          some ⟨done.length, n, ⟨done ++ (name, texts) :: rest⟩⟩ ∧
        texts.length = messages.length + n ∧
        ∀ k < texts.length, texts[k]? = messages[k % messages.length]? := by
  refine ⟨⟨?_, fun hempty => ⟨r, mergeInPlace_of_empty hempty⟩⟩,
    fun r' hr => (mergeInPlace_eq_some h hr).1, ?_⟩
  · rintro ⟨r', hr⟩
    exact (mergeInPlace_eq_some h hr).2
  · intro done name messages rest hsplit hdone hne
    obtain ⟨errors⟩ := r
    subst hsplit
    exact mergeInPlace_reading h hdone hne

/-- Of two properties with messages the first one gets all that is added. -/
theorem mergeInPlace_ends_iff_pair :
    let rest : List (Value × List Value) := [(.str "age", [.str "low"])]
    let r : Report := ⟨(.str "name", [.str "short", .str "odd"]) :: rest⟩
    (¬ ∃ r', r.mergeInPlace = some r') ∧
    ∀ n, ∃ texts, SelfMerge.after n ⟨0, 0, r⟩ = some ⟨0, n, ⟨(.str "name", texts) :: rest⟩⟩ ∧
      texts.length = 2 + n ∧
      ∀ k < texts.length, texts[k]? = some (.str (if k % 2 = 0 then "short" else "odd")) := by
  intro rest r
  have hnamed : r.Named := by
    refine ⟨fun key hkey => ?_, by simp [r, rest, Table.keys]⟩
    have hkey : key = .str "name" ∨ key = .str "age" := by
      simpa [r, rest, Table.keys] using hkey
    exact hkey.elim (fun h => ⟨_, h⟩) fun h => ⟨_, h⟩
  obtain ⟨hends, -, hreading⟩ := mergeInPlace_ends_iff hnamed
  refine ⟨?_, fun n => ?_⟩
  · rw [hends]
    simp [r]
  · obtain ⟨texts, hafter, hlength, hrepeat⟩ :=
      hreading [] (.str "name") [.str "short", .str "odd"] rest rfl (by simp) (by simp) n
    rw [List.length_nil, Nat.zero_add] at hafter
    refine ⟨texts, hafter, hlength, fun k hk => (hrepeat k hk).trans ?_⟩
    rcases Nat.mod_two_eq_zero_or_one k with h | h <;> simp [h]

/-- A report with one message: its merge into itself goes on after any number of steps, so there is
no report with the message twice. -/
theorem mergeInPlace_single :
    let r : Report := ⟨[(.str "name", [.str "missing"])]⟩
    r.mergeInPlace = none ∧ ∀ n, ∃ m, SelfMerge.after n ⟨0, 0, r⟩ = some m ∧ m.next ≠ none := by
  intro r
  have hnamed : r.Named :=
    ⟨fun key hkey => ⟨"name", List.mem_singleton.mp hkey⟩, by simp [r, Table.keys]⟩
  refine ⟨mergeInPlace_eq_none hnamed List.mem_cons_self (List.cons_ne_nil _ _), fun n => ?_⟩
  have hsteps := @mergeInPlace_reading [] [] (.str "name") [.str "missing"] hnamed (by simp)
    (by simp)
  obtain ⟨texts, hafter, -⟩ := hsteps n
  obtain ⟨later, hlater, -⟩ := hsteps (n + 1)
  simp only [List.length_nil, Nat.zero_add] at hafter hlater
  refine ⟨_, hafter, fun hnone => ?_⟩
  rw [SelfMerge.after_succ hafter, hnone] at hlater
  cases hlater

end Report

end Rulebook

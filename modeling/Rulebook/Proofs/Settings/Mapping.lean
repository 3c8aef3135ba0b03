import Mathlib
import Rulebook.Proofs.Settings.Entries

/-!
# Settings of a mapping

Which settings a mapping stands for, if any, depends on what it has under the names of settings and
on nothing else. The entries are looked at in order and the template at the end, so the order only
tells which of several faults is met first. Unknown entries only leave a record in the log; one
whose key has no text has no record, and that is a fault.

* `Settings.Suited`, `Settings.KeysWritten`: what is asked of the entries of a mapping.
* `Settings.firstFault?_eq_none_iff`: entries have no fault iff they are so.
* `Settings.ofMapping_by_names`: what comes of a mapping and of variables.
-/

namespace Rulebook

namespace Settings

/-! ## Keys that are texts -/

/-- No two entries have the same text as their key. -/
def DistinctTexts (entries : List (Value × Value)) : Prop :=
  entries.Pairwise fun a b => ∀ name, a.1 = .str name → b.1 ≠ .str name

variable {entries others : List (Value × Value)}

theorem DistinctTexts.perm (h : DistinctTexts entries) (hperm : entries.Perm others) :
    DistinctTexts others :=
  List.Pairwise.perm h hperm fun hab name hb ha => hab name ha hb

/-- A mapping has a value under a text iff this is one of its entries. -/
theorem DistinctTexts.under?_eq_some_iff (h : DistinctTexts entries) {name : String} {v : Value} :
    Value.under? name entries = some v ↔ (.str name, v) ∈ entries := by
  refine ⟨Value.mem_of_under?, fun hmem => ?_⟩
  induction entries with
  | nil => cases hmem
  | cons e rest ih =>
    obtain ⟨hhead, hrest⟩ := List.pairwise_cons.mp h
    rw [Value.under?_cons]
    rcases List.mem_cons.mp hmem with rfl | hmem
    · simp [Value.isText]
    · rw [if_neg, ih hrest hmem]
      exact fun hname => hhead _ hmem name (Value.isText_iff.mp hname) rfl

theorem DistinctTexts.under?_perm (h : DistinctTexts entries) (hperm : entries.Perm others)
    (name : String) : Value.under? name entries = Value.under? name others := by
  ext v
  rw [h.under?_eq_some_iff, (h.perm hperm).under?_eq_some_iff, hperm.mem_iff]

theorem DistinctTexts.latest?_eq (h : DistinctTexts entries) (s : Setting) :
    Entries.latest? entries s = Value.under? s.name entries :=
  (h.under?_perm entries.reverse_perm.symm s.name).symm

/-! ## Known and unknown entries -/

/-- The entries under the names of settings. -/
def known (entries : List (Value × Value)) : List (Value × Value) :=
  entries.filter fun e => (Setting.ofKey? e.1).isSome

/-- The keys that are no names of settings, in order. -/
def unknownKeys (entries : List (Value × Value)) : List Value :=
  (entries.map Prod.fst).filter fun key => (Setting.ofKey? key).isNone

/-- What there is under the name of a setting is a value for it. -/
def Suited (entries : List (Value × Value)) : Prop :=
  ∀ (s : Setting) (v : Value), Value.under? s.name entries = some v → s.Suits v

/-- All unknown keys have texts. -/
def KeysWritten (entries : List (Value × Value)) : Prop :=
  ∀ key ∈ unknownKeys entries, ∃ text, key.text = .ok text

/-- The record of an unknown key. -/
def Reports (key : Value) (record : LogRecord) : Prop :=
  ∃ text, key.text = .ok text ∧
    record = ⟨.warning, "Ignoring unknown validation setting: " ++ text⟩

theorem under?_known (entries : List (Value × Value)) (s : Setting) :
    Value.under? s.name (known entries) = Value.under? s.name entries := by
  induction entries with
  | nil => rfl
  | cons e rest ih =>
    rw [Value.under?_cons, known, List.filter_cons]
    by_cases hknown : (Setting.ofKey? e.1).isSome
    · rw [if_pos hknown, Value.under?_cons]
      exact congrArg _ ih
    · rw [if_neg hknown, if_neg]
      · exact ih
      · intro hname
        rw [Value.isText_iff.mp hname, Setting.ofKey?_name] at hknown
        exact hknown rfl

/-- Entries whose known ones are the same but for the order have the same under all names. -/
theorem under?_congr (h : DistinctTexts entries) (hperm : (known entries).Perm (known others))
    (s : Setting) : Value.under? s.name entries = Value.under? s.name others := by
  have hknown : DistinctTexts (known entries) := List.Pairwise.filter _ h
  rw [← under?_known entries, ← under?_known others, hknown.under?_perm hperm]

/-! ## Entries without a fault -/

theorem mem_unknownKeys {key : Value} : key ∈ unknownKeys entries ↔
    Setting.ofKey? key = none ∧ ∃ v, (key, v) ∈ entries := by
  simp [unknownKeys, and_comm]

theorem entryFault?_eq_none_iff {e : Value × Value} : entryFault? e = none ↔
    (∀ s : Setting, e.1 = .str s.name → s ≠ .message → s.Suits e.2) ∧
      (Setting.ofKey? e.1 = none → ∃ text, e.1.text = .ok text) := by
  obtain ⟨key, v⟩ := e
  simp only [← Setting.ofKey?_eq_some_iff]
  cases hkey : Setting.ofKey? key with
  | none => cases htext : key.text <;> simp [entryFault?, hkey, htext]
  | some s => cases s <;> simp [entryFault?, hkey, ← valueFault?_eq_none_iff]

/-- There is no fault iff all that stands under a name suits and all unknown keys have texts. -/
theorem firstFault?_eq_none_iff (h : DistinctTexts entries) :
    firstFault? entries = none ↔ Suited entries ∧ KeysWritten entries := by
  -- The template is looked at once, at the end; all else where it stands.
  have hmessage : (Entries.latest? entries .message).bind (valueFault? .message) = none ↔
      ∀ v, Value.under? (Setting.name .message) entries = some v → Setting.message.Suits v := by
    rw [h.latest?_eq, Option.bind_eq_none_iff]
    simp only [valueFault?_eq_none_iff]
  have hentries : entries.findSome? entryFault? = none ↔
      (∀ s : Setting, s ≠ .message → ∀ v, Value.under? s.name entries = some v → s.Suits v) ∧
        KeysWritten entries := by
    rw [List.findSome?_eq_none_iff]
    simp only [entryFault?_eq_none_iff, h.under?_eq_some_iff]
    constructor
    · refine fun hall => ⟨fun s hs v hv => (hall _ hv).1 s rfl hs, fun key hkey => ?_⟩
      obtain ⟨hunknown, v, hv⟩ := mem_unknownKeys.mp hkey
      exact (hall _ hv).2 hunknown
    · rintro ⟨hsuits, hwritten⟩ ⟨key, v⟩ he
      refine ⟨?_, fun hunknown => hwritten key (mem_unknownKeys.mpr ⟨hunknown, v, he⟩)⟩
      rintro s rfl hs
      exact hsuits s hs v he
  rw [firstFault?, Option.or_eq_none_iff, hentries, hmessage]
  constructor
  · rintro ⟨⟨hothers, hwritten⟩, htemplate⟩
    refine ⟨fun s => ?_, hwritten⟩
    by_cases hs : s = .message
    · exact hs ▸ htemplate
    · exact hothers s hs
  · rintro ⟨hsuited, hwritten⟩
    exact ⟨⟨fun s _ => hsuited s, hwritten⟩, hsuited .message⟩

/-- Without a fault each unknown key leaves its record, in order. -/
theorem warned_reports (hfault : ∀ e ∈ entries, entryFault? e = none) :
    List.Forall₂ Reports (unknownKeys entries) (Entries.warned entries) := by
  induction entries with
  | nil => exact .nil
  | cons e rest ih =>
    obtain ⟨hhead, hrest⟩ := List.forall_mem_cons.mp hfault
    rw [Entries.warned_cons hhead, unknownKeys, List.map_cons, List.filter_cons]
    cases hkey : Setting.ofKey? e.1 with
    | some s =>
      have hsilent : warning? e.1 = none := by simp [warning?, hkey]
      rw [if_neg (by simp), hsilent]
      exact ih hrest
    | none =>
      obtain ⟨text, htext⟩ := (entryFault?_eq_none_iff.mp hhead).2 hkey
      have hrecord : warning? e.1 =
          some ⟨.warning, "Ignoring unknown validation setting: " ++ text⟩ := by
        simp [warning?, hkey, htext]
      rw [if_pos (by simp), hrecord]
      exact .cons ⟨text, htext, rfl⟩ (ih hrest)

/-! ## Mappings -/

theorem ofMapping_run (entries : List (Value × Value)) (log : List LogRecord) :
    (ofMapping (.dict entries)).run log = (match firstFault? entries with
      | some f => .error f
      | none => .ok (settingsOf (Entries.latest? entries)), log ++ Entries.warned entries) :=
  ofEntries_run entries log

/-- What comes of a mapping whose keys are distinct: settings from what is under the names, and a
record for each unknown key, if all suits and can be written; otherwise a fault. -/
theorem ofMapping_outcome (h : DistinctTexts entries) (log : List LogRecord) :
    (Suited entries ∧ KeysWritten entries ∧ ∃ records,
      (ofMapping (.dict entries)).run log =
        (.ok (settingsOf fun s => Value.under? s.name entries), log ++ records) ∧
      List.Forall₂ Reports (unknownKeys entries) records) ∨
    (¬(Suited entries ∧ KeysWritten entries) ∧ ∃ f after,
      (ofMapping (.dict entries)).run log = (.error f, after) ∧
      (f.IsOfDeclarations ∨ ∃ e ∈ entries, Unwritten e f)) := by
  rw [ofMapping_run, ← firstFault?_eq_none_iff h, ← and_assoc, ← firstFault?_eq_none_iff h]
  cases hfirst : firstFault? entries with
  | some f => exact .inr ⟨nofun, f, _, rfl, firstFault?_cases hfirst⟩
  | none =>
    have hentries := (Option.or_eq_none_iff.mp hfirst).1
    refine .inl ⟨rfl, _, ?_, warned_reports (List.findSome?_eq_none_iff.mp hentries)⟩
    rw [funext h.latest?_eq]

/-- The settings that a mapping stands for, if any. -/
theorem ofMapping_ok_iff (h : DistinctTexts entries) (log : List LogRecord) (settings : Settings) :
    (∃ after, (ofMapping (.dict entries)).run log = (.ok settings, after)) ↔
      (Suited entries ∧ KeysWritten entries) ∧
        settings = settingsOf fun s => Value.under? s.name entries := by
  rcases ofMapping_outcome h log with
    ⟨hsuited, hwritten, records, hrun, -⟩ | ⟨hnot, f, after, hrun, -⟩
  · rw [hrun]
    constructor
    · rintro ⟨_, ⟨⟩⟩
      exact ⟨⟨hsuited, hwritten⟩, rfl⟩
    · rintro ⟨-, rfl⟩
      exact ⟨_, rfl⟩
  · rw [hrun]
    constructor
    · rintro ⟨_, ⟨⟩⟩
    · exact fun h => absurd h.1 hnot

/-- Neither the order nor unknown entries with texts count. -/
theorem ofMapping_ok_congr (h : DistinctTexts entries) (hothers : DistinctTexts others)
    (hperm : (known entries).Perm (known others)) (hwritten : KeysWritten entries)
    (hwrittenOthers : KeysWritten others) (log : List LogRecord) (settings : Settings) :
    (∃ after, (ofMapping (.dict entries)).run log = (.ok settings, after)) ↔
      ∃ after, (ofMapping (.dict others)).run log = (.ok settings, after) := by
  have hunder := under?_congr h hperm
  have hsuited : Suited entries ↔ Suited others := by simp only [Suited, hunder]
  rw [ofMapping_ok_iff h, ofMapping_ok_iff hothers, hsuited, funext hunder,
    and_iff_left hwritten, and_iff_left hwrittenOthers]

/-! ## Variables -/

/-- The mapping of the names of settings to what there is under the names of variables. -/
def variablesOf (start : String) (environment : List (Value × Value)) : List (Value × Value) :=
  variableNames.filterMap fun (name, setting) =>
    (Value.under? (start ++ name) environment).map fun v => (.str setting, v)

theorem variableEntries_eq (start : String) (environment : List (Value × Value))
    (names : List (String × String)) : variableEntries start (.dict environment) names =
      .ok (names.filterMap fun (name, setting) =>
        (Value.under? (start ++ name) environment).map fun v => (.str setting, v)) := by
  induction names with
  | nil => rfl
  | cons n rest ih =>
    obtain ⟨name, setting⟩ := n
    simp only [variableEntries, Value.isIn_mapping, ok_then, ih, List.filterMap_cons]
    cases hfound : Value.under? (start ++ name) environment with
    | none => simp
    | some v =>
      rw [if_pos (by rfl), Value.item_mapping hfound]
      rfl

theorem ofEnvironment_eq (start : String) (environment : List (Value × Value)) :
    ofEnvironment start (.dict environment) =
      ofMapping (.dict (variablesOf start environment)) := by
  rw [ofEnvironment, variableEntries_eq]
  rfl

/-! ## Both at once -/

/-- Settings are made of a mapping with distinct keys if and only if what it has under the names
suits and its unknown keys have texts. They are made of what is under the names, and each unknown
key is reported, in order; a fault is one of the configuration, or an entry cannot be told of.
Another order and other unknown entries give the same settings. Variables stand for the mapping of
the names to what there is under the prefixed names, and no other variable counts. -/
theorem ofMapping_by_names :
    (∀ entries : List (Value × Value), DistinctTexts entries → ∀ log : List LogRecord,
      ((∃ settings after, (ofMapping (.dict entries)).run log = (.ok settings, after)) ↔
        Suited entries ∧ KeysWritten entries) ∧
      (∀ settings after, (ofMapping (.dict entries)).run log = (.ok settings, after) →
        settings = settingsOf (fun s => Value.under? s.name entries) ∧
        ∃ records, after = log ++ records ∧
          List.Forall₂ Reports (unknownKeys entries) records) ∧
      (∀ f after, (ofMapping (.dict entries)).run log = (.error f, after) →
        f.IsOfDeclarations ∨ ∃ e ∈ entries, Unwritten e f) ∧
      (∀ others, DistinctTexts others → (known entries).Perm (known others) →
        KeysWritten entries → KeysWritten others → ∀ settings,
        (∃ after, (ofMapping (.dict entries)).run log = (.ok settings, after)) ↔
          ∃ after, (ofMapping (.dict others)).run log = (.ok settings, after))) ∧
    (∀ (start : String) (environment : List (Value × Value)),
      ofEnvironment start (.dict environment) =
        ofMapping (.dict (variablesOf start environment)) ∧
      ∀ others, (∀ n ∈ variableNames,
          Value.under? (start ++ n.1) environment = Value.under? (start ++ n.1) others) →
        ofEnvironment start (.dict environment) = ofEnvironment start (.dict others)) := by
  refine ⟨fun entries h log => ⟨?_, ?_, ?_, ?_⟩, fun start environment => ⟨?_, ?_⟩⟩
  · constructor
    · rintro ⟨settings, hrun⟩
      exact ((ofMapping_ok_iff h log settings).mp hrun).1
    · exact fun hall => ⟨_, (ofMapping_ok_iff h log _).mpr ⟨hall, rfl⟩⟩
  · intro settings after hrun
    rcases ofMapping_outcome h log with ⟨-, -, records, hok, hrecords⟩ | ⟨-, f, after', herror, -⟩
    · cases hrun.symm.trans hok
      exact ⟨rfl, records, rfl, hrecords⟩
    · cases hrun.symm.trans herror
  · intro f after hrun
    rcases ofMapping_outcome h log with ⟨-, -, records, hok, -⟩ | ⟨-, f', after', herror, hkind⟩
    · cases hrun.symm.trans hok
    · cases hrun.symm.trans herror
      exact hkind
  · intro others hothers hperm hwritten hwrittenOthers settings
    exact ofMapping_ok_congr h hothers hperm hwritten hwrittenOthers log settings
  · exact ofEnvironment_eq start environment
  · intro others hsame
    have hvariables : variablesOf start environment = variablesOf start others :=
      List.filterMap_congr fun n hn => congrArg (Option.map _) (hsame n hn)
    rw [ofEnvironment_eq, ofEnvironment_eq, hvariables]

/-- A known entry and an unknown one. -/
def twoEntries : List (Value × Value) :=
  [(.str "allow_blocking_in_loop", .str " Off\n"), (.str "theme", .str "dark")]

theorem ofMapping_by_names_sample :
    (ofMapping (.dict twoEntries)).run [] =
      (.ok ⟨.system, .str defaultTemplate, .bool false⟩,
        [⟨.warning, "Ignoring unknown validation setting: theme"⟩]) ∧
    ∃ after, (ofMapping (.dict twoEntries.reverse)).run [] =
      (.ok ⟨.system, .str defaultTemplate, .bool false⟩, after) := by
  have hfalse : truthOf? (.str " Off\n") = some false := by decide +kernel
  have hdistinct : DistinctTexts twoEntries := by simp [DistinctTexts, twoEntries]
  have hsuited : Suited twoEntries := by
    intro s v hv
    cases s with
    | blocking => cases hv; exact truthOf?_isSome_iff.mp (by rw [hfalse]; rfl)
    | clock | message => cases hv
  have hwritten : KeysWritten twoEntries := by
    intro key hkey
    cases List.mem_singleton.mp hkey
    exact ⟨_, rfl⟩
  have hreversed : KeysWritten twoEntries.reverse := by
    intro key hkey
    cases List.mem_singleton.mp hkey
    exact ⟨_, rfl⟩
  have hsettings : settingsOf (fun s => Value.under? s.name twoEntries) =
      ⟨.system, .str defaultTemplate, .bool false⟩ := by
    have hunder : Value.under? (Setting.name .blocking) twoEntries = some (.str " Off\n") := rfl
    simp only [settingsOf, hunder, Option.bind_some, hfalse]
    rfl
  obtain ⟨hiff, hok, -, horder⟩ := ofMapping_by_names.1 _ hdistinct []
  obtain ⟨settings, after, hrun⟩ := hiff.mpr ⟨hsuited, hwritten⟩
  obtain ⟨rfl, records, rfl, hrecords⟩ := hok settings after hrun
  rw [hsettings] at hrun
  constructor
  · obtain ⟨_, _, ⟨_, ⟨⟩, rfl⟩, ⟨⟩, rfl⟩ := List.forall₂_cons_left_iff.mp hrecords
    exact hrun
  · exact (horder _ (hdistinct.perm (List.reverse_perm _).symm) (.refl _) hwritten hreversed _).mp
      ⟨_, hrun⟩

/-- A record that lacks its field has no text, so whether it is a word cannot be told. -/
theorem ofMapping_unshown :
    let flag : Value := .object 0 ⟨0, "Flag", "Flag", "app", .other, false, some ["on"], []⟩ []
    ¬Setting.blocking.Suits flag ∧ ∃ f,
      (ofMapping (.dict [(.str "allow_blocking_in_loop", flag)])).run [] = (.error f, []) ∧
        ¬f.IsOfDeclarations := by
  intro flag
  have htext : flag.text = .error (.noAttribute "Flag" "on") := rfl
  have hsuits : ¬Setting.blocking.Suits flag := by
    simp [Setting.Suits, htext, flag]
  have hunwritten : Unwritten (.str "allow_blocking_in_loop", flag) (.noAttribute "Flag" "on") :=
    .value (s := .blocking) hsuits (Value.text_error_iff.mp htext)
  exact ⟨hsuits, _, rfl, hunwritten.not_isOfDeclarations⟩

end Settings

end Rulebook

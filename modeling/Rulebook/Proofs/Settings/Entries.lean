import Mathlib
import Rulebook.Proofs.Property.Members
import Rulebook.Proofs.Declare.LiteralMessage
import Rulebook.Proofs.Value.Reading
import Rulebook.Proofs.Value.Writing
import Rulebook.Settings.Mapping

/-!
# What comes of the entries of settings

The entries of settings are looked at in order, and the template once all of them have been. The
first fault that is met ends it; it is one of the configuration, or one of writing what would be
told of an entry. Without a fault the last value under each name counts.

* `Setting`, `Setting.Suits`: a setting, and whether a value is one for it.
* `Settings.firstFault?`: the fault that entries end in, if any.
* `Settings.ofEntries_run`: what comes of entries, and what is written to the log meanwhile.
* `Settings.firstFault?_cases`: the two kinds of faults, the second one told by
  `Settings.Unwritten`.
-/

namespace Rulebook

/-- A setting that has a name. -/
inductive Setting where
  | clock
  | message
  | blocking
deriving DecidableEq, Repr

namespace Setting

/-- The name of a setting. -/
def name : Setting → String
  | .clock => Settings.clockName
  | .message => Settings.messageName
  | .blocking => Settings.blockingName

/-- The setting that a key is the name of. -/
def ofKey? (key : Value) : Option Setting :=
  [clock, message, blocking].find? fun s => Value.isText s.name key

/-- Whether a value is one for a setting: a clock can be called, a message is a template that
passes, and whether a loop may be blocked is told by a truth value or by one of the words. -/
def Suits : Setting → Value → Prop
  | .clock, v => v.isCallable = true
  | .message, v => ∃ t, v = .str t ∧ Template.check t = .ok ()
  | .blocking, v => (∃ b, v = .bool b) ∨ ∃ text, v.text = .ok text ∧
      lowerText (String.ofList (strip text.toList)) ∈ Settings.trueWords ++ Settings.falseWords

end Setting

namespace Setting

theorem ofKey?_eq_some_iff {key : Value} {s : Setting} :
    ofKey? key = some s ↔ key = .str s.name := by
  constructor
  · intro h
    have hname := List.find?_some h
    exact Value.isText_iff.mp hname
  · rintro rfl
    cases s <;> rfl

theorem ofKey?_name (s : Setting) : ofKey? (.str s.name) = some s := ofKey?_eq_some_iff.mpr rfl

theorem ofKey?_eq_none_iff {key : Value} :
    ofKey? key = none ↔ ∀ s : Setting, key ≠ .str s.name := by
  rw [Option.eq_none_iff_forall_ne_some]
  exact forall_congr' fun s => not_congr ofKey?_eq_some_iff

end Setting

namespace Settings

/-! ## One entry -/

/-- The truth value that a value stands for. -/
def truthOf? : Value → Option Bool
  | .bool b => some b
  | v =>
    match v.text with
    | .ok text => wordValue? text
    | .error _ => none

/-- The fault of a value that does not suit. It tells how the value is shown, unless that fails. -/
def unsuited (v : Value) (fault : String → Fault) : Fault :=
  match v.shown with
  | .ok shown => fault shown
  | .error f => f

/-- The fault of a value that does not suit a setting. -/
def valueFault? : Setting → Value → Option Fault
  | .clock, v => if v.isCallable then none else some (unsuited v .clockNotCallable)
  | .blocking, v =>
    if (truthOf? v).isSome then none else some (unsuited v (.notBoolean blockingName))
  | .message, .str t =>
    match Template.check t with
    | .ok _ => none
    | .error f => some f
  | .message, v => some (unsuited v .templateNotText)

/-- The fault that ends the looking at entries where this one is met. Templates are looked at
later. -/
def entryFault? (e : Value × Value) : Option Fault :=
  match Setting.ofKey? e.1 with
  | some .message => none
  | some s => valueFault? s e.2
  | none =>
    match e.1.text with
    | .ok _ => none
    | .error f => some f

/-- The record that an unknown key leaves in the log. -/
def warning? (key : Value) : Option LogRecord :=
  match Setting.ofKey? key, key.text with
  | none, .ok text => some ⟨.warning, "Ignoring unknown validation setting: " ++ text⟩
  | _, _ => none

/-- What has been found so far, with an entry that is no fault. -/
def Entries.took (found : Entries) (e : Value × Value) : Entries :=
  match Setting.ofKey? e.1 with
  | some .clock => { found with clock := some e.2 }
  | some .message => { found with message := some e.2 }
  | some .blocking => { found with blocking := (truthOf? e.2).map .bool }
  | .none => found

theorem wordValue?_isSome_iff {text : String} : (wordValue? text).isSome ↔
    lowerText (String.ofList (strip text.toList)) ∈ trueWords ++ falseWords := by
  simp only [wordValue?, List.mem_append]
  split
  · simp [*]
  · split <;> simp [*]

theorem truthOf?_of_text {v : Value} {text : String} (hbool : ∀ b, v ≠ .bool b)
    (htext : v.text = .ok text) : truthOf? v = wordValue? text := by
  unfold truthOf?
  split
  · exact absurd rfl (hbool _)
  · simp only [htext]

theorem truthOf?_of_error {v : Value} {f : Fault} (htext : v.text = .error f) :
    truthOf? v = none := by
  unfold truthOf?
  split
  · cases htext
  · simp only [htext]

theorem truthOf?_isSome_iff {v : Value} : (truthOf? v).isSome ↔ Setting.blocking.Suits v := by
  by_cases hbool : ∃ b, v = .bool b
  · obtain ⟨b, rfl⟩ := hbool
    exact iff_of_true rfl (.inl ⟨b, rfl⟩)
  · cases htext : v.text with
    | error f => simp [truthOf?_of_error htext, Setting.Suits, hbool, htext]
    | ok text =>
      rw [truthOf?_of_text (not_exists.mp hbool) htext, wordValue?_isSome_iff]
      simp [Setting.Suits, hbool, htext]

theorem unsuited_eq {α : Type} (v : Value) (fault : String → Fault) :
    (v.shown >>= fun shown => (.error (fault shown) : Except Fault α)) =
      .error (unsuited v fault) := by
  unfold unsuited
  cases v.shown <;> rfl

/-- What stands for no truth value is shown in the fault; what has no text cannot be shown, and is
reported for this reason at once. -/
theorem toBool_eq (v : Value) : toBool blockingName v =
    match truthOf? v with
    | some b => .ok b
    | none => .error (unsuited v (.notBoolean blockingName)) := by
  by_cases hbool : ∃ b, v = .bool b
  · obtain ⟨b, rfl⟩ := hbool
    rfl
  -- No text means that the showing in the fault would fail as well, and with the same fault.
  · rw [toBool]
    · cases htext : v.text with
      | error f => rw [error_then, truthOf?_of_error htext, unsuited, Value.text_error_iff.mp htext]
      | ok text =>
        rw [ok_then, truthOf?_of_text (not_exists.mp hbool) htext]
        cases wordValue? text with
        | some b => rfl
        | none => exact unsuited_eq v _
    · exact fun b h => hbool ⟨b, h⟩

/-- A setting does not take a value iff there is a fault of it. -/
theorem valueFault?_eq_none_iff {s : Setting} {v : Value} : valueFault? s v = none ↔ s.Suits v := by
  cases s with
  | clock => simp [valueFault?, Setting.Suits]
  | blocking => rw [← truthOf?_isSome_iff]; simp [valueFault?, Option.isSome_iff_ne_none]
  | message =>
    cases v with
    | str t =>
      rw [valueFault?, Setting.Suits]
      cases hcheck : Template.check t <;> simp [hcheck]
    | _ => simp [valueFault?, Setting.Suits]

namespace Entries

theorem add_blocking (found : Entries) (v : Value) : found.add (.str Setting.blocking.name) v =
    (liftM (toBool blockingName v) >>= fun b => pure { found with blocking := some (.bool b) }) :=
  rfl

theorem add_clock (found : Entries) (v : Value) : found.add (.str Setting.clock.name) v =
    if v.isCallable then pure { found with clock := some v }
    else liftM v.shown >>= fun shown => throw (.clockNotCallable shown) :=
  rfl

theorem add_message (found : Entries) (v : Value) :
    found.add (.str Setting.message.name) v = pure { found with message := some v } :=
  rfl

theorem add_unknown {key : Value} (hkey : Setting.ofKey? key = .none) (found : Entries)
    (v : Value) : found.add key v = (liftM key.text >>= fun text =>
      modify (· ++ [⟨.warning, "Ignoring unknown validation setting: " ++ text⟩]) >>= fun _ =>
        pure found) := by
  have hne := Setting.ofKey?_eq_none_iff.mp hkey
  unfold add
  split
  · exact absurd rfl (hne .blocking)
  · exact absurd rfl (hne .clock)
  · exact absurd rfl (hne .message)
  · rfl

/-- One entry: its fault, or what is found with it, and its record in the log. -/
theorem add_run (found : Entries) (e : Value × Value) (log : List LogRecord) :
    (found.add e.1 e.2).run log = match entryFault? e with
      | some f => (.error f, log)
      | .none => (.ok (found.took e), log ++ (warning? e.1).toList) := by
  obtain ⟨key, v⟩ := e
  cases hkey : Setting.ofKey? key with
  | none =>
    rw [add_unknown hkey, run_lift_bind]
    cases htext : key.text with
    | error f => simp only [entryFault?, hkey, htext]
    | ok text => simp only [entryFault?, warning?, took, hkey, htext]; rfl
  | some s =>
    obtain rfl := Setting.ofKey?_eq_some_iff.mp hkey
    have hlog : log ++ (warning? (.str s.name)).toList = log := by simp [warning?, hkey]
    simp only [entryFault?, took, hkey, hlog]
    cases s with
    | message =>
      rw [add_message]
      rfl
    | clock =>
      simp only [add_clock, valueFault?]
      split
      · rfl
      · rw [run_lift_bind, unsuited]
        cases v.shown <;> rfl
    | blocking =>
      simp only [add_blocking, run_lift_bind, toBool_eq, valueFault?]
      cases truthOf? v <;> rfl

/-- The records of entries up to the first one with a fault. -/
def warned (entries : List (Value × Value)) : List LogRecord :=
  (entries.takeWhile fun e => (entryFault? e).isNone).filterMap fun e => warning? e.1

theorem warned_cons {e : Value × Value} (h : entryFault? e = .none)
    (rest : List (Value × Value)) :
    warned (e :: rest) = (warning? e.1).toList ++ warned rest := by
  simp only [warned, List.takeWhile_cons, h, Option.isNone_none, if_true]
  rw [List.filterMap_cons]
  cases warning? e.1 <;> rfl

/-- All entries in order, up to the first fault. -/
theorem addAll_run (found : Entries) (entries : List (Value × Value)) (log : List LogRecord) :
    (found.addAll entries).run log = match entries.findSome? entryFault? with
      | some f => (.error f, log ++ warned entries)
      | .none => (.ok (entries.foldl took found), log ++ warned entries) := by
  induction entries generalizing found log with
  | nil => simp only [warned, List.takeWhile_nil, List.filterMap_nil, List.append_nil]; rfl
  | cons e rest ih =>
    rw [addAll, run_bind, add_run, List.findSome?_cons]
    cases hfault : entryFault? e with
    | some f => simp [warned, hfault]
    | none =>
      simp only [ih, warned_cons hfault, List.append_assoc, List.foldl_cons]

/-- The last value under the name of a setting. -/
def latest? (entries : List (Value × Value)) (s : Setting) : Option Value :=
  Value.under? s.name entries.reverse

theorem latest?_concat (entries : List (Value × Value)) (e : Value × Value) (s : Setting) :
    latest? (entries ++ [e]) s = if Setting.ofKey? e.1 = some s then some e.2
      else latest? entries s := by
  have hname : Value.isText s.name e.1 = true ↔ Setting.ofKey? e.1 = some s :=
    Value.isText_iff.trans Setting.ofKey?_eq_some_iff.symm
  rw [latest?, List.reverse_concat, Value.under?_cons]
  simp only [hname]
  rfl

/-- The last value under each name is what is found. -/
theorem foldl_took (entries : List (Value × Value)) : entries.foldl took .none =
    ⟨latest? entries .clock, latest? entries .message,
      (latest? entries .blocking).bind fun v => (truthOf? v).map .bool⟩ := by
  induction entries using List.reverseRecOn with
  | nil => rfl
  | append_singleton entries e ih =>
    rw [List.foldl_concat, ih]
    simp only [took, latest?_concat]
    cases hkey : Setting.ofKey? e.1 with
    | none => simp
    | some s => cases s <;> simp

end Entries

/-! ## All entries -/

/-- The settings with what is found under their names; what is not found has its default. -/
def settingsOf (found : Setting → Option Value) : Settings where
  clock := ((found .clock).map .call).getD .system
  defaultMessage := (found .message).getD (.str defaultTemplate)
  allowBlocking := (((found .blocking).bind truthOf?).map .bool).getD (.bool true)

/-- The default message passes the check itself. -/
theorem suits_defaultTemplate : Setting.message.Suits (.str defaultTemplate) := by
  have haround : defaultTemplate = Template.around ["The ", " field is invalid."] := by
    decide +kernel
  exact ⟨_, rfl, haround ▸ Template.check_around _⟩

/-- The fault that entries end in: that of the first entry with one, or that of their template. -/
def firstFault? (entries : List (Value × Value)) : Option Fault :=
  (entries.findSome? entryFault?).or
    ((Entries.latest? entries .message).bind (valueFault? .message))

theorem make_eq (clock : Clock) (message blocking : Value) : make clock message blocking =
    match valueFault? .message message with
    | some f => .error f
    | none => .ok ⟨clock, message, blocking⟩ := by
  cases message with
  | str t =>
    simp only [make, valueFault?]
    cases Template.check t <;> rfl
  | _ => exact unsuited_eq _ _

/-- Only a message that was given can be a fault once all entries have been looked at. -/
theorem Entries.settings_eq (found : Entries) : found.settings =
    match found.message.bind (valueFault? .message) with
    | some f => .error f
    | .none => .ok ⟨(found.clock.map .call).getD .system,
        found.message.getD (.str defaultTemplate), found.blocking.getD (.bool true)⟩ := by
  rw [settings, make_eq]
  cases found.message with
  | none => simp only [Option.getD_none, valueFault?_eq_none_iff.mpr suits_defaultTemplate]; rfl
  | some m => rfl

/-- What comes of entries, and what is written to the log meanwhile. -/
theorem ofEntries_run (entries : List (Value × Value)) (log : List LogRecord) :
    (ofEntries entries).run log = (match firstFault? entries with
      | some f => .error f
      | none => .ok (settingsOf (Entries.latest? entries)), log ++ Entries.warned entries) := by
  rw [ofEntries, run_bind, Entries.addAll_run, firstFault?]
  cases entries.findSome? entryFault? with
  | some f => rfl
  | none =>
    have hblocking : (Entries.latest? entries .blocking).bind (fun v => (truthOf? v).map .bool) =
        ((Entries.latest? entries .blocking).bind truthOf?).map Value.bool := by
      rw [Option.map_bind]
      rfl
    simp only [Option.none_or, Entries.foldl_took, Entries.settings_eq, hblocking]
    cases (Entries.latest? entries .message).bind (valueFault? .message) <;> rfl

/-! ## The two kinds of faults -/

/-- An entry cannot be told of: its key is unknown and has no text, or its value does not suit and
cannot be shown. -/
inductive Unwritten : Value × Value → Fault → Prop where
  | key {key v : Value} {f : Fault} :
      Setting.ofKey? key = none → key.text = .error f → Unwritten (key, v) f
  | value {s : Setting} {v : Value} {f : Fault} :
      ¬s.Suits v → v.shown = .error f → Unwritten (.str s.name, v) f

theorem Unwritten.isOfWriting {e : Value × Value} {f : Fault} (h : Unwritten e f) :
    f.IsOfWriting := by
  cases h with
  | key _ htext => exact Value.shown_error (Value.text_error_iff.mp htext)
  | value _ hshown => exact Value.shown_error hshown

theorem Unwritten.not_isOfDeclarations {e : Value × Value} {f : Fault} (h : Unwritten e f) :
    ¬f.IsOfDeclarations := by
  rw [Fault.IsOfDeclarations, h.isOfWriting.libraryKind?_eq]
  exact nofun

theorem unsuited_cases (v : Value) {fault : String → Fault}
    (hfault : ∀ shown, (fault shown).IsOfDeclarations) :
    (unsuited v fault).IsOfDeclarations ∨ v.shown = .error (unsuited v fault) := by
  unfold unsuited
  cases hshown : v.shown with
  | ok shown => exact .inl (hfault shown)
  | error f => exact .inr rfl

theorem check_error {template : String} {f : Fault} (h : Template.check template = .error f) :
    f.IsOfDeclarations := by
  simp only [Template.check] at h
  split at h
  · cases h; rfl
  · split at h <;> cases h
    rfl

theorem valueFault?_cases {s : Setting} {v : Value} {f : Fault} (h : valueFault? s v = some f) :
    f.IsOfDeclarations ∨ Unwritten (.str s.name, v) f := by
  have hsuits : ¬s.Suits v := fun hv => by simp [valueFault?_eq_none_iff.mpr hv] at h
  refine Or.imp_right (.value hsuits) ?_
  cases s with
  | clock =>
    simp only [valueFault?, Option.ite_none_left_eq_some, Option.some.injEq] at h
    exact h.2 ▸ unsuited_cases v fun _ => rfl
  | blocking =>
    simp only [valueFault?, Option.ite_none_left_eq_some, Option.some.injEq] at h
    exact h.2 ▸ unsuited_cases v fun _ => rfl
  | message =>
    cases v with
    | str t =>
      simp only [valueFault?] at h
      cases hcheck : Template.check t with
      | ok _ => simp [hcheck] at h
      | error e =>
        rw [hcheck] at h
        cases h
        exact .inl (check_error hcheck)
    | _ =>
      simp only [valueFault?, Option.some.injEq] at h
      exact h ▸ unsuited_cases _ fun _ => rfl

theorem entryFault?_cases {e : Value × Value} {f : Fault} (h : entryFault? e = some f) :
    f.IsOfDeclarations ∨ Unwritten e f := by
  obtain ⟨key, v⟩ := e
  cases hkey : Setting.ofKey? key with
  | none =>
    cases htext : key.text with
    | ok text => simp [entryFault?, hkey, htext] at h
    | error f' =>
      simp only [entryFault?, hkey, htext, Option.some.injEq] at h
      exact .inr (.key hkey (h ▸ htext))
  | some s =>
    obtain rfl := Setting.ofKey?_eq_some_iff.mp hkey
    simp only [entryFault?, hkey] at h
    cases s with
    | message => cases h
    | clock => exact valueFault?_cases h
    | blocking => exact valueFault?_cases h

/-- What entries end in is a fault of the configuration, unless one of them cannot be told of. -/
theorem firstFault?_cases {entries : List (Value × Value)} {f : Fault}
    (h : firstFault? entries = some f) : f.IsOfDeclarations ∨ ∃ e ∈ entries, Unwritten e f := by
  rw [firstFault?, Option.or_eq_some_iff] at h
  rcases h with hfirst | ⟨-, hmessage⟩
  · obtain ⟨e, he, hfault⟩ := List.exists_of_findSome?_eq_some hfirst
    exact (entryFault?_cases hfault).imp_right fun h => ⟨e, he, h⟩
  · obtain ⟨v, hv, hfault⟩ := Option.bind_eq_some_iff.mp hmessage
    have he := List.mem_reverse.mp (Value.mem_of_under? hv)
    exact (valueFault?_cases hfault).imp_right fun h => ⟨_, he, h⟩

end Settings

end Rulebook

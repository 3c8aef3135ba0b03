import Rulebook.Proofs.Registry.Attributes
import Rulebook.Proofs.Registry.Scan

/-!
# Classes found in a module

Registering the classes of a module scans those among its attributes, in increasing order of the
names, and writes their number. The registration ends at the first class whose type is there
already. A class that the module knows under two names is met twice, and so ends it too.

* `Registry.mem_qualifying`: the classes that are registered.
* `Registry.registerModule_scan`: what registering the classes of a module gives, leaves and writes.
* `Registry.NothingElseEnds`: nothing but the classes that are registered can end the registration.
* `Registry.registerModule_ok_iff`: when it does not fail, if the types of its classes are free.
-/

namespace Rulebook

namespace Registry

variable {classes : List ValidatorClass}

/-! ## Modules -/

/-- What is written when all classes of a module are registered. -/
def completion (m : ModuleInfo) (n : Nat) : LogRecord :=
  ⟨.info, "Registered " ++ toString n ++ " validators from " ++ m.name⟩

theorem registerModule_run (m : ModuleInfo) (s : RegistryLog) :
    (registerModule classes m).run s = match (scanFound classes (candidates classes m)).run s with
      | (.error f, s') => (.error f, s')
      | (.ok n, s') => (.ok n, { s' with log := s'.log ++ [completion m n] }) := by
  rw [registerModule, scanMembers_eq, run_bind, ← candidates]
  rcases (scanFound classes (candidates classes m)).run s with ⟨f | n, s'⟩ <;> rfl

theorem registers_iff (p : Found classes) :
    p.registers = true ↔ ∃ declaration bases model, p.class_.chain = declaration :: bases ∧
      declaration.own? = some model ∧ model.isClass = true := by
  unfold Found.registers Found.model ValidatorClass.namesModel ValidatorClass.model
  cases p.class_.chain with
  | nil => simp
  | cons declaration bases => cases h : declaration.own? <;> simp [declaredModel, h]

theorem candidate?_eq_some_iff {moduleName : String} {member : Value} {p : Found classes} :
    candidate? classes moduleName member = some p ↔
      p.member = member ∧ isCandidate moduleName p.class_ = true := by
  constructor
  · intro h
    cases hclass : validatorClass? classes member with
    | none =>
      rw [candidate?_none hclass] at h
      cases h
    | some c =>
      rw [candidate?_some hclass] at h
      split at h
      · cases h
        exact ⟨rfl, ‹_›⟩
      · cases h
  · rintro ⟨rfl, hcandidate⟩
    rw [candidate?_some p.found, if_pos hcandidate]

/-- A class that is registered in a module: an attribute is bound to it, it is not the class that
all come from, it is defined in the module and leaves nothing open, and it names a class as its
type itself. -/
structure Qualifies (m : ModuleInfo) (p : Found classes) : Prop where
  bound : ∃ name, (name, p.member) ∈ m.bindings
  notRoot : p.class_.info.id ≠ ValidatorClass.base.id
  defined : p.class_.info.module = m.name
  complete : p.class_.isAbstract = false
  names : ∃ declaration bases model, p.class_.chain = declaration :: bases ∧
    declaration.own? = some model ∧ model.isClass = true

theorem mem_candidates (m : ModuleInfo) (p : Found classes) :
    p ∈ candidates classes m ↔
      (∃ name, (name, p.member) ∈ m.bindings) ∧ isCandidate m.name p.class_ = true := by
  rw [candidates, List.mem_filterMap]
  constructor
  · rintro ⟨⟨name, member⟩, hb, h⟩
    obtain ⟨rfl, hcandidate⟩ := candidate?_eq_some_iff.mp h
    exact ⟨⟨name, hb⟩, hcandidate⟩
  · rintro ⟨⟨name, hb⟩, hcandidate⟩
    exact ⟨(name, p.member), hb, candidate?_eq_some_iff.mpr ⟨rfl, hcandidate⟩⟩

theorem mem_qualifying (m : ModuleInfo) (p : Found classes) :
    p ∈ qualifying (candidates classes m) ↔ Qualifies m p := by
  rw [qualifying, List.mem_filter, mem_candidates, registers_iff]
  simp only [isCandidate, Bool.and_eq_true, bne_iff_ne, beq_iff_eq, Bool.not_eq_true']
  constructor
  · rintro ⟨⟨hbound, ⟨hid, hmodule⟩, hcomplete⟩, hnames⟩
    exact ⟨hbound, hid, hmodule, hcomplete, hnames⟩
  · rintro ⟨hbound, hid, hmodule, hcomplete, hnames⟩
    exact ⟨⟨hbound, ⟨hid, hmodule⟩, hcomplete⟩, hnames⟩

/-- The fault of a type that has a class is one of operation, as long as the registry has a name
that can be written. -/
theorem clash_isOperation {name key : Value} {text : String} (hkey : key.isClass = true)
    (hname : name.text = .ok text) : (clash name key).libraryKind? = some .operation := by
  obtain ⟨c, as, rfl⟩ := Value.isClass_iff.mp hkey
  rw [clash, hname]
  rfl

theorem entering_of_typed {ps : List (Found classes)} (h : ∀ p ∈ ps, p.Typed) :
    entering ps = qualifying ps := List.filter_congr fun p hp => (h p hp).enters_eq

theorem isClass_of_mem_qualifying {ps : List (Found classes)} {p : Found classes}
    (h : p ∈ qualifying ps) : p.model.isClass = true :=
  Found.isClass_of_registers (List.mem_filter.mp h).2

/-- A type that is a class ends a scan only by being there already. -/
theorem EndsAt.there_of_isClass {r r' : Registry} {p : Found classes} {f : Fault}
    (hclass : p.model.isClass = true) (h : EndsAt r p f r') :
    p.registers = true ∧ r.items.contains p.model = true ∧ f = clash r.name p.model ∧ r' = r := by
  cases h with
  | unhashable _ hhash => cases (Value.checkHashable_of_isClass hclass).symm.trans hhash
  | nameless hname => exact absurd (.inr (name_of_isClass hclass)) hname
  | there henters _ hthere =>
    exact ⟨by rw [p.registers_eq, henters, hclass]; rfl, hthere, rfl, rfl⟩

theorem EndsAt.there_of_typed {r r' : Registry} {p : Found classes} {f : Fault} (htyped : p.Typed)
    (h : EndsAt r p f r') :
    p.registers = true ∧ r.items.contains p.model = true ∧ f = clash r.name p.model ∧ r' = r := by
  rcases htyped with hnone | hclass
  · have hpassed : p.enters = false := by rw [Found.enters, hnone]
    cases h with
    | unhashable henters _ => cases hpassed.symm.trans henters
    | there henters _ _ => cases hpassed.symm.trans henters
    | nameless hname => exact absurd (.inl hnone) hname
  · exact h.there_of_isClass hclass

/-- How registering the classes of a module ends: all of them are registered and their number is
written, or one has a type that is there already, and those before it are registered. -/
theorem registerModule_ends (m : ModuleInfo) (s : RegistryLog)
    (hmodels : ∀ p ∈ candidates classes m, p.Typed) :
    (∃ r, Takes s.registry (qualifying (candidates classes m)) r ∧
      (registerModule classes m).run s = (.ok (qualifying (candidates classes m)).length,
        ⟨r, s.log ++ warnings (candidates classes m) ++
          [completion m (qualifying (candidates classes m)).length]⟩)) ∨
    ∃ before p after r, candidates classes m = before ++ p :: after ∧ p.registers = true ∧
      Takes s.registry (qualifying before) r ∧ r.items.contains p.model = true ∧
      (registerModule classes m).run s =
        (.error (clash s.registry.name p.model), ⟨r, s.log ++ warnings before⟩) := by
  have hends := scanFound_ends (candidates classes m) s
  rw [registerModule_run]
  rcases hscan : (scanFound classes (candidates classes m)).run s with ⟨outcome, s'⟩
  rw [hscan] at hends
  cases hends with
  | finished _ hadmits =>
    rw [entering_of_typed hmodels] at hadmits ⊢
    exact .inl ⟨_, hadmits.takes fun p hp => isClass_of_mem_qualifying hp, rfl⟩
  | @stopped before after p f r hps hadmits hends =>
    rw [hps] at hmodels
    have ⟨hbefore, hrest⟩ := List.forall_mem_append.mp hmodels
    rw [entering_of_typed hbefore] at hadmits hends
    have htakes := hadmits.takes fun p hp => isClass_of_mem_qualifying hp
    obtain ⟨hp, hthere, rfl, rfl⟩ := hends.there_of_typed (List.forall_mem_cons.mp hrest).1
    rw [htakes.name]
    exact .inr ⟨before, p, after, _, hps, hp, htakes, hthere, rfl⟩

/-- The attributes of a module are gone through in increasing order of their names, and the classes
that qualify are registered under their types. If none of the types is there already when its turn
comes, all are registered, and their number is given and written. Otherwise the first class whose
type is there ends the registration, and the registry holds what it held and the classes before.
What is written besides is one warning for each class on the way that has no type. -/
theorem registerModule_scan (classes : List ValidatorClass) (m : ModuleInfo) (s : RegistryLog)
    (hmodels : ∀ p ∈ candidates classes m, p.Typed) :
    (m.bindings.Pairwise fun a b => a.1 < b.1) ∧
    (∀ name v, (name, v) ∈ m.bindings ↔ m.members.reverse.lookup name = some v) ∧
    (∀ p : Found classes, p ∈ qualifying (candidates classes m) ↔ Qualifies m p) ∧
    ((∃ r, Takes s.registry (qualifying (candidates classes m)) r ∧
        (registerModule classes m).run s = (.ok (qualifying (candidates classes m)).length,
          ⟨r, s.log ++ warnings (candidates classes m) ++
            [completion m (qualifying (candidates classes m)).length]⟩)) ∨
      ∃ before p after r, candidates classes m = before ++ p :: after ∧ p.registers = true ∧
        Takes s.registry (qualifying before) r ∧ r.has p.model = .ok true ∧
        (registerModule classes m).run s =
          (.error (clash s.registry.name p.model), ⟨r, s.log ++ warnings before⟩) ∧
        ∀ text, s.registry.name.text = .ok text →
          (clash s.registry.name p.model).libraryKind? = some .operation) := by
  refine ⟨m.bindings_increasing, m.mem_bindings, mem_qualifying m, ?_⟩
  rcases registerModule_ends m s hmodels with h | ⟨before, p, after, r, hps, hp, h, hthere, hrun⟩
  · exact .inl h
  · have hclass := Found.isClass_of_registers hp
    have hhas : r.has p.model = .ok true := by
      rw [has, Value.checkHashable_of_isClass hclass, hthere]
      rfl
    exact .inr ⟨before, p, after, r, hps, hp, h, hhas, hrun, fun _ => clash_isOperation hclass⟩

/-- Another type that can be validated. -/
def orderModel : Value := .class ⟨101, "Order", "Order", "models", .other, false, none, []⟩ []

/-- Classes of validators: one that names its type by an attribute, one that has the type of its
base, and one without a type. -/
def sampleClasses : List ValidatorClass := [.root, sampleValidator,
  ⟨⟨1000002, "OrderValidator", "OrderValidator", "shop", .other, false, none, []⟩,
    [⟨some orderModel, none⟩, ⟨some .none, none⟩], false⟩,
  ⟨⟨1000003, "AdminValidator", "AdminValidator", "shop", .other, false, none, []⟩,
    ⟨none, none⟩ :: sampleValidator.chain, false⟩,
  ⟨⟨1000004, "LooseValidator", "LooseValidator", "shop", .other, false, none, []⟩,
    [⟨none, some (.variable "T")⟩, ⟨some .none, none⟩], false⟩]

def sampleModule : ModuleInfo where
  name := "shop"
  members := [("AdminValidator", sampleClasses[3].value),
    ("LooseValidator", sampleClasses[4].value), ("OrderValidator", sampleClasses[2].value),
    ("UserValidator", sampleClasses[1].value), ("Validator", ValidatorClass.root.value),
    ("limit", .int 3)]

/-- The module with a second name for one of its classes. -/
def aliasedModule : ModuleInfo where
  name := "shop"
  members := sampleModule.members ++ [("users", sampleClasses[1].value)]

/-- A registry of validators with nothing in it, and an empty log. -/
def sampleStart : RegistryLog := ⟨empty (.str "validators"), []⟩

theorem bindings_sampleModule : sampleModule.bindings = sampleModule.members := by
  rw [ModuleInfo.bindings_eq]
  exact List.mergeSort_of_pairwise (by decide)

theorem bindings_aliasedModule : aliasedModule.bindings = aliasedModule.members := by
  rw [ModuleInfo.bindings_eq]
  exact List.mergeSort_of_pairwise (by decide)

/-- Of the five classes with attributes of the module, the one with the type of its base is passed
over, the one without a type is reported, two are registered, and the second name of one of them
ends the registration. -/
theorem registerModule_scan_aliased :
    (∀ p ∈ candidates sampleClasses aliasedModule, p.Typed) ∧
    ∃ before p after r, candidates sampleClasses aliasedModule = before ++ p :: after ∧
      p.registers = true ∧ Takes sampleStart.registry (qualifying before) r ∧
      r.has p.model = .ok true ∧ r.listKeys = [orderModel, sampleModel] ∧
      (registerModule sampleClasses aliasedModule).run sampleStart =
        (.error (.alreadyRegistered "User" (.str "validators") "validators"),
          ⟨r, [⟨.warning, "Skipping LooseValidator: no model type declared"⟩]⟩) := by
  have hmodels : ∀ p ∈ candidates sampleClasses aliasedModule, p.Typed := by
    rw [candidates, bindings_aliasedModule, ← List.forall_iff_forall_mem]
    exact ⟨.inr rfl, .inl rfl, .inr rfl, .inr rfl, .inr rfl⟩
  have hrun : (registerModule sampleClasses aliasedModule).run sampleStart =
      (.error (.alreadyRegistered "User" (.str "validators") "validators"),
        ⟨(sampleStart.registry.stored orderModel sampleClasses[2].value
            (moduleDetails sampleClasses[2])).stored sampleModel sampleClasses[1].value
              (moduleDetails sampleClasses[1]),
          [⟨.warning, "Skipping LooseValidator: no model type declared"⟩]⟩) := by
    rw [registerModule, bindings_aliasedModule]
    rfl
  obtain ⟨-, -, -, ⟨r, -, h⟩ | ⟨before, p, after, r, hps, hp, htakes, hhas, h, -⟩⟩ :=
    registerModule_scan sampleClasses aliasedModule sampleStart hmodels
  · cases (Prod.mk.inj (hrun.symm.trans h)).1
  · obtain ⟨-, hlog⟩ := Prod.mk.inj (hrun.symm.trans h)
    obtain ⟨rfl, -⟩ := RegistryLog.mk.inj hlog
    exact ⟨hmodels, before, p, after, _, hps, hp, htakes, hhas, rfl, hrun⟩

/-! ## Classes with several names -/

/-- Those that name something else than a class as their type themselves. -/
def others (ps : List (Found classes)) : List (Found classes) :=
  (entering ps).filter fun p => !p.model.isClass

/-- Nothing but a class that is registered under a class can end a scan: all types have names, and
the registry takes those that are no classes. -/
structure NothingElseEnds (r : Registry) (ps : List (Found classes)) : Prop where
  named : ∀ p ∈ ps, p.Named
  admits : r.Admits (others ps)

theorem qualifying_eq (ps : List (Found classes)) :
    qualifying ps = (entering ps).filter fun p => p.model.isClass := by
  rw [qualifying, entering, List.filter_filter]
  exact List.filter_congr fun p _ => (p.registers_eq).trans (Bool.and_comm _ _)

theorem length_entering (ps : List (Found classes)) :
    (entering ps).length = (qualifying ps).length + (others ps).length := by
  rw [qualifying_eq, others]
  exact List.length_eq_length_filter_add _

theorem qualifying_split {before after : List (Found classes)} {p : Found classes}
    (hp : p.registers = true) :
    qualifying (before ++ p :: after) = qualifying before ++ p :: qualifying after := by
  rw [qualifying, List.filter_append, List.filter_cons, hp]
  rfl

theorem others_split {before after : List (Found classes)} {p : Found classes}
    (hp : p.enters = true) (hclass : p.model.isClass = false) :
    others (before ++ p :: after) = others before ++ p :: others after := by
  rw [others, entering, List.filter_append, List.filter_cons, hp, if_pos rfl, List.filter_append,
    List.filter_cons, hclass]
  rfl

/-- A registry takes a class once. -/
theorem Admits.nodup_id {r : Registry} {ps : List (Found classes)} (h : r.Admits ps)
    (hclass : ∀ p ∈ ps, p.model.isClass = true) : (ps.map Found.id).Nodup := by
  rw [List.Nodup, List.pairwise_map]
  refine h.distinct.imp_of_mem fun {p q} _ hq hdistinct hid => ?_
  have hmodel : p.model = q.model := congrArg ValidatorClass.model (Found.class_eq_of_id_eq hid)
  rw [hmodel, Value.sameKey_self_of_isClass (hclass q hq)] at hdistinct
  cases hdistinct

variable {before after : List (Found classes)} {p : Found classes} {r r' : Registry} {f : Fault}

/-- If nothing else ends a scan, a class that ends it has a class as its type. -/
theorem EndsAt.isClass (hothers : NothingElseEnds r (before ++ p :: after))
    (hadmits : r.Admits (entering before)) (h : EndsAt (r.filled (entering before)) p f r') :
    p.model.isClass = true := by
  refine by_contra fun hnot => ?_
  have hclass : p.model.isClass = false := Bool.eq_false_iff.mpr hnot
  cases h with
  | nameless hname => exact hname (hothers.named p (List.mem_append_right _ List.mem_cons_self))
  | unhashable henters hhash =>
    have hadmitted := hothers.admits
    rw [others_split henters hclass] at hadmitted
    have hkey := hadmitted.hashable p (List.mem_append_right _ List.mem_cons_self)
    cases hkey.symm.trans hhash
  | there henters _ hthere =>
    have hadmitted := hothers.admits
    rw [others_split henters hclass] at hadmitted
    rcases (hadmits.contains_iff p.model).mp hthere with hold | ⟨q, hq, hsame⟩
    · have hfree := hadmitted.free p (List.mem_append_right _ List.mem_cons_self)
      cases hfree.symm.trans hold
    · have hqclass : q.model.isClass = false := (Value.isClass_eq_of_sameKey hsame).trans hclass
      have hq : q ∈ others before := List.mem_filter.mpr ⟨hq, by rw [hqclass]; rfl⟩
      have hdistinct := (List.pairwise_append.mp hadmitted.distinct).2.2 q hq p List.mem_cons_self
      cases hdistinct.symm.trans hsame

/-- Let different classes have different types, none of which is there already, and let nothing
else end the scan. Then a class that ends it is one that was met before under another name. -/
theorem EndsAt.second_name
    (hnew : ∀ q ∈ qualifying (before ++ p :: after), r.items.contains q.model = false)
    (hdiffer : ∀ q ∈ qualifying (before ++ p :: after), ∀ q' ∈ qualifying (before ++ p :: after),
      q.id ≠ q'.id → q.model.sameKey q'.model = false)
    (hothers : NothingElseEnds r (before ++ p :: after)) (hadmits : r.Admits (entering before))
    (h : EndsAt (r.filled (entering before)) p f r') :
    p.registers = true ∧ p.id ∈ (qualifying before).map Found.id ∧
      f = clash (r.filled (entering before)).name p.model := by
  have hclass := h.isClass hothers hadmits
  obtain ⟨hp, hthere, hfault, -⟩ := h.there_of_isClass hclass
  rw [qualifying_split hp] at hnew hdiffer
  have hmem : p ∈ qualifying before ++ p :: qualifying after :=
    List.mem_append_right _ List.mem_cons_self
  refine ⟨hp, ?_, hfault⟩
  -- What holds the type is no class that was there before the scan, so it was met on the way.
  rcases (hadmits.contains_iff p.model).mp hthere with hold | ⟨q, hq, hsame⟩
  · cases (hnew p hmem).symm.trans hold
  · have hqclass : q.model.isClass = true := (Value.isClass_eq_of_sameKey hsame).trans hclass
    have hq : q ∈ qualifying before := by
      rw [qualifying_eq]
      exact List.mem_filter.mpr ⟨hq, hqclass⟩
    refine List.mem_map.mpr ⟨q, hq, by_contra fun hid => ?_⟩
    cases (hdiffer q (List.mem_append_left _ hq) p hmem hid).symm.trans hsame

/-- Let different classes of a module have different types, none of which is there already. Then
registering the classes of the module does not fail if and only if nothing else ends it and no
class has several names. If it does not fail, it gives the number of the classes, with those that
name something else than a class as their type, and each class is under its type. If nothing else
ends it and a class has several names, it ends at the second one. -/
theorem registerModule_ok_iff (classes : List ValidatorClass) (m : ModuleInfo) (s : RegistryLog)
    (hnew : ∀ p ∈ qualifying (candidates classes m), s.registry.items.contains p.model = false)
    (hdiffer : ∀ p ∈ qualifying (candidates classes m), ∀ q ∈ qualifying (candidates classes m),
      p.id ≠ q.id → p.model.sameKey q.model = false) :
    ((∃ n s', (registerModule classes m).run s = (.ok n, s')) ↔
      NothingElseEnds s.registry (candidates classes m) ∧
        ((qualifying (candidates classes m)).map Found.id).Nodup) ∧
    (∀ n s', (registerModule classes m).run s = (.ok n, s') →
      n = ((qualifying (candidates classes m)).map Found.id).dedup.length +
          (others (candidates classes m)).length ∧
        ∀ p ∈ qualifying (candidates classes m), s'.registry.get p.model = .ok p.member) ∧
    (NothingElseEnds s.registry (candidates classes m) →
      ¬((qualifying (candidates classes m)).map Found.id).Nodup →
      ∃ before p after f s', candidates classes m = before ++ p :: after ∧ p.registers = true ∧
        p.id ∈ (qualifying before).map Found.id ∧
        (registerModule classes m).run s = (.error f, s') ∧
        IsClash s.registry.name p.model f) := by
  have hends := scanFound_ends (candidates classes m) s
  rw [registerModule_run]
  rcases hscan : (scanFound classes (candidates classes m)).run s with ⟨outcome, s'⟩
  rw [hscan] at hends
  cases hends with
  | finished hnamed hadmits =>
    have hclasses : s.registry.Admits (qualifying (candidates classes m)) := by
      rw [qualifying_eq]
      exact hadmits.sublist List.filter_sublist
    have hnodup := hclasses.nodup_id fun p hp => isClass_of_mem_qualifying hp
    refine ⟨?_, ?_, fun _ htwice => absurd hnodup htwice⟩
    · have hothers : NothingElseEnds s.registry (candidates classes m) :=
        ⟨hnamed, hadmits.sublist List.filter_sublist⟩
      exact iff_of_true ⟨_, _, rfl⟩ ⟨hothers, hnodup⟩
    · intro n s' hok
      obtain ⟨hn, rfl⟩ := Prod.mk.inj hok
      refine ⟨?_, fun p hp => ?_⟩
      · rw [hnodup.dedup, List.length_map, ← length_entering]
        exact (Except.ok.inj hn).symm
      · have hmem := hp
        rw [qualifying_eq] at hmem
        exact hadmits.get (List.mem_filter.mp hmem).1
          (Value.sameKey_self_of_isClass (isClass_of_mem_qualifying hp))
  | @stopped before after p f r hps hadmits hends =>
    have hsecond : NothingElseEnds s.registry (candidates classes m) → p.registers = true ∧
        p.id ∈ (qualifying before).map Found.id ∧
        f = clash (s.registry.filled (entering before)).name p.model := fun hothers => by
      rw [hps] at hothers hnew hdiffer
      exact hends.second_name hnew hdiffer hothers hadmits
    refine ⟨iff_of_false ?_ ?_, ?_, ?_⟩
    · rintro ⟨n, s', hok⟩
      cases (Prod.mk.inj hok).1
    · rintro ⟨hothers, hnodup⟩
      obtain ⟨hp, htwice, -⟩ := hsecond hothers
      rw [hps, qualifying_split hp, List.map_append, List.map_cons, List.nodup_append] at hnodup
      exact hnodup.2.2 p.id htwice p.id List.mem_cons_self rfl
    · intro n s' hok
      cases (Prod.mk.inj hok).1
    · intro hothers _
      obtain ⟨hp, htwice, rfl⟩ := hsecond hothers
      refine ⟨before, p, after, _, _, hps, hp, htwice, rfl, ?_⟩
      rw [filled_name]
      exact isClash_clash s.registry.name p.model

/-- Every class of the module has one name, and all are registered. -/
theorem registerModule_ok_iff_sample :
    ∃ s', (registerModule sampleClasses sampleModule).run sampleStart = (.ok 2, s') ∧
      2 = ((qualifying (candidates sampleClasses sampleModule)).map Found.id).dedup.length +
          (others (candidates sampleClasses sampleModule)).length ∧
      ∀ p ∈ qualifying (candidates sampleClasses sampleModule),
        s'.registry.get p.model = .ok p.member := by
  have hdiffer : ∀ p ∈ qualifying (candidates sampleClasses sampleModule),
      ∀ q ∈ qualifying (candidates sampleClasses sampleModule),
        p.id ≠ q.id → p.model.sameKey q.model = false := by
    rw [candidates, bindings_sampleModule]
    decide
  have hrun : ((registerModule sampleClasses sampleModule).run sampleStart).1 = .ok 2 := by
    rw [registerModule, bindings_sampleModule]
    rfl
  obtain ⟨-, hok, -⟩ := registerModule_ok_iff sampleClasses sampleModule sampleStart
    (fun _ _ => rfl) hdiffer
  exact ⟨_, Prod.ext hrun rfl, hok 2 _ (Prod.ext hrun rfl)⟩

/-- The second name of a class ends the registration, though the types of the two classes differ
and are free. -/
theorem registerModule_second_name :
    (∀ p ∈ qualifying (candidates sampleClasses aliasedModule),
      sampleStart.registry.items.contains p.model = false) ∧
    (∀ p ∈ qualifying (candidates sampleClasses aliasedModule),
      ∀ q ∈ qualifying (candidates sampleClasses aliasedModule),
        p.id ≠ q.id → p.model.sameKey q.model = false) ∧
    ((registerModule sampleClasses aliasedModule).run sampleStart).1 =
      .error (.alreadyRegistered "User" (.str "validators") "validators") := by
  have hdiffer : ∀ p ∈ qualifying (candidates sampleClasses aliasedModule),
      ∀ q ∈ qualifying (candidates sampleClasses aliasedModule),
        p.id ≠ q.id → p.model.sameKey q.model = false := by
    rw [candidates, bindings_aliasedModule]
    decide
  refine ⟨fun _ _ => rfl, hdiffer, ?_⟩
  rw [registerModule, bindings_aliasedModule]
  rfl

end Registry

end Rulebook

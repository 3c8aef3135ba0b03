import Rulebook.Proofs.Registry.Failure

/-!
# Scanning classes of validators

Of the classes that are defined in a module and complete, those that name a type themselves are
registered under it, those without a type are reported, and those that have the type of their base
are passed over. The scan ends at the first class whose type is there already, and at a type that
cannot be a key or has no name, which no class is.

* `Registry.candidates`, `Registry.qualifying`: the classes that are looked at, and those that are
  registered.
* `Registry.scanMembers_eq`: nothing else among the attributes of a module matters.
* `Registry.scanClass_step`: what happens to one class.
* `Registry.Admits`, `Registry.filled`: when a registry takes classes one after the other, and what
  it is then.
* `Registry.scanFound_ends`: how a scan ends.
* `Registry.Takes`: what a registry answers after it took classes under their types.
-/

namespace Rulebook

namespace Registry

/-! ## The classes of a module -/

theorem find?_of_validatorClass? {classes : List ValidatorClass} {v : Value} {c : ValidatorClass}
    (h : validatorClass? classes v = some c) :
    ∃ info : ClassInfo, classes.find? (·.info.id == info.id) = some c := by
  cases v <;> first | exact ⟨_, h⟩ | cases h

/-- A class of validators among those known, and the value that stands for it. -/
structure Found (classes : List ValidatorClass) where
  class_ : ValidatorClass
  member : Value
  found : validatorClass? classes member = some class_

namespace Found

variable {classes : List ValidatorClass}

/-- The type that is validated. -/
def model (p : Found classes) : Value := p.class_.model

/-- The identity of the class. -/
def id (p : Found classes) : Nat := p.class_.info.id

/-- Whether the class names a type itself. -/
def registers (p : Found classes) : Bool := p.class_.namesModel && p.model.isClass

/-- Whether the class names something as its type itself, a class or not. -/
def enters (p : Found classes) : Bool :=
  match p.model with
  | .none => false
  | _ => p.class_.namesModel

/-- Whether what is known of the type is of the right kind: it is a class, or nothing. -/
def Typed (p : Found classes) : Prop := p.model = .none ∨ p.model.isClass = true

/-- Whether the type has a name, if there is one. -/
def Named (p : Found classes) : Prop :=
  p.model = .none ∨ ∃ name, (Model.ofValue p.model).name = .ok name

/-- What is written of a class without a type. -/
def warning? (p : Found classes) : Option LogRecord :=
  match p.model with
  | .none => some ⟨.warning, "Skipping " ++ p.class_.info.name ++ ": no model type declared"⟩
  | _ => none

theorem isClass_of_registers {p : Found classes} (h : p.registers = true) :
    p.model.isClass = true := (Bool.and_eq_true_iff.mp h).2

theorem enters_of_ne_none {p : Found classes} (h : p.model ≠ .none) :
    p.enters = p.class_.namesModel := by
  unfold enters
  split
  · exact absurd ‹_› h
  · rfl

theorem ne_none_of_enters {p : Found classes} (h : p.enters = true) : p.model ≠ .none := by
  intro hnone
  rw [enters, hnone] at h
  cases h

theorem registers_eq (p : Found classes) : p.registers = (p.enters && p.model.isClass) := by
  cases hclass : p.model.isClass with
  | true => rw [registers, enters_of_ne_none (Value.ne_none_of_isClass hclass), hclass]
  | false => rw [registers, hclass, Bool.and_false, Bool.and_false]

theorem Typed.named {p : Found classes} (h : p.Typed) : p.Named := h.imp_right name_of_isClass

theorem Typed.enters_eq {p : Found classes} (h : p.Typed) : p.enters = p.registers := by
  rw [registers_eq]
  rcases h with hnone | hclass
  · rw [enters, hnone]
    rfl
  · rw [hclass, Bool.and_true]

theorem warning?_of_ne_none {p : Found classes} (h : p.model ≠ .none) : p.warning? = none := by
  unfold warning?
  split
  · exact absurd ‹_› h
  · rfl

/-- A class is found by its own identity. -/
theorem find?_id (p : Found classes) : classes.find? (·.info.id == p.id) = some p.class_ := by
  obtain ⟨c, hfind⟩ := find?_of_validatorClass? p.found
  have hid := List.find?_some hfind
  rw [id, eq_of_beq hid]
  exact hfind

theorem class_eq_of_id_eq {p q : Found classes} (h : p.id = q.id) : p.class_ = q.class_ := by
  have hp := p.find?_id
  rw [h, q.find?_id] at hp
  exact (Option.some.inj hp).symm

end Found

variable {classes : List ValidatorClass}

/-- The class of validators that a value is, if it is one to register in a module. -/
def candidate? (classes : List ValidatorClass) (moduleName : String) (member : Value) :
    Option (Found classes) :=
  match h : validatorClass? classes member with
  | some c => if isCandidate moduleName c then some ⟨c, member, h⟩ else none
  | none => none

/-- The classes of validators that are defined in a module, with nothing left open, in increasing
order of the names of their attributes. A class with several names is there several times. -/
def candidates (classes : List ValidatorClass) (m : ModuleInfo) : List (Found classes) :=
  m.bindings.filterMap fun b => candidate? classes m.name b.2

/-- Those that name a type themselves. -/
def qualifying (ps : List (Found classes)) : List (Found classes) := ps.filter Found.registers

/-- Those that name something as their type themselves, a class or not. -/
def entering (ps : List (Found classes)) : List (Found classes) := ps.filter Found.enters

/-- What is written of those without a type. -/
def warnings (ps : List (Found classes)) : List LogRecord := ps.filterMap Found.warning?

/-! ## One class -/

/-- Looks at classes in order and counts those that are registered. -/
def scanFound (classes : List ValidatorClass) : List (Found classes) → RegistryScan Nat
  | [] => pure 0
  | p :: ps => do
    let registered ← scanClass classes p.class_ p.member
    let n ← scanFound classes ps
    pure (if registered then n + 1 else n)

theorem candidate?_none {moduleName : String} {member : Value}
    (h : validatorClass? classes member = none) : candidate? classes moduleName member = none := by
  unfold candidate?
  split
  · rename_i c hc
    rw [h] at hc
    cases hc
  · rfl

theorem candidate?_some {moduleName : String} {member : Value} {c : ValidatorClass}
    (h : validatorClass? classes member = some c) :
    candidate? classes moduleName member =
      if isCandidate moduleName c then some ⟨c, member, h⟩ else none := by
  unfold candidate?
  split
  · rename_i c' hc
    obtain rfl := Option.some.inj (hc.symm.trans h)
    rfl
  · rename_i hc
    rw [h] at hc
    cases hc

/-- Nothing but the candidates among the attributes is looked at. -/
theorem scanMembers_eq (moduleName : String) (attributes : List (String × Value)) :
    scanMembers classes moduleName attributes =
      scanFound classes (attributes.filterMap fun b => candidate? classes moduleName b.2) := by
  induction attributes with
  | nil => rfl
  | cons b attributes ih =>
    rw [scanMembers, ih, List.filterMap_cons]
    cases hclass : validatorClass? classes b.2 with
    | none =>
      rw [candidate?_none hclass]
      simp
    | some c =>
      rw [candidate?_some hclass]
      dsimp only
      cases isCandidate moduleName c with
      | true => rfl
      | false => simp

theorem onRegistry_run {α : Type} (a : RegistryAction α) (s : RegistryLog) :
    (onRegistry a).run s = ((a.run s.registry).1, { s with registry := (a.run s.registry).2 }) :=
  rfl

/-- A class with a type is registered if it names it itself, and passed over otherwise. -/
theorem scanClass_eq {p : Found classes} (h : p.model ≠ .none) :
    scanClass classes p.class_ p.member =
      if p.enters then (do
        let _ ← onRegistry (registerValidator classes p.member .none false)
        pure true)
      else (do
        let _ ← (Model.ofValue p.model).name
        pure false) := by
  rw [Found.enters_of_ne_none h]
  unfold scanClass
  rw [Found.model] at h ⊢
  generalize p.class_.model = model at h
  cases model with
  | none => exact absurd rfl h
  | _ => rfl

/-- What registering a class under its own type gives and leaves. -/
theorem registerValidator_own {p : Found classes} (h : p.model ≠ .none) (r : Registry) :
    (registerValidator classes p.member .none false).run r =
      match p.model.checkHashable with
      | .error f => (.error f, r)
      | .ok _ =>
        if r.items.contains p.model then (.error (clash r.name p.model), r)
        else ((Model.ofValue p.model).name.map fun _ => p.model,
          r.stored p.model p.member (moduleDetails p.class_)) := by
  have hkey : keyFor p.class_ .none ≠ .none := h
  exact registerValidator_keyed p.found hkey false r

/-- How a scan ends at a class: with this fault, and with this registry. -/
inductive EndsAt (r : Registry) (p : Found classes) : Fault → Registry → Prop
  | unhashable {f : Fault} : p.enters = true → p.model.checkHashable = .error f → EndsAt r p f r
  | there : p.enters = true → p.model.checkHashable = .ok () →
      r.items.contains p.model = true → EndsAt r p (clash r.name p.model) r
  | nameless {f : Fault} {r' : Registry} : ¬p.Named → EndsAt r p f r'

/-- What happens to one class: it is passed over and perhaps reported, or it is registered, or the
scan ends at it. -/
inductive Step (s : RegistryLog) (p : Found classes) : Except Fault Bool × RegistryLog → Prop
  | passed : p.enters = false → p.Named →
      Step s p (.ok false, ⟨s.registry, s.log ++ p.warning?.toList⟩)
  | entered : p.enters = true → p.Named → p.model.checkHashable = .ok () →
      s.registry.items.contains p.model = false →
      Step s p (.ok true, { s with
        registry := s.registry.stored p.model p.member (moduleDetails p.class_) })
  | ended {f : Fault} {r : Registry} : EndsAt s.registry p f r →
      Step s p (.error f, { s with registry := r })

theorem not_named {p : Found classes} {f : Fault} (h : p.model ≠ .none)
    (hname : (Model.ofValue p.model).name = .error f) : ¬p.Named := by
  rintro (hnone | ⟨name, hok⟩)
  · exact h hnone
  · cases hok.symm.trans hname

theorem scanClass_step (p : Found classes) (s : RegistryLog) :
    Step s p ((scanClass classes p.class_ p.member).run s) := by
  by_cases hnone : p.model = .none
  · have henters : p.enters = false := by rw [Found.enters, hnone]
    have hrun : (scanClass classes p.class_ p.member).run s =
        (.ok false, ⟨s.registry, s.log ++ p.warning?.toList⟩) := by
      rw [Found.warning?, hnone]
      rw [Found.model] at hnone
      unfold scanClass
      rw [hnone]
      rfl
    rw [hrun]
    exact .passed henters (.inl hnone)
  · rw [scanClass_eq hnone]
    cases henters : p.enters with
    | false =>
      cases hname : (Model.ofValue p.model).name with
      | error f => exact .ended (.nameless (not_named hnone hname))
      | ok name =>
        have hstep := Step.passed (s := s) henters (.inr ⟨name, hname⟩)
        rw [Found.warning?_of_ne_none hnone, Option.toList_none, List.append_nil] at hstep
        exact hstep
    | true =>
      rw [if_pos rfl, run_bind, onRegistry_run, registerValidator_own hnone]
      cases hhash : p.model.checkHashable with
      | error f => exact .ended (.unhashable henters hhash)
      | ok _ =>
        cases hthere : s.registry.items.contains p.model with
        | true => exact .ended (.there henters hhash hthere)
        | false =>
          cases hname : (Model.ofValue p.model).name with
          | error f => exact .ended (.nameless (not_named hnone hname))
          | ok name => exact .entered henters (.inr ⟨name, hname⟩) hhash hthere

/-! ## Many classes -/

/-- A registry takes classes one after the other: their types can be keys, and none is there when
its turn comes. -/
structure Admits (r : Registry) (ps : List (Found classes)) : Prop where
  hashable : ∀ p ∈ ps, p.model.checkHashable = .ok ()
  free : ∀ p ∈ ps, r.items.contains p.model = false
  distinct : ps.Pairwise fun p q => p.model.sameKey q.model = false

/-- A registry with classes put under their types one after the other. -/
def filled (r : Registry) (ps : List (Found classes)) : Registry :=
  ps.foldl (fun r p => r.stored p.model p.member (moduleDetails p.class_)) r

@[simp] theorem filled_name (r : Registry) (ps : List (Found classes)) :
    (r.filled ps).name = r.name := by
  induction ps generalizing r with
  | nil => rfl
  | cons p ps ih => exact ih _

theorem contains_stored {r : Registry} {p : Found classes}
    (hnew : r.items.contains p.model = false) (key : Value) :
    (r.stored p.model p.member (moduleDetails p.class_)).items.contains key =
      (r.items.contains key || p.model.sameKey key) := by
  have hitems : (r.stored p.model p.member (moduleDetails p.class_)).items =
      r.items ++ [(p.model, p.member)] := Table.insert_of_absent p.member hnew
  rw [hitems, Table.contains_append, Table.contains_cons]
  exact congrArg _ (Bool.or_false _)

namespace Admits

variable {r : Registry} {p : Found classes} {ps : List (Found classes)}

theorem nil (r : Registry) : r.Admits ([] : List (Found classes)) := ⟨nofun, nofun, .nil⟩

theorem sublist {qs : List (Found classes)} (h : r.Admits ps) (hsub : qs.Sublist ps) :
    r.Admits qs :=
  ⟨fun q hq => h.hashable q (hsub.subset hq), fun q hq => h.free q (hsub.subset hq),
    h.distinct.sublist hsub⟩

/-- What the registry takes after a class is what it takes besides the class, if no type is that of
the class. -/
theorem cons_iff (hhash : p.model.checkHashable = .ok ())
    (hnew : r.items.contains p.model = false) :
    r.Admits (p :: ps) ↔ (r.stored p.model p.member (moduleDetails p.class_)).Admits ps := by
  have hsplit : ∀ q : Found classes,
      (r.stored p.model p.member (moduleDetails p.class_)).items.contains q.model = false ↔
        r.items.contains q.model = false ∧ p.model.sameKey q.model = false := fun q => by
    rw [contains_stored hnew, Bool.or_eq_false_iff]
  constructor
  · intro h
    have hdistinct := List.pairwise_cons.mp h.distinct
    exact ⟨fun q hq => h.hashable q (List.mem_cons_of_mem p hq),
      fun q hq => (hsplit q).mpr ⟨h.free q (List.mem_cons_of_mem p hq), hdistinct.1 q hq⟩,
      hdistinct.2⟩
  · intro h
    have hfree := fun q hq => (hsplit q).mp (h.free q hq)
    exact ⟨List.forall_mem_cons.mpr ⟨hhash, h.hashable⟩,
      List.forall_mem_cons.mpr ⟨hnew, fun q hq => (hfree q hq).1⟩,
      List.pairwise_cons.mpr ⟨fun q hq => (hfree q hq).2, h.distinct⟩⟩

theorem items (h : r.Admits ps) :
    (r.filled ps).items = r.items ++ ps.map fun p => (p.model, p.member) := by
  induction ps generalizing r with
  | nil => exact (List.append_nil _).symm
  | cons p ps ih =>
    have hnew := h.free p List.mem_cons_self
    have hitems : (r.stored p.model p.member (moduleDetails p.class_)).items =
        r.items ++ [(p.model, p.member)] := Table.insert_of_absent p.member hnew
    have hrest := ih ((cons_iff (h.hashable p List.mem_cons_self) hnew).mp h)
    rw [hitems, List.append_assoc] at hrest
    exact hrest

theorem contains_map (ps : List (Found classes)) (key : Value) :
    Table.contains (ps.map fun p => (p.model, p.member)) key =
      ps.any fun p => p.model.sameKey key := by
  rw [Table.contains_eq_any, Table.keys, List.map_map, List.any_map]
  rfl

theorem contains_iff (h : r.Admits ps) (key : Value) :
    (r.filled ps).items.contains key = true ↔
      r.items.contains key = true ∨ ∃ p ∈ ps, p.model.sameKey key = true := by
  rw [h.items, Table.contains_append, Bool.or_eq_true, contains_map, List.any_eq_true]

/-- Every class that was taken is under its type, if that is the same key as itself. -/
theorem get (h : r.Admits ps) (hp : p ∈ ps) (hself : p.model.sameKey p.model = true) :
    (r.filled ps).get p.model = .ok p.member := by
  have hfound : (r.filled ps).items.find? p.model = some p.member := by
    rw [h.items]
    obtain ⟨before, after, rfl⟩ := List.append_of_mem hp
    have hbefore : Table.contains (before.map fun q => (q.model, q.member)) p.model = false := by
      rw [contains_map, List.any_eq_false]
      intro q hq hsame
      have hdistinct := (List.pairwise_append.mp h.distinct).2.2 q hq p List.mem_cons_self
      rw [hdistinct] at hsame
      cases hsame
    rw [Table.find?_append, Table.find?_eq_none (h.free p hp), Option.none_or,
      List.map_append, Table.find?_append, Table.find?_eq_none hbefore, Option.none_or,
      List.map_cons, Table.find?, hself]
    rfl
  rw [get_eq, h.hashable p hp, hfound]

end Admits

/-- How a scan ends: all classes that name a type are registered, or it ends at a class, and those
before it are registered. -/
inductive ScanEnds (ps : List (Found classes)) (s : RegistryLog) :
    Except Fault Nat × RegistryLog → Prop
  | finished : (∀ p ∈ ps, p.Named) → s.registry.Admits (entering ps) →
      ScanEnds ps s
        (.ok (entering ps).length, ⟨s.registry.filled (entering ps), s.log ++ warnings ps⟩)
  | stopped {before after : List (Found classes)} {p : Found classes} {f : Fault} {r : Registry} :
      ps = before ++ p :: after → s.registry.Admits (entering before) →
      EndsAt (s.registry.filled (entering before)) p f r →
      ScanEnds ps s (.error f, ⟨r, s.log ++ warnings before⟩)

namespace ScanEnds

variable {p : Found classes} {ps : List (Found classes)} {s s' : RegistryLog}
  {outcome : Except Fault Nat}

/-- A class before others that is not registered, and perhaps reported. -/
theorem pass (hp : p.enters = false) (hnamed : p.Named)
    (h : ScanEnds ps ⟨s.registry, s.log ++ p.warning?.toList⟩ (outcome, s')) :
    ScanEnds (p :: ps) s (outcome, s') := by
  have hentering : ∀ qs, entering (p :: qs) = entering qs := fun qs => by
    rw [entering, List.filter_cons, hp]
    rfl
  have hwarnings : ∀ qs, s.log ++ p.warning?.toList ++ warnings qs = s.log ++ warnings (p :: qs) :=
    fun qs => by
      rw [warnings, warnings, List.filterMap_cons, List.append_assoc]
      cases p.warning? <;> rfl
  cases h with
  | finished hnames hadmits =>
    rw [hwarnings, ← hentering]
    rw [← hentering] at hadmits
    exact .finished (List.forall_mem_cons.mpr ⟨hnamed, hnames⟩) hadmits
  | stopped hps hadmits hends =>
    rw [hwarnings]
    rw [← hentering] at hadmits hends
    exact .stopped (congrArg (p :: ·) hps) hadmits hends

/-- A class before others that is registered. -/
theorem take (hp : p.enters = true) (hnamed : p.Named) (hhash : p.model.checkHashable = .ok ())
    (hnew : s.registry.items.contains p.model = false)
    (h : ScanEnds ps { s with
      registry := s.registry.stored p.model p.member (moduleDetails p.class_) } (outcome, s')) :
    ScanEnds (p :: ps) s (outcome.map (· + 1), s') := by
  have hentering : ∀ qs, entering (p :: qs) = p :: entering qs := fun qs => by
    rw [entering, List.filter_cons, hp]
    rfl
  have hfilled : ∀ qs, s.registry.filled (p :: qs) =
      (s.registry.stored p.model p.member (moduleDetails p.class_)).filled qs := fun _ => rfl
  have hwarnings : ∀ qs, warnings qs = warnings (p :: qs) := fun qs => by
    rw [warnings, warnings, List.filterMap_cons,
      Found.warning?_of_ne_none (Found.ne_none_of_enters hp)]
  cases h with
  | finished hnames hadmits =>
    have hcount : (entering ps).length + 1 = (entering (p :: ps)).length := by
      rw [hentering, List.length_cons]
    rw [hwarnings, Except.map, hcount, ← hfilled, ← hentering]
    refine .finished (List.forall_mem_cons.mpr ⟨hnamed, hnames⟩) ?_
    rw [hentering]
    exact (Admits.cons_iff hhash hnew).mpr hadmits
  | stopped hps hadmits hends =>
    rw [hwarnings]
    refine .stopped (congrArg (p :: ·) hps) ?_ ?_
    · rw [hentering]
      exact (Admits.cons_iff hhash hnew).mpr hadmits
    · rw [hentering, hfilled]
      exact hends

end ScanEnds

theorem scanFound_cons (p : Found classes) (ps : List (Found classes)) (s : RegistryLog) :
    (scanFound classes (p :: ps)).run s = match (scanClass classes p.class_ p.member).run s with
      | (.error f, s') => (.error f, s')
      | (.ok registered, s') =>
        (((scanFound classes ps).run s').1.map fun n => if registered then n + 1 else n,
          ((scanFound classes ps).run s').2) := by
  rw [scanFound, run_bind]
  rcases (scanClass classes p.class_ p.member).run s with ⟨f | registered, s'⟩
  · rfl
  · dsimp only
    rw [run_bind]
    rcases (scanFound classes ps).run s' with ⟨f | n, s''⟩ <;> rfl

/-- A scan ends in one of the two ways. -/
theorem scanFound_ends (ps : List (Found classes)) (s : RegistryLog) :
    ScanEnds ps s ((scanFound classes ps).run s) := by
  -- The classes that are left are scanned from what the first one leaves: a type that it was
  -- registered under is there for all of them.
  induction ps generalizing s with
  | nil =>
    have h : ScanEnds ([] : List (Found classes)) s (.ok 0, ⟨s.registry, s.log ++ []⟩) :=
      .finished nofun (.nil s.registry)
    rwa [List.append_nil] at h
  | cons p ps ih =>
    have hstep := scanClass_step p s
    rw [scanFound_cons]
    rcases hp : (scanClass classes p.class_ p.member).run s with ⟨outcome, s'⟩
    rw [hp] at hstep
    cases hstep with
    | passed henters hnamed =>
      have hcount : ∀ outcome : Except Fault Nat,
          (outcome.map fun n => if false = true then n + 1 else n) = outcome := fun outcome => by
        cases outcome <;> rfl
      dsimp only
      rw [hcount]
      exact (ih _).pass henters hnamed
    | entered henters hnamed hhash hnew => exact (ih _).take henters hnamed hhash hnew
    | ended hends =>
      have h : ScanEnds (p :: ps) s (.error _, ⟨_, s.log ++ warnings ([] : List (Found classes))⟩) :=
        .stopped rfl (.nil s.registry) hends
      rwa [show warnings ([] : List (Found classes)) = [] from rfl, List.append_nil] at h

/-! ## Types -/

/-- What a registry holds after it took classes one after the other, each under a type that had
none: what it held, and behind that the classes in order, with their modules as details. -/
structure Takes (r : Registry) (ps : List (Found classes)) (r' : Registry) : Prop where
  free : ∀ p ∈ ps, r.items.contains p.model = false
  distinct : ps.Pairwise fun p q => p.model.sameKey q.model = false
  name : r'.name = r.name
  items : r'.items = r.items ++ ps.map fun p => (p.model, p.member)
  details : ∀ p ∈ ps, r'.getMetadata p.model = .ok (moduleDetails p.class_)
  others : ∀ key, (∀ p ∈ ps, p.model.sameKey key = false) →
    r'.getMetadata key = r.getMetadata key

/-- Classes that are taken under types that are classes. -/
theorem Admits.takes {r : Registry} {ps : List (Found classes)} (h : r.Admits ps)
    (hclass : ∀ p ∈ ps, p.model.isClass = true) : Takes r ps (r.filled ps) := by
  suffices hrest :
      (∀ p ∈ ps, (r.filled ps).getMetadata p.model = .ok (moduleDetails p.class_)) ∧
      ∀ key, (∀ p ∈ ps, p.model.sameKey key = false) →
        (r.filled ps).getMetadata key = r.getMetadata key from
    ⟨h.free, h.distinct, filled_name r ps, h.items, hrest.1, hrest.2⟩
  induction ps generalizing r with
  | nil => exact ⟨nofun, fun _ _ => rfl⟩
  | cons p ps ih =>
    have ⟨hp, hps⟩ := List.forall_mem_cons.mp hclass
    have hhash := h.hashable p List.mem_cons_self
    have hdistinct := List.pairwise_cons.mp h.distinct
    obtain ⟨hdetails, hothers⟩ :=
      ih ((cons_iff hhash (h.free p List.mem_cons_self)).mp h) hps
    have hfirst := storedIn_stored r hhash (Value.hasIdentity_of_isClass hp) p.member
      (moduleDetails p.class_)
    refine ⟨List.forall_mem_cons.mpr ⟨?_, hdetails⟩, fun key hkey => ?_⟩
    · refine (hothers p.model fun q hq => ?_).trans hfirst.getMetadata
      rw [← Value.sameKey_comm_of_isClass hp]
      exact hdistinct.1 q hq
    · rw [List.forall_mem_cons] at hkey
      exact (hothers key hkey.2).trans
        (getMetadata_congr rfl (Table.find?_insert_class r.metadata _ hp hkey.1))

end Registry

end Rulebook

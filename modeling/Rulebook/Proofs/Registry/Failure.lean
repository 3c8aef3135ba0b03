import Mathlib
import Rulebook.Proofs.Registry
import Rulebook.Proofs.Table

/-!
# Registrations that fail

A registration puts the item in before it reads the details, and a class of validators is there
before the name of its type is asked for. So there is one way each in which a registration fails
and yet leaves something: details that are neither nothing nor a mapping, and a type without a
name, which no class is. Every other failure leaves the registry as it was.

* `Registry.register_failed`: what a registration that fails leaves.
* `Registry.KeysHashable`: what holds of the keys of a registry, whatever is done to it.
* `Registry.StoredIn`: what a registry answers after an item was put under a key.
* `Registry.registerValidator_outcome`: what registering a class of validators gives and leaves.
-/

namespace Rulebook

namespace Registry

/-! ## Items -/

/-- A registration that fails leaves the registry as it was, but for one that fails in reading its
details: these are neither nothing nor a mapping, and the item alone is there. -/
theorem register_failed {r r' : Registry} {key item metadata : Value} {overwrite : Bool}
    {f : Fault} (h : (register key item metadata overwrite).run r = (.error f, r')) :
    r' = r ∨ (∀ details, metadata ≠ given details) ∧ detailsOf metadata = .error f ∧
      r' = { r with items := r.items.insert key item } := by
  rw [register_eq] at h
  cases hkey : key.checkHashable with
  | error g =>
    rw [hkey] at h
    exact .inl (Prod.mk.inj h).2.symm
  | ok _ =>
    rw [hkey] at h
    dsimp only at h
    split at h
    · exact .inl (Prod.mk.inj h).2.symm
    · cases hdetails : detailsOf metadata with
      | ok details =>
        rw [hdetails] at h
        cases (Prod.mk.inj h).1
      | error g =>
        rw [hdetails] at h
        obtain ⟨hfault, rfl⟩ := Prod.mk.inj h
        cases hfault
        refine .inr ⟨?_, rfl, rfl⟩
        rintro details rfl
        rw [detailsOf_given] at hdetails
        cases hdetails

/-- A registry with one item that has details. -/
def sampleRegistry : Registry :=
  (empty (.str "things")).stored (.str "a") (.int 1) [(.str "by", .none)]

/-- A new item with the details of the old one. -/
theorem register_failed_sample :
    ∃ r', (register (.str "a") (.int 2) (.int 5) true).run sampleRegistry =
        (.error (.notIterable "int"), r') ∧
      r'.get (.str "a") = .ok (.int 2) ∧
      r'.getMetadata (.str "a") = .ok [(.str "by", .none)] ∧
      (r' = sampleRegistry ∨ (∀ details, Value.int 5 ≠ given details) ∧
        detailsOf (.int 5) = .error (.notIterable "int") ∧
        r' = { sampleRegistry with items := sampleRegistry.items.insert (.str "a") (.int 2) }) := by
  have h : (register (.str "a") (.int 2) (.int 5) true).run sampleRegistry =
      (.error (.notIterable "int"), ⟨.str "things", [(.str "a", .int 2)],
        [(.str "a", [(.str "by", .none)])]⟩) := by cbv
  exact ⟨_, h, by cbv, by cbv, register_failed h⟩

/-- An item without details, under a key that was not there. -/
theorem register_not_undone :
    ∃ r', (register (.str "a") (.int 1) (.int 5) false).run (empty (.str "things")) =
        (.error (.notIterable "int"), r') ∧
      (empty (.str "things")).listKeys = [] ∧ r'.listKeys = [.str "a"] ∧
      r'.get (.str "a") = .ok (.int 1) ∧
      r'.getMetadata (.str "a") = .error (.notRegistered "a" (.str "things") none) := by
  have h : (register (.str "a") (.int 1) (.int 5) false).run (empty (.str "things")) =
      (.error (.notIterable "int"), ⟨.str "things", [(.str "a", .int 1)], []⟩) := by cbv
  exact ⟨_, h, rfl, rfl, by cbv, by cbv⟩

/-! ## Keys -/

/-- Every key of a registry can be one. -/
structure KeysHashable (r : Registry) : Prop where
  items : ∀ k ∈ r.items.keys, k.checkHashable = .ok ()
  metadata : ∀ k ∈ r.metadata.keys, k.checkHashable = .ok ()

theorem checkHashable_of_mem_insert {α : Type} {t : Table α} {key : Value} {a : α}
    (hkeys : ∀ k ∈ t.keys, k.checkHashable = .ok ()) (hkey : key.checkHashable = .ok ()) :
    ∀ k ∈ (t.insert key a).keys, k.checkHashable = .ok () := by
  rw [Table.keys_insert]
  cases t.contains key with
  | true => exact hkeys
  | false => exact List.forall_mem_append.mpr ⟨hkeys, List.forall_mem_singleton.mpr hkey⟩

namespace KeysHashable

variable {r r' : Registry} {key : Value}

theorem empty (name : Value) : (Registry.empty name).KeysHashable := ⟨nofun, nofun⟩

theorem stored (h : r.KeysHashable) (hkey : key.checkHashable = .ok ()) (item : Value)
    (details : List (Value × Value)) : (r.stored key item details).KeysHashable :=
  ⟨checkHashable_of_mem_insert h.items hkey, checkHashable_of_mem_insert h.metadata hkey⟩

/-- Registering keeps it, also if it fails. -/
theorem register {item metadata : Value} {overwrite : Bool} {outcome : Except Fault Unit}
    (h : r.KeysHashable)
    (hrun : (Registry.register key item metadata overwrite).run r = (outcome, r')) :
    r'.KeysHashable := by
  rw [register_eq] at hrun
  cases hkey : key.checkHashable with
  | error f =>
    rw [hkey] at hrun
    obtain ⟨-, rfl⟩ := Prod.mk.inj hrun
    exact h
  | ok _ =>
    rw [hkey] at hrun
    dsimp only at hrun
    split at hrun
    · obtain ⟨-, rfl⟩ := Prod.mk.inj hrun
      exact h
    · cases hdetails : detailsOf metadata with
      | ok details =>
        rw [hdetails] at hrun
        obtain ⟨-, rfl⟩ := Prod.mk.inj hrun
        exact h.stored hkey item details
      | error f =>
        rw [hdetails] at hrun
        obtain ⟨-, rfl⟩ := Prod.mk.inj hrun
        exact ⟨checkHashable_of_mem_insert h.items hkey, h.metadata⟩

theorem perform (h : r.KeysHashable) (op : Operation) : (r.perform op).2.KeysHashable := by
  cases op with
  | register key item details overwrite => exact h.register rfl
  | clear => exact empty r.name
  | _ => exact h

/-- It holds whatever was done to the registry. -/
theorem play (h : r.KeysHashable) (ops : List Operation) :
    (Registry.play Registry.perform r ops).2.KeysHashable := by
  induction ops generalizing r with
  | nil => exact h
  | cons op ops ih => exact ih (h.perform op)

end KeysHashable

/-! ## Classes of validators -/

/-- The key that a class of validators goes under: the type that is given, unless it is false, and
its own type otherwise. -/
def keyFor (c : ValidatorClass) (model : Value) : Value :=
  if model.truthy then model else c.model

/-- The details of a class of validators name its module. -/
def moduleDetails (c : ValidatorClass) : List (Value × Value) :=
  [(.str "module", .str c.info.module)]

theorem name_of_isClass {v : Value} (h : v.isClass = true) :
    ∃ name, (Model.ofValue v).name = .ok name := by
  obtain ⟨c, as, rfl⟩ := Value.isClass_iff.mp h
  exact ⟨c.name, rfl⟩

/-- A type has no name if the attribute is missing, or cannot be written. -/
theorem name_error {v : Value} {f : Fault} (h : (Model.ofValue v).name = .error f) :
    v.getAttribute "__name__" = .error f ∨
      ∃ name, v.getAttribute "__name__" = .ok name ∧ name.text = .error f := error_of_bind h

/-- Of the values that can be keys, those with a name are told from others by their identity. -/
theorem hasIdentity_of_name {v : Value} {name : String} (hhash : v.checkHashable = .ok ())
    (h : (Model.ofValue v).name = .ok name) : v.hasIdentity = true := by
  obtain ⟨x, hx, -⟩ := ok_of_bind h
  cases v with
  | «class» | callable | method => rfl
  | object i c as => simpa [Value.checkHashable, Value.hasIdentity] using hhash
  | _ => cases hx

variable {classes : List ValidatorClass} {validator model : Value} {c : ValidatorClass}

theorem registerValidator_unknown (h : validatorClass? classes validator = none)
    (overwrite : Bool) (r : Registry) :
    ∃ f, (registerValidator classes validator model overwrite).run r = (.error f, r) := by
  unfold registerValidator
  rw [h]
  cases validator.shown with
  | error f => exact ⟨f, rfl⟩
  | ok shown => exact ⟨.notAValidator shown, rfl⟩

theorem registerValidator_untyped (h : validatorClass? classes validator = some c)
    (hkey : keyFor c model = .none) (overwrite : Bool) (r : Registry) :
    (registerValidator classes validator model overwrite).run r =
      (.error (.noModel c.info.name), r) := by
  rw [keyFor] at hkey
  unfold registerValidator
  rw [h]
  dsimp only
  rw [hkey]
  rfl

/-- A class of validators that has a key is registered under it, and then the name of the key is
asked for. -/
theorem registerValidator_keyed (h : validatorClass? classes validator = some c)
    (hkey : keyFor c model ≠ .none) (overwrite : Bool) (r : Registry) :
    (registerValidator classes validator model overwrite).run r =
      match (keyFor c model).checkHashable with
      | .error f => (.error f, r)
      | .ok _ =>
        if !overwrite && r.items.contains (keyFor c model) then
          (.error (clash r.name (keyFor c model)), r)
        else (((Model.ofValue (keyFor c model)).name).map fun _ => keyFor c model,
          r.stored (keyFor c model) validator (moduleDetails c)) := by
  have hsteps : registerValidator classes validator model overwrite = (do
      register (keyFor c model) validator (given (some (moduleDetails c))) overwrite
      let _ ← (Model.ofValue (keyFor c model)).name
      pure (keyFor c model)) := by
    unfold registerValidator
    rw [h]
    dsimp only
    unfold keyFor at hkey ⊢
    generalize (if model.truthy then model else c.model) = key at hkey ⊢
    cases key with
    | none => exact absurd rfl hkey
    | _ => rfl
  rw [hsteps, run_bind, register_run]
  cases (keyFor c model).checkHashable with
  | error f => rfl
  | ok _ =>
    cases !overwrite && r.items.contains (keyFor c model) with
    | true => rfl
    | false => cases (Model.ofValue (keyFor c model)).name <;> rfl

theorem KeysHashable.registerValidator {r r' : Registry} {overwrite : Bool}
    {outcome : Except Fault Value} (h : r.KeysHashable)
    (hrun : (Registry.registerValidator classes validator model overwrite).run r = (outcome, r')) :
    r'.KeysHashable := by
  cases hc : validatorClass? classes validator with
  | none =>
    obtain ⟨f, hf⟩ := registerValidator_unknown hc overwrite r
    obtain ⟨-, rfl⟩ := Prod.mk.inj (hf.symm.trans hrun)
    exact h
  | some c =>
    by_cases hkey : keyFor c model = .none
    · obtain ⟨-, rfl⟩ := Prod.mk.inj ((registerValidator_untyped hc hkey overwrite r).symm.trans hrun)
      exact h
    · rw [registerValidator_keyed hc hkey] at hrun
      cases hhash : (keyFor c model).checkHashable with
      | error f =>
        rw [hhash] at hrun
        obtain ⟨-, rfl⟩ := Prod.mk.inj hrun
        exact h
      | ok _ =>
        rw [hhash] at hrun
        dsimp only at hrun
        split at hrun
        · obtain ⟨-, rfl⟩ := Prod.mk.inj hrun
          exact h
        · obtain ⟨-, rfl⟩ := Prod.mk.inj hrun
          exact h.stored hhash validator (moduleDetails c)

/-- What a registry answers after an item and its details were put under a key: they are there,
and nothing else has changed. -/
structure StoredIn (r : Registry) (key item : Value) (details : List (Value × Value))
    (r' : Registry) : Prop where
  get : r'.get key = .ok item
  getMetadata : r'.getMetadata key = .ok details
  listKeys : r'.listKeys = addKey r.listKeys key
  getOptional_other : r.KeysHashable → ∀ other, key.sameKey other = false →
    r'.getOptional other = r.getOptional other
  getMetadata_other : r.KeysHashable → ∀ other, key.sameKey other = false →
    r'.getMetadata other = r.getMetadata other

theorem getMetadata_congr {r r' : Registry} {key : Value} (hname : r'.name = r.name)
    (h : r'.metadata.find? key = r.metadata.find? key) : r'.getMetadata key = r.getMetadata key := by
  rw [getMetadata_eq, getMetadata_eq, h, hname]

theorem storedIn_stored (r : Registry) {key : Value} (hhash : key.checkHashable = .ok ())
    (hkey : key.hasIdentity = true) (item : Value) (details : List (Value × Value)) :
    StoredIn r key item details (r.stored key item details) := by
  have hself := Value.sameKey_self hkey
  have hitem : (r.stored key item details).items.find? key = some item :=
    r.items.find?_insert_self item hself
  have hdetails : (r.stored key item details).metadata.find? key = some details :=
    r.metadata.find?_insert_self details hself
  refine ⟨?_, ?_, ?_, fun hkeys other hother => ?_, fun hkeys other hother => ?_⟩
  · rw [get_eq, hhash, hitem]
  · rw [getMetadata_eq, hhash, hdetails]
  · show (r.items.insert key item).keys = addKey r.items.keys key
    rw [Table.keys_insert, Table.contains_eq_any, addKey]
  · have hfound : (r.stored key item details).items.find? other = r.items.find? other :=
      r.items.find?_insert_other item hother fun k hk hsame =>
        (Value.sameKey_congr hkey (hkeys.items k hk) hsame other).trans hother
    rw [getOptional, getOptional, hfound]
  · exact getMetadata_congr rfl (r.metadata.find?_insert_other details hother fun k hk hsame =>
      (Value.sameKey_congr hkey (hkeys.metadata k hk) hsame other).trans hother)

/-- What registering a class of validators gives and leaves. If it fails the registry is as it
was, unless the type it goes under is neither nothing nor a class: then its name may be missing, or
have no text, when the class is already there. If it does not fail, the class is under the type
that is given back. -/
theorem registerValidator_outcome (classes : List ValidatorClass) (validator model : Value)
    (overwrite : Bool) (r : Registry) :
    match (registerValidator classes validator model overwrite).run r with
    | (.error f, r') => r' = r ∨ ∃ c, validatorClass? classes validator = some c ∧
        (keyFor c model).isClass = false ∧ keyFor c model ≠ .none ∧
        ((keyFor c model).getAttribute "__name__" = .error f ∨
          ∃ name, (keyFor c model).getAttribute "__name__" = .ok name ∧ name.text = .error f) ∧
        r' = r.stored (keyFor c model) validator (moduleDetails c)
    | (.ok key, r') => ∃ c, validatorClass? classes validator = some c ∧ key = keyFor c model ∧
        StoredIn r key validator (moduleDetails c) r' := by
  cases hc : validatorClass? classes validator with
  | none =>
    obtain ⟨f, hf⟩ := registerValidator_unknown hc overwrite r
    rw [hf]
    exact .inl rfl
  | some c =>
    by_cases hkey : keyFor c model = .none
    · rw [registerValidator_untyped hc hkey]
      exact .inl rfl
    · rw [registerValidator_keyed hc hkey]
      cases hhash : (keyFor c model).checkHashable with
      | error f => exact .inl rfl
      | ok _ =>
        cases !overwrite && r.items.contains (keyFor c model) with
        | true => exact .inl rfl
        | false =>
          cases hname : (Model.ofValue (keyFor c model)).name with
          | ok name =>
            exact ⟨c, rfl, rfl,
              storedIn_stored r hhash (hasIdentity_of_name hhash hname) validator (moduleDetails c)⟩
          | error f =>
            have hclass : (keyFor c model).isClass = false := Bool.eq_false_iff.mpr fun hclass => by
              obtain ⟨name, hok⟩ := name_of_isClass hclass
              cases hok.symm.trans hname
            exact .inr ⟨c, rfl, hclass, hkey, name_error hname, rfl⟩

/-- A type that can be validated. -/
def sampleModel : Value :=
  .class ⟨100, "User", "User", "models", .other, false, none, []⟩ []

/-- A class of validators for a type. -/
def sampleValidator : ValidatorClass where
  info := ⟨1000001, "UserValidator", "UserValidator", "shop", .other, false, none, []⟩
  chain := [⟨none, some (.value sampleModel)⟩, ⟨some .none, none⟩]
  isAbstract := false

/-- A class of validators under the name of a type in place of the type. -/
theorem registerValidator_not_undone :
    ∃ r', (registerValidator [.root, sampleValidator] sampleValidator.value (.str "User")
        false).run (empty (.str "validators")) =
          (.error (.noAttribute "str" "__name__"), r') ∧
      (empty (.str "validators")).listKeys = [] ∧ r'.listKeys = [.str "User"] ∧
      r'.get (.str "User") = .ok sampleValidator.value ∧
      r'.getMetadata (.str "User") = .ok [(.str "module", .str "shop")] := by
  have hclass : validatorClass? [.root, sampleValidator] sampleValidator.value =
      some sampleValidator := rfl
  have hkey : keyFor sampleValidator (.str "User") = .str "User" := rfl
  have hname : (Model.ofValue (.str "User")).name = .error (.noAttribute "str" "__name__") := rfl
  have hnone : keyFor sampleValidator (.str "User") ≠ .none := by simp [hkey]
  have h := registerValidator_keyed hclass hnone false (empty (.str "validators"))
  rw [hkey, hname] at h
  exact ⟨_, h, rfl, rfl, by cbv, by cbv⟩

end Registry

end Rulebook

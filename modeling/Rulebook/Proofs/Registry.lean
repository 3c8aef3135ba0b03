import Mathlib.Data.List.DropRight
import Mathlib.Data.List.Induction
import Rulebook.Registry
import Rulebook.Proofs.Table
import Rulebook.Proofs.Value.Writing

/-!
# A registry as one map

A registry keeps items and details in two tables, and every question looks at one of them. Seen
from outside it is one map: the tables change together, so they always have the same keys in the
same order. A key that is registered again stays as it was first written, and where it was.

* `Registry.Describes`: how a key is described in a fault. `Registry.IsClash`, `Registry.IsMissing`:
  what the faults of a registry report.
* `Registry.Holdings`: items with their details under keys, in order. `Registry.Holdings.perform`:
  what one map answers to an operation.
* `Registry.perform_asRegistry`: a registry answers an operation as the map does.
* `Registry.keys_perform`, `Registry.keys_play`: the keys after an operation, and after many.
* `Registry.refines_map`: what a registry answers, and holds, after any operations.
-/

namespace Rulebook

namespace Registry

/-! ## Faults -/

/-- The fault of registering under a key that is there already. It names the key and the registry,
unless one of them has no text. -/
def clash (name key : Value) : Fault :=
  match describeKey key, name.text with
  | .ok described, .ok text => .alreadyRegistered described name text
  | .error f, _ => f
  | .ok _, .error f => f

/-- The fault of a key that is not there, among those that are. -/
def missing (name key : Value) (present : List Value) : Fault :=
  match describeKey key, describeKeys present with
  | .ok described, .ok available => .notRegistered described name (some available)
  | .error f, _ => f
  | .ok _, .error f => f

/-- The fault of a key whose details are not there. -/
def missingDetails (name key : Value) : Fault :=
  match describeKey key with
  | .ok described => .notRegistered described name none
  | .error f => f

/-- How a key is described: a class by its qualified name, anything else by its text. -/
inductive Describes : Value → String → Prop
  | class (c : ClassInfo) (attributes : List (String × Value)) :
    Describes (.class c attributes) c.qualname
  | other {key : Value} {text : String} :
    key.isClass = false → key.text = .ok text → Describes key text

/-- The fault of one of some keys that has no text. -/
def IsOfKeys (keys : List Value) (f : Fault) : Prop :=
  ∃ key ∈ keys, key.isClass = false ∧ key.text = .error f

/-- What is reported of a fault of the library. -/
structure Reports (f : Fault) (kind message : String) (details : List (Value × Value)) : Prop where
  kind : f.kind = kind
  message : f.message = message
  details : f.context? = some details

/-- The fault of registering under a key that is there already: that of the key or the name of the
registry if it has no text, and else one of operation that names both. -/
def IsClash (name key : Value) (f : Fault) : Prop :=
  IsOfKeys [key] f ∨ name.text = .error f ∨
    ∃ described text, Describes key described ∧ name.text = .ok text ∧
      Reports f "OperationError" ("Item '" ++ described ++ "' already registered in " ++ text)
        [(.str "key", .str described), (.str "registry", name)]

/-- The fault of asking for a key that is not there: that of a key without a text, and else one
that names the key and lists the keys that are there, in order. -/
def IsMissing (name key : Value) (present : List Value) (f : Fault) : Prop :=
  IsOfKeys (key :: present) f ∨
    ∃ described available, Describes key described ∧ List.Forall₂ Describes present available ∧
      Reports f "NotFoundError" ("Item not found: " ++ described)
        [(.str "key", .str described), (.str "registry", name),
          (.str "available_keys", .list (available.map .str))]

/-- The fault of asking for the details under a key that is not there. -/
def IsMissingDetails (name key : Value) (f : Fault) : Prop :=
  IsOfKeys [key] f ∨
    ∃ described, Describes key described ∧
      Reports f "NotFoundError" ("Item not found: " ++ described)
        [(.str "key", .str described), (.str "registry", name)]

theorem describeKey_ok {key : Value} {text : String} (h : describeKey key = .ok text) :
    Describes key text := by
  cases key with
  | «class» c as =>
    cases h
    exact .class c as
  | _ => exact .other rfl h

theorem describeKey_error {key : Value} {f : Fault} (h : describeKey key = .error f) :
    key.isClass = false ∧ key.text = .error f := by
  cases key with
  | «class» c as => cases h
  | _ => exact ⟨rfl, h⟩

theorem describeKeys_ok {keys : List Value} {texts : List String}
    (h : describeKeys keys = .ok texts) : List.Forall₂ Describes keys texts := by
  induction keys generalizing texts with
  | nil =>
    cases h
    exact .nil
  | cons key keys ih =>
    obtain ⟨text, htext, h⟩ := ok_of_bind h
    obtain ⟨rest, hrest, h⟩ := ok_of_bind h
    cases h
    exact .cons (describeKey_ok htext) (ih hrest)

theorem describeKeys_error {keys : List Value} {f : Fault} (h : describeKeys keys = .error f) :
    IsOfKeys keys f := by
  induction keys with
  | nil => cases h
  | cons key keys ih =>
    rcases error_of_bind h with hkey | ⟨_, -, h⟩
    · exact ⟨key, List.mem_cons_self, describeKey_error hkey⟩
    · rcases error_of_bind h with hkeys | ⟨_, -, h⟩
      · obtain ⟨key', hmem, hkey'⟩ := ih hkeys
        exact ⟨key', List.mem_cons_of_mem key hmem, hkey'⟩
      · cases h

theorem isClash_clash (name key : Value) : IsClash name key (clash name key) := by
  unfold clash
  cases hkey : describeKey key with
  | error f => exact .inl ⟨key, List.mem_cons_self, describeKey_error hkey⟩
  | ok described =>
    cases hname : name.text with
    | error f => exact .inr (.inl hname)
    | ok text => exact .inr (.inr ⟨described, text, describeKey_ok hkey, hname, rfl, rfl, rfl⟩)

theorem isMissing_missing (name key : Value) (present : List Value) :
    IsMissing name key present (missing name key present) := by
  unfold missing
  cases hkey : describeKey key with
  | error f => exact .inl ⟨key, List.mem_cons_self, describeKey_error hkey⟩
  | ok described =>
    cases hkeys : describeKeys present with
    | error f =>
      obtain ⟨key', hmem, hkey'⟩ := describeKeys_error hkeys
      exact .inl ⟨key', List.mem_cons_of_mem key hmem, hkey'⟩
    | ok available =>
      exact .inr ⟨described, available, describeKey_ok hkey, describeKeys_ok hkeys, rfl, rfl, rfl⟩

theorem isMissingDetails_missingDetails (name key : Value) :
    IsMissingDetails name key (missingDetails name key) := by
  unfold missingDetails
  cases hkey : describeKey key with
  | error f => exact .inl ⟨key, List.mem_cons_self, describeKey_error hkey⟩
  | ok described => exact .inr ⟨described, describeKey_ok hkey, rfl, rfl, rfl⟩

/-! ## One operation -/

/-- Details as they are given: none, or a mapping. -/
def given : Option (List (Value × Value)) → Value
  | none => .none
  | some entries => .dict entries

theorem detailsOf_given (details : Option (List (Value × Value))) :
    detailsOf (given details) = .ok (details.getD []) := by
  rcases details with _ | _ | ⟨entry, entries⟩ <;> rfl

theorem checkFree_run (key : Value) (r : Registry) :
    (checkFree key).run r = match key.checkHashable with
      | .error f => (.error f, r)
      | .ok _ => if r.items.contains key then (.error (clash r.name key), r) else (.ok (), r) := by
  unfold checkFree clash
  cases key.checkHashable with
  | error f => rfl
  | ok _ =>
    show (if r.items.contains key then (do
      let described ← describeKey key
      let name ← r.name.text
      throw (.alreadyRegistered described r.name name) : RegistryAction Unit) else pure ()).run r =
        _
    cases r.items.contains key with
    | false => rfl
    | true =>
      cases describeKey key with
      | error f => rfl
      | ok described => cases r.name.text <;> rfl

/-- Puts an item and its details under a key, whatever is there. -/
def put (key item metadata : Value) : RegistryAction Unit := do
  key.checkHashable
  modify fun r => { r with items := r.items.insert key item }
  let details ← detailsOf metadata
  modify fun r => { r with metadata := r.metadata.insert key details }

/-- The registry with an item and its details under a key. -/
def stored (r : Registry) (key item : Value) (details : List (Value × Value)) : Registry :=
  { r with items := r.items.insert key item, metadata := r.metadata.insert key details }

/-- The item is there before the details are looked at. -/
theorem put_run (key item metadata : Value) (r : Registry) :
    (put key item metadata).run r = match key.checkHashable with
      | .error f => (.error f, r)
      | .ok _ => match detailsOf metadata with
        | .error f => (.error f, { r with items := r.items.insert key item })
        | .ok details => (.ok (), r.stored key item details) := by
  unfold put
  cases key.checkHashable with
  | error f => rfl
  | ok _ => cases detailsOf metadata <;> rfl

theorem register_eq (key item metadata : Value) (overwrite : Bool) (r : Registry) :
    (register key item metadata overwrite).run r = match key.checkHashable with
      | .error f => (.error f, r)
      | .ok _ =>
        if !overwrite && r.items.contains key then (.error (clash r.name key), r)
        else match detailsOf metadata with
          | .error f => (.error f, { r with items := r.items.insert key item })
          | .ok details => (.ok (), r.stored key item details) := by
  have hput := put_run key item metadata r
  cases overwrite with
  | true => exact hput
  | false =>
    show ((checkFree key >>= fun _ => put key item metadata).run r) = _
    rw [run_bind, checkFree_run]
    cases hkey : key.checkHashable with
    | error f => rfl
    | ok _ =>
      rw [hkey] at hput
      cases hc : r.items.contains key with
      | true => rfl
      | false => exact hput

theorem register_run (key item : Value) (details : Option (List (Value × Value)))
    (overwrite : Bool) (r : Registry) :
    (register key item (given details) overwrite).run r = match key.checkHashable with
      | .error f => (.error f, r)
      | .ok _ =>
        if !overwrite && r.items.contains key then (.error (clash r.name key), r)
        else (.ok (), r.stored key item (details.getD [])) := by
  rw [register_eq, detailsOf_given]

theorem register_present {r : Registry} {key : Value} (hkey : key.checkHashable = .ok ())
    (hpresent : r.items.contains key = true) (item : Value)
    (details : Option (List (Value × Value))) :
    (register key item (given details) false).run r = (.error (clash r.name key), r) := by
  rw [register_run, hkey, hpresent]
  rfl

theorem get_eq (r : Registry) (key : Value) :
    r.get key = match key.checkHashable with
      | .error f => .error f
      | .ok _ => match r.items.find? key with
        | some item => .ok item
        | none => .error (missing r.name key r.items.keys) := by
  unfold get missing
  cases key.checkHashable with
  | error f => rfl
  | ok _ =>
    rw [ok_then]
    cases r.items.find? key with
    | some item => rfl
    | none =>
      cases describeKey key with
      | error f => rfl
      | ok described => cases describeKeys r.items.keys <;> rfl

theorem getMetadata_eq (r : Registry) (key : Value) :
    r.getMetadata key = match key.checkHashable with
      | .error f => .error f
      | .ok _ => match r.metadata.find? key with
        | some details => .ok details
        | none => .error (missingDetails r.name key) := by
  unfold getMetadata missingDetails
  cases key.checkHashable with
  | error f => rfl
  | ok _ =>
    rw [ok_then]
    cases r.metadata.find? key with
    | some details => rfl
    | none => cases describeKey key <;> rfl

/-! ## One map -/

/-- An item and its details under a key. -/
structure Holding where
  key : Value
  item : Value
  details : List (Value × Value)

/-- A map from keys to items with their details, in the order in which the keys came. -/
abbrev Holdings := List Holding

namespace Holdings

/-- The keys in order. -/
def keys (m : Holdings) : List Value := m.map (·.key)

/-- What is under a key. -/
def under (m : Holdings) (key : Value) : Option Holding := m.find? fun h => h.key.sameKey key

/-- The map with an item and its details under a key: in place of those that are there, or at the
end. -/
def put (m : Holdings) (key item : Value) (details : List (Value × Value)) : Holdings :=
  match m.findIdx? fun h => h.key.sameKey key with
  | some i => m.modify i fun h => { h with item, details }
  | none => m ++ [⟨key, item, details⟩]

/-- The registry with two tables that holds what the map holds. -/
def asRegistry (name : Value) (m : Holdings) : Registry where
  name
  items := m.map fun h => (h.key, h.item)
  metadata := m.map fun h => (h.key, h.details)

theorem find?_map {α : Type} (m : Holdings) (f : Holding → α) (key : Value) :
    Table.find? (m.map fun h => (h.key, f h)) key = (m.under key).map f := by
  induction m with
  | nil => rfl
  | cons h m ih =>
    rw [List.map_cons, Table.find?, ih, under, under, List.find?_cons]
    cases h.key.sameKey key <;> rfl

theorem put_cons (h : Holding) (m : Holdings) (key item : Value) (details : List (Value × Value)) :
    put (h :: m) key item details =
      if h.key.sameKey key then { h with item, details } :: m
      else h :: put m key item details := by
  unfold put
  rw [List.findIdx?_cons]
  cases h.key.sameKey key with
  | true => rfl
  | false => cases List.findIdx? (fun h : Holding => h.key.sameKey key) m <;> rfl

theorem insert_map {α : Type} (m : Holdings) (f : Holding → α) (key item : Value)
    (details : List (Value × Value)) {a : α} (hf : ∀ k, f ⟨k, item, details⟩ = a) :
    Table.insert (m.map fun h => (h.key, f h)) key a =
      (m.put key item details).map fun h => (h.key, f h) := by
  induction m with
  | nil =>
    rw [List.map_nil, Table.insert, ← hf key]
    rfl
  | cons h m ih =>
    rw [List.map_cons, Table.insert, ih, put_cons]
    cases h.key.sameKey key with
    | true => rw [← hf h.key]; rfl
    | false => rfl

theorem asRegistry_put (name : Value) (m : Holdings) (key item : Value)
    (details : List (Value × Value)) :
    (m.put key item details).asRegistry name = (m.asRegistry name).stored key item details := by
  have hitems := m.insert_map (·.item) key item details fun _ => rfl
  have hmetadata := m.insert_map (·.details) key item details fun _ => rfl
  rw [asRegistry, ← hitems, ← hmetadata]
  rfl

theorem under_cons (h : Holding) (m : Holdings) (key : Value) :
    under (h :: m) key = if h.key.sameKey key then some h else under m key := by
  rw [under, List.find?_cons]
  cases h.key.sameKey key <;> rfl

theorem isSome_under (m : Holdings) (key : Value) :
    (m.under key).isSome = m.keys.any fun k => k.sameKey key := by
  induction m with
  | nil => rfl
  | cons h m ih =>
    rw [under_cons, keys, List.map_cons, List.any_cons, ← keys, ← ih]
    cases h.key.sameKey key <;> rfl

theorem keys_put (m : Holdings) (key item : Value) (details : List (Value × Value)) :
    (m.put key item details).keys =
      if (m.under key).isSome then m.keys else m.keys ++ [key] := by
  induction m with
  | nil => rfl
  | cons h m ih =>
    rw [put_cons, under_cons]
    cases h.key.sameKey key with
    | true => rfl
    | false =>
      show h.key :: keys (put m key item details) =
        if (under m key).isSome then h.key :: keys m else h.key :: keys m ++ [key]
      rw [ih]
      cases (under m key).isSome <;> rfl

end Holdings

/-! ## Operations -/

/-- What a registry is asked to do. Membership is `has`, iteration is `listItems`, and the length
is `count`. -/
inductive Operation where
  | register (key item : Value) (details : Option (List (Value × Value))) (overwrite : Bool)
  | clear
  | get (key : Value)
  | getOptional (key : Value)
  | getMetadata (key : Value)
  | has (key : Value)
  | listKeys
  | listItems
  | count

/-- What is answered to an operation. -/
inductive Reply where
  | done (outcome : Except Fault Unit)
  | item (found : Except Fault Value)
  | optional (found : Except Fault (Option Value))
  | details (found : Except Fault (List (Value × Value)))
  | truth (found : Except Fault Bool)
  | values (vs : List Value)
  | number (n : Nat)

/-- What a registry answers to an operation, and the registry after it. -/
def perform (r : Registry) : Operation → Reply × Registry
  | .register key item details overwrite =>
    let outcome := (register key item (given details) overwrite).run r
    (.done outcome.1, outcome.2)
  | .clear => (.done (.ok ()), r.clear)
  | .get key => (.item (r.get key), r)
  | .getOptional key => (.optional (r.getOptional key), r)
  | .getMetadata key => (.details (r.getMetadata key), r)
  | .has key => (.truth (r.has key), r)
  | .listKeys => (.values r.listKeys, r)
  | .listItems => (.values r.listItems, r)
  | .count => (.number r.count, r)

/-- What is answered about a key, if it can be one. -/
def about {α : Type} (key : Value) (answer : Except Fault α) : Except Fault α :=
  match key.checkHashable with
  | .error f => .error f
  | .ok _ => answer

/-- What one map answers to an operation, and the map after it. -/
def Holdings.perform (name : Value) (m : Holdings) : Operation → Reply × Holdings
  | .register key item details overwrite =>
    match key.checkHashable with
    | .error f => (.done (.error f), m)
    | .ok _ =>
      if !overwrite && (m.under key).isSome then (.done (.error (clash name key)), m)
      else (.done (.ok ()), m.put key item (details.getD []))
  | .clear => (.done (.ok ()), [])
  | .get key =>
    (.item (about key (match m.under key with
      | some h => .ok h.item
      | none => .error (missing name key m.keys))), m)
  | .getOptional key => (.optional (about key (.ok ((m.under key).map (·.item)))), m)
  | .getMetadata key =>
    (.details (about key (match m.under key with
      | some h => .ok h.details
      | none => .error (missingDetails name key))), m)
  | .has key => (.truth (about key (.ok (m.under key).isSome)), m)
  | .listKeys => (.values m.keys, m)
  | .listItems => (.values (m.map (·.item)), m)
  | .count => (.number m.length, m)

theorem perform_asRegistry (name : Value) (m : Holdings) (op : Operation) :
    (m.asRegistry name).perform op =
      ((m.perform name op).1, (m.perform name op).2.asRegistry name) := by
  have hitems : ∀ key, (m.asRegistry name).items.find? key = (m.under key).map (·.item) :=
    m.find?_map (·.item)
  have hkeys : (m.asRegistry name).items.keys = m.keys := by
    simp [Holdings.asRegistry, Table.keys, Holdings.keys]
  have hdetails : ∀ key, (m.asRegistry name).metadata.find? key = (m.under key).map (·.details) :=
    m.find?_map (·.details)
  have hcontains : ∀ key, (m.asRegistry name).items.contains key = (m.under key).isSome := by
    intro key
    rw [Table.contains, hitems, Option.isSome_map]
  cases op with
  | register key item details overwrite =>
    simp only [perform, register_run, Holdings.perform, hcontains]
    cases key.checkHashable with
    | error f => rfl
    | ok _ =>
      cases hc : !overwrite && (m.under key).isSome with
      | true => rfl
      | false =>
        simp only [Bool.false_eq_true, if_false, m.asRegistry_put]
  | clear => rfl
  | get key =>
    simp only [perform, Holdings.perform, get_eq, about, hitems, hkeys]
    cases key.checkHashable with
    | error f => rfl
    | ok _ => cases m.under key <;> rfl
  | getOptional key =>
    simp only [perform, Holdings.perform, getOptional, about, hitems]
    cases key.checkHashable <;> rfl
  | getMetadata key =>
    simp only [perform, Holdings.perform, getMetadata_eq, about, hdetails]
    cases key.checkHashable with
    | error f => rfl
    | ok _ => cases m.under key <;> rfl
  | has key =>
    simp only [perform, Holdings.perform, has, about, hcontains]
    cases key.checkHashable <;> rfl
  | listKeys => simp only [perform, Holdings.perform, listKeys, hkeys]
  | listItems =>
    have hlist : (m.asRegistry name).listItems = m.map (·.item) := by
      simp [Holdings.asRegistry, listItems]
    simp only [perform, Holdings.perform, hlist]
  | count =>
    have hcount : (m.asRegistry name).count = m.length := by
      simp [Holdings.asRegistry, count]
    simp only [perform, Holdings.perform, hcount]

/-! ## Runs -/

/-- What is answered to operations one after the other, and what they leave. -/
def play {σ : Type} (step : σ → Operation → Reply × σ) (s : σ) : List Operation → List Reply × σ
  | [] => ([], s)
  | op :: ops =>
    let (reply, s') := step s op
    let (replies, t) := play step s' ops
    (reply :: replies, t)

theorem play_append {σ : Type} (step : σ → Operation → Reply × σ) (s : σ)
    (earlier later : List Operation) :
    play step s (earlier ++ later) =
      ((play step s earlier).1 ++ (play step (play step s earlier).2 later).1,
        (play step (play step s earlier).2 later).2) := by
  induction earlier generalizing s with
  | nil => rfl
  | cons op earlier ih => simp only [List.cons_append, play, ih]

theorem play_asRegistry (name : Value) (m : Holdings) (ops : List Operation) :
    play perform (m.asRegistry name) ops =
      ((play (Holdings.perform name) m ops).1,
        (play (Holdings.perform name) m ops).2.asRegistry name) := by
  induction ops generalizing m with
  | nil => rfl
  | cons op ops ih => simp only [play, perform_asRegistry, ih]

/-- Keys with one more behind them, unless it is one of them. -/
def addKey (seen : List Value) (k : Value) : List Value :=
  if seen.any (·.sameKey k) then seen else seen ++ [k]

/-- The keys in the order in which each came first. -/
def distinctKeys (ks : List Value) : List Value := ks.foldl addKey []

/-- No two of the keys are the same. -/
def Distinct (ks : List Value) : Prop := ks.Pairwise fun k l => k.sameKey l = false

theorem distinct_addKey {seen : List Value} (h : Distinct seen) (k : Value) :
    Distinct (addKey seen k) := by
  unfold addKey
  cases hany : seen.any (·.sameKey k) with
  | true => exact h
  | false =>
    refine List.pairwise_append.mpr ⟨h, List.pairwise_singleton _ _, fun k' hk' l hl => ?_⟩
    obtain rfl := List.mem_singleton.mp hl
    exact Bool.eq_false_iff.mpr (List.any_eq_false.mp hany k' hk')

theorem distinctKeys_distinct (ks : List Value) : Distinct (distinctKeys ks) := by
  induction ks using List.reverseRecOn with
  | nil => exact List.Pairwise.nil
  | append_singleton ks k ih =>
    rw [distinctKeys, List.foldl_append]
    exact distinct_addKey ih k

/-- Whether the operation clears the registry. -/
def Operation.clears : Operation → Bool
  | .clear => true
  | _ => false

/-- The operations behind the last one that clears the registry. -/
def sinceClear (ops : List Operation) : List Operation := ops.rtakeWhile fun op => !op.clears

/-- The key that an operation registers an item under, if it can be one. -/
def Operation.key? : Operation → Option Value
  | .register key _ _ _ =>
    match key.checkHashable with
    | .ok _ => some key
    | .error _ => none
  | _ => none

/-- What an operation does to the keys: registering under a new one adds it. -/
theorem keys_perform (name : Value) (m : Holdings) (op : Operation) :
    (m.perform name op).2.keys =
      if op.clears then [] else op.key?.toList.foldl addKey m.keys := by
  cases op with
  | register key item details overwrite =>
    simp only [Operation.clears, Bool.false_eq_true, if_false, Operation.key?, Holdings.perform]
    cases key.checkHashable with
    | error f => rfl
    | ok _ =>
      have hput := m.keys_put key item (details.getD [])
      show _ = addKey m.keys key
      rw [addKey, ← m.isSome_under, ← hput]
      cases hpresent : !overwrite && (m.under key).isSome with
      | false => rfl
      | true =>
        rw [hput, (Bool.and_eq_true_iff.mp hpresent).2]
        rfl
  | _ => rfl

theorem sinceClear_append_one (ops : List Operation) (op : Operation) :
    sinceClear (ops ++ [op]) = if op.clears then [] else sinceClear ops ++ [op] := by
  rw [sinceClear, List.rtakeWhile_concat]
  cases op.clears <;> rfl

theorem keys_play (name : Value) (ops : List Operation) :
    (play (Holdings.perform name) [] ops).2.keys =
      distinctKeys ((sinceClear ops).filterMap Operation.key?) := by
  induction ops using List.reverseRecOn with
  | nil => rfl
  | append_singleton ops op ih =>
    rw [play_append]
    show (Holdings.perform name (play (Holdings.perform name) [] ops).2 op).2.keys = _
    rw [keys_perform, ih, sinceClear_append_one]
    cases op.clears with
    | true => rfl
    | false =>
      have hone : [op].filterMap Operation.key? = op.key?.toList := by
        cases h : op.key? <;> simp [h]
      show _ = distinctKeys ((sinceClear ops ++ [op]).filterMap Operation.key?)
      rw [List.filterMap_append, hone]
      exact List.foldl_append.symm

/-- A registry says of a key what the map says: what is under it, or that there is nothing. While
there is something, nothing else is registered under the key, and the attempt changes nothing. -/
structure Agrees (r : Registry) (m : Holdings) (key : Value) : Prop where
  has : r.has key = .ok (m.under key).isSome
  getOptional : r.getOptional key = .ok ((m.under key).map (·.item))
  get : ∀ h, m.under key = some h → r.get key = .ok h.item
  getMetadata : ∀ h, m.under key = some h → r.getMetadata key = .ok h.details
  get_absent : m.under key = none → ∃ f, r.get key = .error f ∧ IsMissing r.name key m.keys f
  getMetadata_absent : m.under key = none →
    ∃ f, r.getMetadata key = .error f ∧ IsMissingDetails r.name key f
  refused : (m.under key).isSome → ∀ item details, ∃ f,
    (register key item (given details) false).run r = (.error f, r) ∧ IsClash r.name key f

theorem agrees_asRegistry (name : Value) (m : Holdings) {key : Value}
    (hkey : key.checkHashable = .ok ()) : Agrees (m.asRegistry name) m key := by
  have hperform := perform_asRegistry name m
  have hget := congrArg Prod.fst (hperform (.get key))
  simp only [perform, Holdings.perform, about, hkey] at hget
  have hdetails := congrArg Prod.fst (hperform (.getMetadata key))
  simp only [perform, Holdings.perform, about, hkey] at hdetails
  refine ⟨?_, ?_, fun h hunder => ?_, fun h hunder => ?_, fun hunder => ?_, fun hunder => ?_,
    fun hpresent item details => ?_⟩
  · have h := congrArg Prod.fst (hperform (.has key))
    simpa [perform, Holdings.perform, about, hkey] using h
  · have h := congrArg Prod.fst (hperform (.getOptional key))
    simpa [perform, Holdings.perform, about, hkey] using h
  · rw [Reply.item.inj hget, hunder]
  · rw [Reply.details.inj hdetails, hunder]
  · rw [Reply.item.inj hget, hunder]
    exact ⟨_, rfl, isMissing_missing name key m.keys⟩
  · rw [Reply.details.inj hdetails, hunder]
    exact ⟨_, rfl, isMissingDetails_missingDetails name key⟩
  · have h := hperform (.register key item details false)
    simp only [perform, Holdings.perform, hkey, hpresent, Bool.not_false, Bool.and_self,
      if_true, Prod.mk.injEq, Reply.done.injEq] at h
    exact ⟨_, Prod.ext h.1 h.2, isClash_clash name key⟩

/-- For all operations one after the other, a registry answers what one map answers. Its two tables
hold what the map holds, in the order of the map; no two keys are the same, and they stand in the
order in which they were first registered since the last time the registry was cleared. All
questions about a key agree on whether it is there. -/
theorem refines_map (name : Value) (ops : List Operation) :
    ∃ replies m, play (Holdings.perform name) [] ops = (replies, m) ∧
      play perform (empty name) ops = (replies, m.asRegistry name) ∧
      Distinct m.keys ∧ m.keys = distinctKeys ((sinceClear ops).filterMap Operation.key?) ∧
      ∀ key, key.checkHashable = .ok () → Agrees (m.asRegistry name) m key := by
  have hkeys := keys_play name ops
  refine ⟨_, _, rfl, play_asRegistry name [] ops, ?_, hkeys,
    fun _ hkey => agrees_asRegistry name _ hkey⟩
  rw [hkeys]
  exact distinctKeys_distinct _

/-- Equal numbers of different kinds are registered, refused, put in place of each other, and
registered anew in another order. -/
def sampleOperations : List Operation := [
  .register (.int 1) (.str "a") none false,
  .register (.bool true) (.str "b") none false,
  .register (.int 2) (.str "c") none false,
  .register (.bool true) (.str "d") (some [(.str "by", .none)]) true,
  .clear,
  .register (.bool true) (.str "e") none true,
  .register (.int 2) (.str "f") none false,
  .register (.int 1) (.str "g") (some []) true]

theorem refines_map_sample :
    ∃ replies m, play perform (empty (.str "sample")) sampleOperations =
        (replies, m.asRegistry (.str "sample")) ∧
      m.keys = [.bool true, .int 2] ∧ Agrees (m.asRegistry (.str "sample")) m (.int 1) := by
  obtain ⟨replies, m, -, hrun, -, hkeys, hagrees⟩ := refines_map (.str "sample") sampleOperations
  exact ⟨replies, m, hrun, hkeys.trans (by cbv), hagrees (.int 1) rfl⟩

/-- A key that is too long to be written. -/
def longKey : Value := .fraction longInteger 1

theorem describeKey_longKey : describeKey longKey = .error (.tooManyDigits none) := by
  have hlong : intText longInteger = .error (.tooManyDigits none) :=
    (FailsLongIff.int longInteger _).mpr ⟨rfl, isLong_longInteger⟩
  show longKey.text = _
  rw [longKey, Value.text, hlong]
  rfl

/-- A second item under a key that is too long to be written is refused, but for the writing. So is
the question for a key that is not there, as the list of the keys cannot be written. -/
theorem register_long_refused :
    ∃ r, (register longKey (.str "a") .none false).run (empty (.str "things")) = (.ok (), r) ∧
      r.has longKey = .ok true ∧
      (register longKey (.str "b") .none false).run r = (.error (.tooManyDigits none), r) ∧
      r.get (.str "x") = .error (.tooManyDigits none) ∧
      (Fault.tooManyDigits none).kind = "ValueError" := by
  have hhash : longKey.checkHashable = .ok () := Value.checkHashable_fraction longInteger 1
  have hfirst := register_run longKey (.str "a") none false (empty (.str "things"))
  have hpresent : Table.contains [(longKey, Value.str "a")] longKey = true := by
    rw [Table.contains_cons, longKey, Value.sameKey_fraction]
    rfl
  have hsecond := register_present
    (r := (empty (.str "things")).stored longKey (.str "a") []) hhash hpresent (.str "b") none
  have hclash : clash (.str "things") longKey = .tooManyDigits none := by
    rw [clash, describeKey_longKey]
  have hmissing : missing (.str "things") (.str "x") [longKey] = .tooManyDigits none := by
    rw [missing, describeKeys, describeKey_longKey]
    rfl
  rw [hhash] at hfirst
  refine ⟨(empty (.str "things")).stored longKey (.str "a") [], hfirst, ?_, ?_, ?_, rfl⟩
  · rw [has, hhash]
    exact congrArg Except.ok hpresent
  · rw [← hclash]
    exact hsecond
  · rw [get_eq]
    exact congrArg Except.error hmissing

end Registry

end Rulebook

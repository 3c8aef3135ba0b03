import Rulebook.Table

/-!
# Looking up what was put in

What a table answers after something was put under a key. A key that was found by another form of
it need not be the same as every key that this form is the same as; keys that are compared by their
identity, as classes are, leave no such doubt.

* `Value.sameKey_class_iff`: a class is the same key as the classes of its identity alone.
* `Value.sameKey_congr`: what is the same key as one with an identity is the same as the same keys.
* `Table.insert_of_absent`, `Table.keys_insert`: where a key goes.
* `Table.foldl_insert`: entries with distinct keys that are put in one by one.
* `Table.find?_insert_self`, `Table.find?_insert_other`: what is under a key after something was put
  there, and under every other key.
-/

namespace Rulebook

namespace Value

theorem isClass_iff {v : Value} : v.isClass = true ↔ ∃ c attributes, v = .class c attributes := by
  cases v <;> simp [isClass]

theorem ne_none_of_isClass {v : Value} (h : v.isClass = true) : v ≠ .none := by
  rintro rfl
  cases h

theorem sameKey_class_iff {k : Value} {d : ClassInfo} {attributes : List (String × Value)} :
    k.sameKey (.class d attributes) = true ↔ ∃ c own, k = .class c own ∧ c.id = d.id := by
  cases k <;> simp [sameKey, same, identical, equals, complexEqual, quantity?]

theorem class_sameKey_iff {k : Value} {c : ClassInfo} {attributes : List (String × Value)} :
    (Value.class c attributes).sameKey k = true ↔ ∃ d own, k = .class d own ∧ c.id = d.id := by
  cases k <;> simp [sameKey, same, identical, equals, complexEqual, quantity?]

/-- Of two values that are the same key both are classes or none is. -/
theorem isClass_eq_of_sameKey {k l : Value} (h : k.sameKey l = true) : k.isClass = l.isClass := by
  rw [Bool.eq_iff_iff]
  constructor
  · intro hk
    obtain ⟨c, as, rfl⟩ := isClass_iff.mp hk
    obtain ⟨d, own, rfl, -⟩ := class_sameKey_iff.mp h
    rfl
  · intro hl
    obtain ⟨c, as, rfl⟩ := isClass_iff.mp hl
    obtain ⟨d, own, rfl, -⟩ := sameKey_class_iff.mp h
    rfl

theorem sameKey_self_of_isClass {k : Value} (h : k.isClass = true) : k.sameKey k = true := by
  obtain ⟨c, as, rfl⟩ := isClass_iff.mp h
  exact sameKey_class_iff.mpr ⟨c, as, rfl, rfl⟩

theorem sameKey_comm_of_isClass {k : Value} (h : k.isClass = true) (l : Value) :
    k.sameKey l = l.sameKey k := by
  obtain ⟨c, as, rfl⟩ := isClass_iff.mp h
  rw [Bool.eq_iff_iff, class_sameKey_iff, sameKey_class_iff]
  constructor
  · rintro ⟨d, bs, rfl, hid⟩
    exact ⟨d, bs, rfl, hid.symm⟩
  · rintro ⟨d, bs, rfl, hid⟩
    exact ⟨d, bs, rfl, hid.symm⟩

/-- What is the same key as a class is the same as the same keys. -/
theorem sameKey_congr_of_isClass {k l : Value} (h : k.isClass = true) (hl : l.sameKey k = true)
    (other : Value) : l.sameKey other = k.sameKey other := by
  obtain ⟨c, as, rfl⟩ := isClass_iff.mp h
  obtain ⟨d, bs, rfl, hid⟩ := sameKey_class_iff.mp hl
  rw [Bool.eq_iff_iff, class_sameKey_iff, class_sameKey_iff, hid]

/-- Whether a value is equal to itself alone, which its identity tells. -/
def hasIdentity : Value → Bool
  | .class _ _ | .callable _ | .method _ => true
  | .object _ c _ => c.fields.isNone
  | _ => false

theorem hasIdentity_of_isClass {k : Value} (h : k.isClass = true) : k.hasIdentity = true := by
  obtain ⟨c, as, rfl⟩ := isClass_iff.mp h
  rfl

theorem sameKey_callable_iff {k : Value} {f : Callable} :
    k.sameKey (.callable f) = true ↔ ∃ g, k = .callable g ∧ g.id = f.id := by
  cases k <;> simp [sameKey, same, identical, equals, complexEqual, quantity?]

theorem callable_sameKey_iff {k : Value} {f : Callable} :
    (Value.callable f).sameKey k = true ↔ ∃ g, k = .callable g ∧ f.id = g.id := by
  cases k <;> simp [sameKey, same, identical, equals, complexEqual, quantity?]

theorem sameKey_method_iff {k : Value} {name : String} :
    k.sameKey (.method name) = true ↔ k = .method name := by
  cases k <;> simp [sameKey, same, identical, equals, complexEqual, quantity?]

theorem object_sameKey_iff {k : Value} {i : Nat} {c : ClassInfo}
    {attributes : List (String × Value)} (h : c.fields = Option.none) :
    (Value.object i c attributes).sameKey k = true ↔ ∃ d own, k = .object i d own := by
  cases k with
  | object j d bs =>
    by_cases hid : i = j
    · simp [sameKey, same, identical, hid]
    · simp [sameKey, same, identical, equals, h, hid, Ne.symm hid]
  | _ => simp [sameKey, same, identical, equals, complexEqual, quantity?]

theorem sameKey_self {k : Value} (h : k.hasIdentity = true) : k.sameKey k = true := by
  cases k with
  | «class» c as => exact sameKey_class_iff.mpr ⟨c, as, rfl, rfl⟩
  | callable f => exact sameKey_callable_iff.mpr ⟨f, rfl, rfl⟩
  | method name => exact sameKey_method_iff.mpr rfl
  | object i c as => exact (object_sameKey_iff (Option.isNone_iff_eq_none.mp h)).mpr ⟨c, as, rfl⟩
  | _ => cases h

/-- A fraction is the same key as itself, though it has no identity. -/
theorem sameKey_fraction (num : Int) (den : Nat) :
    (fraction num den).sameKey (fraction num den) = true := by
  simp [sameKey, same, identical, equals, quantity?, Quantity.ofFraction, numbersEqual,
    Quantity.compare, Scaled.compare_self]

theorem checkHashable_fraction (num : Int) (den : Nat) :
    (fraction num den).checkHashable = .ok () := by simp [checkHashable]

/-- What is the same key as one with an identity is the same as the same keys, if it can be a key
itself: a record may be equal to an object that is no record. -/
theorem sameKey_congr {k l : Value} (h : k.hasIdentity = true) (hhash : l.checkHashable = .ok ())
    (hl : l.sameKey k = true) (other : Value) : l.sameKey other = k.sameKey other := by
  cases k with
  | «class» c as => exact sameKey_congr_of_isClass rfl hl other
  | callable f =>
    obtain ⟨g, rfl, hid⟩ := sameKey_callable_iff.mp hl
    rw [Bool.eq_iff_iff, callable_sameKey_iff, callable_sameKey_iff, hid]
  | method name => rw [sameKey_method_iff.mp hl]
  | object j d bs =>
    obtain ⟨i, c, as, rfl⟩ : ∃ i c as, l = .object i c as := by
      cases l <;> simp [sameKey, same, identical, equals, complexEqual, quantity?] at hl ⊢
    have hfields : c.fields = Option.none := by simpa [checkHashable] using hhash
    obtain ⟨d', bs', hobject⟩ := (object_sameKey_iff hfields).mp hl
    obtain ⟨rfl, -, -⟩ := Value.object.inj hobject
    rw [Bool.eq_iff_iff, object_sameKey_iff hfields,
      object_sameKey_iff (Option.isNone_iff_eq_none.mp h)]
  | _ => cases h

theorem checkHashable_of_isClass {k : Value} (h : k.isClass = true) :
    k.checkHashable = .ok () := by
  obtain ⟨c, as, rfl⟩ := isClass_iff.mp h
  simp [checkHashable]

end Value

namespace Table

variable {α : Type}

theorem contains_cons (k : Value) (a : α) (t : Table α) (key : Value) :
    contains ((k, a) :: t) key = (k.sameKey key || contains t key) := by
  rw [contains, find?]
  cases k.sameKey key <;> rfl

theorem contains_eq_any (t : Table α) (key : Value) :
    contains t key = t.keys.any fun k => k.sameKey key := by
  induction t with
  | nil => rfl
  | cons entry t ih =>
    rw [contains_cons, ih]
    rfl

theorem contains_append (t u : Table α) (key : Value) :
    contains (t ++ u) key = (contains t key || contains u key) := by
  induction t with
  | nil => rfl
  | cons entry t ih =>
    show contains (entry :: (t ++ u)) key = _
    rw [contains_cons, contains_cons, ih, Bool.or_assoc]

theorem find?_append (t u : Table α) (key : Value) :
    find? (t ++ u) key = (find? t key).or (find? u key) := by
  induction t with
  | nil => rfl
  | cons entry t ih =>
    show find? (entry :: (t ++ u)) key = (find? (entry :: t) key).or (find? u key)
    rw [find?, find?, ih]
    cases entry.1.sameKey key <;> rfl

theorem find?_eq_none {t : Table α} {key : Value} (h : contains t key = false) :
    find? t key = none := Option.isNone_iff_eq_none.mp (by rw [contains] at h; simpa using h)

/-- A key that is not there goes to the end. -/
theorem insert_of_absent {t : Table α} {key : Value} (a : α) (h : contains t key = false) :
    insert t key a = t ++ [(key, a)] := by
  induction t with
  | nil => rfl
  | cons entry t ih =>
    rw [contains_cons, Bool.or_eq_false_iff] at h
    rw [insert, h.1, ih h.2]
    rfl

/-- Entries whose keys are all different, put in one by one, come behind those that are there. -/
theorem foldl_insert {t u : Table α} (h : (keys (t ++ u)).Pairwise fun k l => k.sameKey l = false) :
    u.foldl (fun made entry => insert made entry.1 entry.2) t = t ++ u := by
  induction u generalizing t with
  | nil => exact (List.append_nil t).symm
  | cons entry u ih =>
    have habsent : contains t entry.1 = false := by
      rw [keys, List.map_append, List.pairwise_append] at h
      rw [contains_eq_any, List.any_eq_false]
      intro k hk
      rw [h.2.2 k hk entry.1 List.mem_cons_self]
      exact Bool.false_ne_true
    rw [List.append_cons] at h ⊢
    rw [List.foldl_cons, insert_of_absent entry.2 habsent, ih h]

/-- A key that is there stays as it is and where it is. -/
theorem keys_insert (t : Table α) (key : Value) (a : α) :
    (insert t key a).keys = if contains t key then t.keys else t.keys ++ [key] := by
  induction t with
  | nil => rfl
  | cons entry t ih =>
    rw [insert, contains_cons]
    cases entry.1.sameKey key with
    | true => rfl
    | false =>
      show entry.1 :: keys (insert t key a) =
        if contains t key then entry.1 :: keys t else entry.1 :: keys t ++ [key]
      rw [ih]
      cases contains t key <;> rfl

theorem find?_insert_self (t : Table α) {key : Value} (a : α) (hkey : key.sameKey key = true) :
    find? (insert t key a) key = some a := by
  induction t with
  | nil =>
    rw [insert, find?, hkey]
    rfl
  | cons entry t ih =>
    rw [insert]
    cases h : entry.1.sameKey key with
    | true =>
      rw [if_pos rfl, find?, h]
      rfl
    | false =>
      rw [if_neg Bool.false_ne_true, find?, h]
      exact ih

/-- What is under another key stays, as long as no key that is there is the same as both. -/
theorem find?_insert_other (t : Table α) {key other : Value} (a : α)
    (hother : key.sameKey other = false)
    (hkeys : ∀ k ∈ t.keys, k.sameKey key = true → k.sameKey other = false) :
    find? (insert t key a) other = find? t other := by
  induction t with
  | nil =>
    show (if key.sameKey other then some a else none) = none
    rw [hother]
    rfl
  | cons entry t ih =>
    have ⟨hfirst, hrest⟩ := List.forall_mem_cons.mp hkeys
    rw [insert]
    cases h : entry.1.sameKey key with
    | true =>
      rw [if_pos rfl, find?, find?, hfirst h]
      rfl
    | false => rw [if_neg Bool.false_ne_true, find?, find?, ih hrest]

/-- What is under another key than a class stays. -/
theorem find?_insert_class (t : Table α) {key other : Value} (a : α) (hkey : key.isClass = true)
    (hother : key.sameKey other = false) : find? (insert t key a) other = find? t other :=
  find?_insert_other t a hother fun _ _ hk =>
    (Value.sameKey_congr_of_isClass hkey hk other).trans hother

end Table

end Rulebook

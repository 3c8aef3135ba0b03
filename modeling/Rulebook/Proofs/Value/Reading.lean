import Rulebook.Value.Access

/-!
# Reading a name

A mapping is asked for what it has under a text, which cannot fail, and anything else for an
attribute, which fails only where there is none that can be read.

* `Value.under?`: what the entries of a mapping have under a text.
* `Value.read_mapping`, `Value.read_eq_getAttribute`: what is read of a mapping and of anything else.
* `Value.getAttribute_error`: how asking for an attribute fails.
-/

namespace Rulebook

/-- A fault of an attribute: there is none of this name, or it is that of a property that cannot be
read. -/
def Fault.IsOfAttribute : Fault → Prop
  | .noAttribute .. | .noClassAttribute .. | .noGetter .. => True
  | _ => False

namespace Value

/-! ## Mappings -/

/-- Whether a value is this text. -/
def isText (name : String) : Value → Bool
  | .str s => s == name
  | _ => false

/-- What the entries of a mapping have under a text. -/
def under? (name : String) (entries : List (Value × Value)) : Option Value :=
  (entries.find? fun e => isText name e.1).map Prod.snd

theorem isText_iff {name : String} {key : Value} : isText name key = true ↔ key = .str name := by
  cases key <;> simp [isText]

theorem under?_cons (name : String) (e : Value × Value) (rest : List (Value × Value)) :
    under? name (e :: rest) = if isText name e.1 then some e.2 else under? name rest := by
  rw [under?, List.find?_cons]
  cases isText name e.1 <;> rfl

theorem mem_of_under? {name : String} {v : Value} {entries : List (Value × Value)}
    (h : under? name entries = some v) : (.str name, v) ∈ entries := by
  obtain ⟨e, he, rfl⟩ := Option.map_eq_some_iff.mp h
  have hkey := List.find?_some he
  rw [← isText_iff.mp hkey]
  exact List.mem_of_find?_eq_some he

/-- A key is the same as a text iff it is this text. -/
theorem same_str_eq (k : Value) (name : String) : same k (.str name) = .ok (isText name k) := by
  cases k <;> simp [isText, same, identical, equals, complexEqual, quantity?]

theorem lookup_str (entries : List (Value × Value)) (name : String) :
    lookup entries (.str name) = .ok (under? name entries) := by
  induction entries with
  | nil => exact lookup_nil _
  | cons e rest ih =>
    rw [lookup, same_str_eq, under?, List.find?_cons]
    cases isText name e.1 with
    | true => rfl
    | false => exact ih

theorem read_mapping (entries : List (Value × Value)) (name : String) :
    read (.dict entries) name = .ok ((under? name entries).getD .none) := by
  rw [read, lookup_str]
  rfl

theorem isIn_mapping (entries : List (Value × Value)) (name : String) :
    isIn (.str name) (.dict entries) = .ok (under? name entries).isSome := by
  show (entries.map Prod.fst).anyM (fun k => same k (.str name)) = _
  induction entries with
  | nil => rfl
  | cons e rest ih =>
    rw [List.map_cons, List.anyM_cons, same_str_eq, under?_cons]
    cases isText name e.1 with
    | true => rfl
    | false => exact ih

theorem item_mapping {entries : List (Value × Value)} {name : String} {v : Value}
    (h : under? name entries = some v) : item (.dict entries) (.str name) = .ok v := by
  show (lookup entries (.str name) >>= _) = _
  rw [lookup_str, h]
  rfl

/-! ## Attributes -/

/-- What is no mapping is asked for an attribute. -/
theorem read_eq_getAttribute {v : Value} (h : ∀ entries, v ≠ .dict entries) (name : String) :
    v.read name = v.getAttribute name := by
  cases v with
  | dict entries => exact absurd rfl (h entries)
  | _ => rfl

/-- Asking for an attribute fails only with a fault of the attribute. -/
theorem getAttribute_error {v : Value} {name : String} {f : Fault}
    (h : v.getAttribute name = .error f) : f.IsOfAttribute := by
  cases v with
  | object _ c attributes =>
    simp only [getAttribute, objectAttribute, plainAttribute] at h
    repeat' split at h
    all_goals cases h
    all_goals trivial
  | «class» c attributes =>
    simp only [getAttribute, classAttribute] at h
    repeat' split at h
    all_goals cases h
    all_goals trivial
  | _ =>
    simp only [getAttribute, nativeAttribute] at h
    repeat' split at h
    all_goals cases h
    all_goals trivial

/-- Reading raises nothing that a call raises. -/
theorem read_ne_raised (v : Value) (name kind text : String) :
    v.read name ≠ .error (.raised kind text) := by
  by_cases hmapping : ∃ entries, v = .dict entries
  · obtain ⟨entries, rfl⟩ := hmapping
    rw [read_mapping]
    exact fun h => nomatch h
  · rw [read_eq_getAttribute (not_exists.mp hmapping)]
    exact fun h => getAttribute_error h

end Value

end Rulebook

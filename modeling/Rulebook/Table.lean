import Rulebook.Value.Access

/-!
# Tables

Finite mappings in the order in which their keys were first put in. Keys are compared as values,
so equal numbers of different kinds are one key; the key that came first stays.

* `Table.find?`, `Table.insert`, `Table.keys`: look up, put, and the keys in order.
-/

namespace Rulebook

/-- Whether two keys are the same. Keys can be compared without a fault. -/
def Value.sameKey (a b : Value) : Bool :=
  match Value.same a b with
  | .ok r => r
  | .error _ => false

@[simp] theorem Value.sameKey_str (a b : String) :
    Value.sameKey (.str a) (.str b) = (a == b) := by
  simp [Value.sameKey]

/-- A mapping from values, in the order of insertion. -/
abbrev Table (α : Type) := List (Value × α)

namespace Table

variable {α : Type}

/-- The keys in order. -/
def keys (t : Table α) : List Value := t.map Prod.fst

/-- What is under a key. -/
def find? (t : Table α) (key : Value) : Option α :=
  match t with
  | [] => none
  | (k, a) :: rest => if k.sameKey key then some a else find? rest key

/-- Whether there is something under a key. -/
def contains (t : Table α) (key : Value) : Bool := (find? t key).isSome

/-- The table with something put under a key: in place of what was there, or at the end. -/
def insert (t : Table α) (key : Value) (a : α) : Table α :=
  match t with
  | [] => [(key, a)]
  | (k, b) :: rest => if k.sameKey key then (k, a) :: rest else (k, b) :: insert rest key a

end Table

end Rulebook

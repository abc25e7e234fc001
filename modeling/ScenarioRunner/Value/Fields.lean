/-!
# Fields in key order

A finite map from text to anything, kept as a list in strictly ascending key order. Reading takes
the first entry of a key, so the functions are total on every list; `insert` and `ofList` keep the
order, and then an entry is found exactly when it is in the list.
-/

set_option autoImplicit false

namespace ScenarioRunner

/-- Entries by key, in strictly ascending key order. -/
abbrev Fields (α : Type) := List (String × α)

namespace Fields

variable {α : Type}

/-- The entry of a key. -/
def get? (fields : Fields α) (key : String) : Option α := fields.lookup key

/-- Whether a key has an entry. -/
def contains (fields : Fields α) (key : String) : Bool := (get? fields key).isSome

/-- Puts an entry in its place, in the place of an older entry of the key. -/
def insert (key : String) (value : α) : Fields α → Fields α
  | [] => [(key, value)]
  | (k, v) :: rest =>
    if key < k then (key, value) :: (k, v) :: rest
    else if key = k then (key, value) :: rest
    else (k, v) :: insert key value rest

/-- Collects entries; of two with the same key the later stays. -/
def ofList (entries : List (String × α)) : Fields α :=
  entries.foldl (fun fields entry => insert entry.1 entry.2 fields) []

/-- Removes the entry of a key. -/
def erase (fields : Fields α) (key : String) : Fields α := fields.filter (·.1 != key)

/-- Strictly ascending keys. -/
def Ordered (fields : Fields α) : Prop := fields.Pairwise (·.1 < ·.1)

end Fields

end ScenarioRunner

import ScenarioRunner.Schema.Datum

/-!
# TOML tables

Tables are opened by headers and by keys with points. A table can be opened once; one that was only
named on the way to another can still be opened by a header, and keys with points can only go
through tables that such keys have made.
-/

set_option autoImplicit false

namespace ScenarioRunner.Toml

/-- How a table came to be. -/
inductive Origin where
  /-- By a header of its own, or as the whole document. -/
  | header
  /-- On the way to another header. -/
  | passed
  /-- By a key with points. -/
  | dotted
  deriving DecidableEq

/-- What stands under a key. -/
inductive Item where
  | value (d : Datum)
  | table (origin : Origin) (entries : List (String × Item))
  /-- Tables under one header, the last one first. -/
  | tables (last : List (String × Item)) (others : List Item)

/-- The entries of a table. -/
abbrev Entries := List (String × Item)

namespace Entries

/-- Puts an entry in, in the place of an older one. -/
def put (key : String) (item : Item) : Entries → Entries
  | [] => [(key, item)]
  | (k, i) :: rest => if k = key then (key, item) :: rest else (k, i) :: put key item rest

/-- Changes the table at a path, and makes those that are not there yet. -/
def change (dotted : Bool) (f : Origin → Entries → Option Entries) :
    List String → Origin → Entries → Option Entries
  | [], origin, entries => f origin entries
  | key :: rest, _, entries =>
    match entries.lookup key with
    | none =>
      let origin := if dotted then .dotted else .passed
      (change dotted f rest origin []).map fun inner => put key (.table origin inner) entries
    | some (.value _) => none
    | some (.tables last others) =>
      (change dotted f rest .header last).map fun inner => put key (.tables inner others) entries
    | some (.table origin inner) =>
      if dotted ∧ origin = .header then none
      else (change dotted f rest origin inner).map fun inner => put key (.table origin inner) entries

/-- Adds a value under a key to the table at a path that keys with points make. -/
def add (path : List String) (key : String) (d : Datum) (entries : Entries) : Option Entries :=
  change true (fun origin inner =>
    if decide (origin = .dotted) = path.isEmpty then none
    else if (inner.lookup key).isSome then none
    else some (put key (.value d) inner)) path .header entries

/-- Opens the table of a header. -/
def openTable (path : List String) (key : String) (entries : Entries) : Option Entries :=
  change false (fun _ inner =>
    match inner.lookup key with
    | none => some (put key (.table .header []) inner)
    | some (.table .passed found) => some (put key (.table .header found) inner)
    | some _ => none) path .header entries

/-- Adds a table to those of a header. -/
def addTable (path : List String) (key : String) (entries : Entries) : Option Entries :=
  change false (fun _ inner =>
    match inner.lookup key with
    | none => some (put key (.tables [] []) inner)
    | some (.tables last others) =>
      some (put key (.tables [] (.table .header last :: others)) inner)
    | some _ => none) path .header entries

end Entries

mutual

/-- An item as data. -/
def Item.datum : Item → Datum
  | .value d => d
  | .table _ entries => .map (entriesData entries)
  | .tables last others => .list ((Datum.map (entriesData last) :: itemsData others).reverse)

/-- Items as data. -/
def itemsData : List Item → List Datum
  | [] => []
  | item :: rest => item.datum :: itemsData rest

/-- Entries as data. -/
def entriesData : List (String × Item) → List (Datum × Datum)
  | [] => []
  | (key, item) :: rest => (.str key, item.datum) :: entriesData rest

end

end ScenarioRunner.Toml

import ScenarioRunner.Value.Text

/-!
# Document data

A tree as a document format gives it: like a value, but the keys of a map can be of any kind and
can repeat. As a value, an entry has the text form of its key, and the last entry of a key stays.
-/

set_option autoImplicit false

namespace ScenarioRunner

/-- A tree read from a document. -/
inductive Datum where
  | null
  | bool (b : Bool)
  | int (n : Int64)
  | uint (n : UInt64)
  | float (x : Binary64)
  | str (s : String)
  | list (items : List Datum)
  | map (entries : List (Datum × Datum))

instance : Inhabited Datum := ⟨.null⟩

namespace Datum

mutual

/-- The value of a tree. -/
def toValue : Datum → Value
  | null => .null
  | bool b => .bool b
  | int n => .int n
  | uint n => .uint n
  | float x => .float x
  | str s => .str s
  | list items => .list (toValues items)
  | map entries => .map (toFields entries)

/-- The values of some trees. -/
def toValues : List Datum → List Value
  | [] => []
  | d :: rest => d.toValue :: toValues rest

/-- The fields of some entries. An entry is put in before the ones that follow it only if none of
them has its key. -/
def toFields : List (Datum × Datum) → Fields Value
  | [] => []
  | (key, d) :: rest =>
    let later := toFields rest
    let name := key.toValue.text
    if Fields.contains later name then later else Fields.insert name d.toValue later

end

mutual

/-- The tree of a value. -/
def ofValue : Value → Datum
  | .null => null
  | .bool b => bool b
  | .int n => int n
  | .uint n => uint n
  | .float x => float x
  | .str s => str s
  | .list items => list (ofValues items)
  | .map fields => map (ofFields fields)

/-- The trees of some values. -/
def ofValues : List Value → List Datum
  | [] => []
  | v :: rest => ofValue v :: ofValues rest

/-- The entries of some fields. -/
def ofFields : List (String × Value) → List (Datum × Datum)
  | [] => []
  | (key, v) :: rest => (str key, ofValue v) :: ofFields rest

end

end Datum

end ScenarioRunner

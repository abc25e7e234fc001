import ScenarioRunner.Binary64.Basic
import ScenarioRunner.Value.Fields

/-!
# Values

One tree type for response bodies, request bodies, variables and operands. A whole number keeps
its 64-bit form; only literals with a fraction or an exponent become `float`.
-/

set_option autoImplicit false

namespace ScenarioRunner

/-- A dynamically typed value. -/
inductive Value where
  | null
  | bool (b : Bool)
  /-- A signed 64-bit integer. -/
  | int (n : Int64)
  /-- An unsigned 64-bit integer; readers use it only above the signed range. -/
  | uint (n : UInt64)
  | float (x : Binary64)
  | str (s : String)
  | list (items : List Value)
  | map (fields : List (String × Value))

instance : Inhabited Value := ⟨.null⟩

namespace Value

/-- The short name of a value's kind. -/
def kind : Value → String
  | null => "null"
  | bool _ => "bool"
  | int _ => "int"
  | uint _ => "uint"
  | float _ => "float"
  | str _ => "string"
  | list _ => "list"
  | map _ => "map"

/-- Whether the value is `null`. -/
def isNull : Value → Bool
  | null => true
  | _ => false

/-- Whether the value is a list. -/
def isList : Value → Bool
  | list _ => true
  | _ => false

/-- The entry of a key, for maps. -/
def get? : Value → String → Option Value
  | map fields, key => Fields.get? fields key
  | _, _ => none

/-- The least natural number that is no signed 64-bit integer. -/
def signedBound : Nat := 0x8000000000000000

/-- The least natural number that is no unsigned 64-bit integer. -/
def unsignedBound : Nat := 0x10000000000000000

/-- The value of an unsigned 64-bit integer: signed where that form can hold it. -/
def ofUInt64 (n : UInt64) : Value :=
  if n.toNat < signedBound then int (Int64.ofNat n.toNat) else uint n

/-- The integer in whichever 64-bit form can hold it, the signed one first. -/
def ofInteger? (n : Int) : Option Value :=
  if -(signedBound : Int) ≤ n ∧ n < (signedBound : Int) then some (int (Int64.ofInt n))
  else if 0 ≤ n ∧ n < (unsignedBound : Int) then some (uint (UInt64.ofNat n.toNat))
  else none

mutual

/-- Whether all maps inside have strictly ascending keys, as every reader makes them. -/
def Canonical : Value → Prop
  | list items => CanonicalItems items
  | map fields => Fields.Ordered fields ∧ CanonicalFields fields
  | _ => True

/-- Whether all items are canonical. -/
def CanonicalItems : List Value → Prop
  | [] => True
  | v :: rest => v.Canonical ∧ CanonicalItems rest

/-- Whether the values of all entries are canonical. -/
def CanonicalFields : List (String × Value) → Prop
  | [] => True
  | (_, v) :: rest => v.Canonical ∧ CanonicalFields rest

end

end Value

end ScenarioRunner

import ScenarioRunner.Value.Basic

/-!
# Entries of a document in normal form

A record in normal form is a map of its known fields. These functions take its entries as the
kinds that its schema allows, with a default for those that are missing.
-/

set_option autoImplicit false

namespace ScenarioRunner.Value

/-- The text of a value, if it is one. -/
def str? : Value → Option String
  | str s => some s
  | _ => none

/-- The natural number that a value is, if it is one. -/
def natural? : Value → Option Nat
  | int n => n.toInt.toNat?
  | uint n => some n.toNat
  | _ => none

/-- The items of a list; none for other values. -/
def items : Value → List Value
  | list items => items
  | _ => []

/-- The entries of a map, if it is one. -/
def fields? : Value → Option (Fields Value)
  | map fields => some fields
  | _ => none

/-- The text under a key, if there is one. -/
def textAt? (form : Value) (key : String) : Option String := (form.get? key).bind str?

/-- The text under a key. -/
def textAt (form : Value) (key : String) : String := (form.textAt? key).getD ""

/-- The natural number under a key, if there is one. -/
def naturalAt? (form : Value) (key : String) : Option Nat := (form.get? key).bind natural?

/-- The natural number under a key. -/
def naturalAt (form : Value) (key : String) : Nat := (form.naturalAt? key).getD 0

/-- The items under a key. -/
def itemsAt (form : Value) (key : String) : List Value := ((form.get? key).map items).getD []

/-- The entries under a key, if there is a map. -/
def fieldsAt? (form : Value) (key : String) : Option (Fields Value) := (form.get? key).bind fields?

/-- The entries under a key. -/
def fieldsAt (form : Value) (key : String) : Fields Value := (form.fieldsAt? key).getD []

/-- The text entries under a key. -/
def textsAt (form : Value) (key : String) : Fields String :=
  (form.fieldsAt key).filterMap fun entry => entry.2.str?.map fun s => (entry.1, s)

end ScenarioRunner.Value

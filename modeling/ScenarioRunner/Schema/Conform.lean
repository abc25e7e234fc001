import ScenarioRunner.Schema.Basic
import ScenarioRunner.Schema.Datum

/-!
# Data that fit a schema

`Schema.conform?` checks a tree against a schema and gives it as a value in normal form: records
become maps of their known fields, whichever way they are written. Kinds are taken as they are, so
a number is no text. Unknown fields are left out; a repeated one is refused.
-/

set_option autoImplicit false

namespace ScenarioRunner

/-- A natural number of a document, if below a bound. -/
def Datum.natural? (bound : Nat) : Datum → Option Value
  | .int n => if 0 ≤ n.toInt ∧ n.toInt < bound then some (.int n) else none
  | .uint n => if n.toNat < bound then some (.uint n) else none
  | _ => none

/-- Whether a key can name a field: text names it, and a natural number counts it. -/
def Datum.isFieldKey : Datum → Bool
  | .str _ => true
  | .int n => decide (0 ≤ n.toInt)
  | .uint _ => true
  | _ => false

/-- Whether a key names the field of a name and place. -/
def Datum.namesField (name : String) (place : Nat) : Datum → Bool
  | .str s => s == name
  | .int n => n.toInt == place
  | .uint n => n.toNat == place
  | _ => false

namespace Schema

/-- Checks every item. -/
def conformItems (conform : Datum → Option Value) : List Datum → Option (List Value)
  | [] => some []
  | d :: rest => do
    let v ← conform d
    some (v :: (← conformItems conform rest))

/-- Checks every entry of a map from text. -/
def conformTable (conform : Datum → Option Value) :
    List (Datum × Datum) → Option (List (String × Value))
  | [] => some []
  | (.str key, d) :: rest => do
    let v ← conform d
    some ((key, v) :: (← conformTable conform rest))
  | _ => none

mutual

/-- The tree in normal form, if it fits. -/
def conform? : Schema → Datum → Option Value
  | any, d => some d.toValue
  | text, .str s => some (.str s)
  | natural bound, d => d.natural? bound
  | optional inner, d => match d with
    | .null => some .null
    | d => inner.conform? d
  | list inner, .list items => (conformItems inner.conform? items).map .list
  | table inner, .map entries =>
    (conformTable inner.conform? entries).map fun fields => .map (Fields.ofList fields)
  | choice names, .str s => if names.contains s then some (.str s) else none
  | choice names, .map [(.str s, .null)] => if names.contains s then some (.str s) else none
  | record fields, .map entries =>
    if entries.all (·.1.isFieldKey) then
      (conformEntries fields 0 entries).map fun found => .map (Fields.ofList found)
    else none
  | record fields, .list items =>
    (conformSequence fields items).map fun found => .map (Fields.ofList found)
  | tagged key variants, .map entries =>
    match entries.partition fun e => match e.1 with
      | .str s => s == key
      | _ => false with
    | ([(_, .str name)], others) =>
      if others.all (·.1.isFieldKey) then
        (conformVariantEntries variants name others).map fun found =>
          .map (Fields.ofList ((key, .str name) :: found))
      else none
    | _ => none
  | tagged key variants, .list (.str name :: items) =>
    (conformVariantSequence variants name items).map fun found =>
      .map (Fields.ofList ((key, .str name) :: found))
  | _, _ => none

/-- The fields of a record that is written with keys, from a place on. -/
def conformEntries : List (String × Presence × Schema) → Nat → List (Datum × Datum) →
    Option (List (String × Value))
  | [], _, _ => some []
  | (name, presence, schema) :: rest, place, entries =>
    match entries.filter fun e => e.1.namesField name place with
    | [] => if presence = .required then none else conformEntries rest (place + 1) entries
    | [(_, d)] => do
      let v ← schema.conform? d
      some ((name, v) :: (← conformEntries rest (place + 1) entries))
    | _ => none

/-- The fields of a record that is written as a list. -/
def conformSequence : List (String × Presence × Schema) → List Datum → Option (List (String × Value))
  | [], [] => some []
  | [], _ :: _ => none
  | (_, presence, _) :: rest, [] =>
    if presence = .defaulted then conformSequence rest [] else none
  | (name, _, schema) :: rest, d :: items => do
    let v ← schema.conform? d
    some ((name, v) :: (← conformSequence rest items))

/-- The fields of the named variant, written with keys. -/
def conformVariantEntries : List (String × List (String × Presence × Schema)) → String →
    List (Datum × Datum) → Option (List (String × Value))
  | [], _, _ => none
  | (variant, fields) :: rest, name, entries =>
    if variant = name then conformEntries fields 0 entries
    else conformVariantEntries rest name entries

/-- The fields of the named variant, written as a list. -/
def conformVariantSequence : List (String × List (String × Presence × Schema)) → String →
    List Datum → Option (List (String × Value))
  | [], _, _ => none
  | (variant, fields) :: rest, name, items =>
    if variant = name then conformSequence fields items
    else conformVariantSequence rest name items

end

end Schema

end ScenarioRunner

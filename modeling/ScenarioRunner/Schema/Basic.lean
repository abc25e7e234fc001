/-!
# Schemas

The shape that a document must have. A schema says where any value may stand and where only text,
a bounded natural number or a name does, and which fields a record has.
-/

set_option autoImplicit false

namespace ScenarioRunner

/-- When a field of a record may be missing. -/
inductive Presence where
  /-- Never. -/
  | required
  /-- Always. -/
  | defaulted
  /-- Only where the record is written with keys. -/
  | omissible
  deriving DecidableEq

/-- The shape of a document. -/
inductive Schema where
  /-- Any value. -/
  | any
  /-- A text. -/
  | text
  /-- A natural number below a bound. -/
  | natural (bound : Nat)
  /-- Nothing, or the inner shape. -/
  | optional (inner : Schema)
  /-- A list of the inner shape. -/
  | list (inner : Schema)
  /-- A map from text to the inner shape. -/
  | table (inner : Schema)
  /-- One of some names. -/
  | choice (names : List String)
  /-- Named fields, in the order in which a list gives them. -/
  | record (fields : List (String × Presence × Schema))
  /-- One of some records; the entry of `key` names which. -/
  | tagged (key : String) (variants : List (String × List (String × Presence × Schema)))

end ScenarioRunner

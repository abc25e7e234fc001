import ScenarioRunner.Json.Writer
import ScenarioRunner.Value.Number

/-!
# Values as text

The text form is what a placeholder inserts and what the textual operators compare. Strings are
taken as they are, integral floats lose their fraction, and lists and maps are compact JSON.
-/

set_option autoImplicit false

namespace ScenarioRunner

/-- Floats as text have the fewest digits, the greater one on a tie, and never an exponent. -/
def Binary64.textStyle : DecimalStyle := ⟨.away, fun _ => true, false⟩

/-- A float as text: as an integer where it is one of the signed 64-bit range. -/
def Binary64.text (x : Binary64) : List Char :=
  if x.isNaN then ['N', 'a', 'N']
  else match x.toInt64? with
    | some n => Json.integer n.toInt
    | none =>
      if x.isFinite then textStyle.write x
      else if x.negative then ['-', 'i', 'n', 'f'] else ['i', 'n', 'f']

namespace Value

/-- The text form, as characters. -/
def textChars : Value → List Char
  | null => ['n', 'u', 'l', 'l']
  | bool b => if b then ['t', 'r', 'u', 'e'] else ['f', 'a', 'l', 's', 'e']
  | int n => Json.integer n.toInt
  | uint n => Json.integer n.toNat
  | float x => x.text
  | str s => s.toList
  | list items => Json.compact (list items)
  | map fields => Json.compact (map fields)

/-- The text form. -/
def text : Value → String
  | str s => s
  | v => String.ofList v.textChars

/-- The text form is its characters. -/
theorem text_eq (v : Value) : v.text = String.ofList v.textChars := by
  cases v with
  | str s => exact String.ofList_toList.symm
  | null | bool _ | int _ | uint _ | float _ | list _ | map _ => rfl

end Value

end ScenarioRunner

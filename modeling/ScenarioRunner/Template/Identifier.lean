/-!
# Fresh identifiers

Identifiers have the form of random UUIDs. They are drawn from a supply, which is a number: the
identifier at a place of the supply holds that place in its hexadecimal digits.
-/

set_option autoImplicit false

namespace ScenarioRunner

/-- The last `count` hexadecimal digits of a number. -/
def hexDigits (count n : Nat) : List Char :=
  (List.range count).reverse.map fun i => Nat.digitChar (n / Nat.pow 16 i % 16)

/-- The identifier at a place of the supply, distinct for places below `16 ^ 30`. -/
def identifierAt (place : Nat) : List Char :=
  let digits := hexDigits 30 place
  digits.take 8 ++ '-' :: (digits.drop 8).take 4 ++ '-' :: '4' :: (digits.drop 12).take 3
    ++ '-' :: '8' :: (digits.drop 15).take 3 ++ '-' :: digits.drop 18

end ScenarioRunner

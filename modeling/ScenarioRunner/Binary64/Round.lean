import ScenarioRunner.Binary64.Basic

/-!
# Rounding to a binary floating-point number

`nearest` is the one place where precision is lost: it takes a fraction to the nearest number,
a tie to the even one, and all else here is an exact fraction handed to it.
-/

set_option autoImplicit false

namespace ScenarioRunner

/-- The integer nearest to `num / den`; a half goes to the even neighbour. -/
def roundHalfEven (num den : Nat) : Nat :=
  let quotient := num / den
  let twice := 2 * (num % den)
  if twice < den then quotient
  else if den < twice then quotient + 1
  else if quotient % 2 = 0 then quotient else quotient + 1

namespace Binary64

/-- The number nearest to `num / den` units, with the given sign. -/
def nearestUnits (negative : Bool) (num den : Nat) : Binary64 :=
  let scale := (num / den).log2 - 52
  let units := roundHalfEven num (den * Nat.pow 2 scale) * Nat.pow 2 scale
  if units < infiniteMagnitude then ofMagnitude negative units else infinity negative

/-- The number nearest to `num / den`, with the given sign. -/
def nearest (negative : Bool) (num den : Nat) : Binary64 :=
  nearestUnits negative (num * unitsPerOne) den

/-- The number nearest to an integer. -/
def ofInt (n : Int) : Binary64 := nearest (decide (n < 0)) n.natAbs 1

/-- The number nearest to `digits * 10 ^ exponent`, with the given sign. -/
def ofDecimal (negative : Bool) (digits : Nat) (exponent : Int) : Binary64 :=
  if digits = 0 then zero negative
  else if 400 < exponent then infinity negative
  else if exponent < 0 then
    -- beyond this the value is below half of the least number
    if exponent + (digits.log2 : Int) < -400 then zero negative
    else nearest negative digits (Nat.pow 10 exponent.natAbs)
  else nearest negative (digits * Nat.pow 10 exponent.toNat) 1

/-- The rounded product of two finite numbers. -/
def mul (x y : Binary64) : Binary64 :=
  nearestUnits (x.negative != y.negative) (x.magnitude * y.magnitude) unitsPerOne

/-- The rounded quotient of two finite numbers, the second not zero. -/
def div (x y : Binary64) : Binary64 :=
  nearest (x.negative != y.negative) x.magnitude y.magnitude

/-- The rounded sum of two finite numbers. -/
def add (x y : Binary64) : Binary64 :=
  let sum := x.units + y.units
  if sum = 0 then zero (x.negative && y.negative)
  else nearestUnits (decide (sum < 0)) sum.natAbs 1

end Binary64

end ScenarioRunner

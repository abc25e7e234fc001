/-!
# Binary floating-point numbers of 64 bits

A number is its 64 bits. Every finite number is an exact whole multiple of `2 ^ (-1074)`, the
least positive one, so `units` says which multiple and all comparisons are made on integers.
No operation of the runtime's own floating-point type is involved.
-/

set_option autoImplicit false

namespace ScenarioRunner

/-- A binary floating-point number: one sign bit, eleven exponent bits, 52 fraction bits. -/
structure Binary64 where
  /-- The 64 bits, sign first. -/
  bits : UInt64
  deriving DecidableEq

namespace Binary64

/-- The number of units in one: the least positive number is `2 ^ (-1074)`. -/
def unitsPerOne : Nat := Nat.pow 2 1074

/-- The weight of the sign bit. -/
def signWeight : Nat := 0x8000000000000000

/-- The weight of the last exponent bit, which is the least number that is no fraction field. -/
def exponentWeight : Nat := 0x10000000000000

/-- Whether the sign bit is set. -/
def negative (x : Binary64) : Bool := decide (signWeight ≤ x.bits.toNat)

/-- The eleven exponent bits. -/
def exponentField (x : Binary64) : Nat := x.bits.toNat / exponentWeight % 2048

/-- The 52 fraction bits. -/
def fractionField (x : Binary64) : Nat := x.bits.toNat % exponentWeight

/-- All exponent bits are set in the infinities and in no number. -/
def isFinite (x : Binary64) : Bool := x.exponentField != 2047

/-- A set exponent with a fraction is not a number. -/
def isNaN (x : Binary64) : Bool := x.exponentField == 2047 && x.fractionField != 0

/-- The significand: the fraction bits, with the leading one that normal numbers leave out. -/
def significand (x : Binary64) : Nat :=
  if x.exponentField = 0 then x.fractionField else exponentWeight + x.fractionField

/-- The binary exponent of the significand, counted in units. -/
def scale (x : Binary64) : Nat := x.exponentField - 1

/-- The distance from zero in units; an infinity stands one step above the greatest number. -/
def magnitude (x : Binary64) : Nat := x.significand * Nat.pow 2 x.scale

/-- The exact value of a finite number in units. -/
def units (x : Binary64) : Int :=
  if x.negative then -(x.magnitude : Int) else x.magnitude

/-- The magnitude of the infinities. -/
def infiniteMagnitude : Nat := Nat.pow 2 2098

/-- The number with a given sign and fields. -/
def ofFields (negative : Bool) (exponent fraction : Nat) : Binary64 :=
  ⟨UInt64.ofNat ((if negative then signWeight else 0) + exponent * exponentWeight + fraction)⟩

/-- Positive or negative infinity. -/
def infinity (negative : Bool) : Binary64 := ofFields negative 2047 0

/-- The number that stands for all that are not numbers. -/
def nan : Binary64 := ofFields false 2047 (exponentWeight / 2)

/-- Positive or negative zero. -/
def zero (negative : Bool) : Binary64 := ofFields negative 0 0

/-- The sign changed and all else kept. -/
def neg (x : Binary64) : Binary64 := ⟨x.bits ^^^ 0x8000000000000000⟩

/-- The number of a given sign and magnitude, for a magnitude that is representable. -/
def ofMagnitude (negative : Bool) (units : Nat) : Binary64 :=
  if units < exponentWeight then ofFields negative 0 units
  else
    let scale := units.log2 - 52
    ofFields negative (scale + 1) (units / Nat.pow 2 scale - exponentWeight)

/-- The order of two numbers; nothing is ordered against what is not a number. -/
def compare? (x y : Binary64) : Option Ordering :=
  if x.isNaN || y.isNaN then none else some (compare x.units y.units)

/-- Equality of numbers: the zeros are equal, and what is not a number equals nothing. -/
def sameNumber (x y : Binary64) : Bool := x.compare? y == some .eq

/-- The integer that a finite number denotes, if it has no fractional part. -/
def whole? (x : Binary64) : Option Int :=
  if x.isFinite && x.magnitude % unitsPerOne == 0 then some (x.units / unitsPerOne) else none

end Binary64

end ScenarioRunner

import ScenarioRunner.Binary64.Round

/-!
# The fewest decimal digits that read back

`Binary64.shortest` finds the coarsest decimal grid with a point that rounds to the number, and
the nearest such point. The grids are tried from coarse to fine, and on each only the two
neighbours of the number need a look. All arithmetic is exact.
-/

set_option autoImplicit false

namespace ScenarioRunner

/-- The decimal number `digits * 10 ^ exponent`. -/
structure Decimal where
  /-- The significant digits, read as one integer. -/
  digits : Nat
  /-- The power of ten that the last digit counts. -/
  exponent : Int
  deriving DecidableEq, Repr

/-- What becomes of a number midway between two decimals of equal length. -/
inductive Tie where
  /-- The farther from zero is taken. -/
  | away
  /-- The one with an even last digit is taken. -/
  | even
  deriving DecidableEq

namespace Decimal

/-- The factor `10 ^ exponent` when that is an integer, else one. -/
def raise (exponent : Int) : Nat := Nat.pow 10 exponent.toNat

/-- The divisor `10 ^ (-exponent)` when that is an integer, else one. -/
def lower (exponent : Int) : Nat := Nat.pow 10 (-exponent).toNat

end Decimal

namespace Binary64

/-- Four times the lower end, in units, of the interval that rounds to a positive number. -/
def lowerEnd (x : Binary64) : Nat :=
  4 * x.magnitude - (if x.fractionField = 0 ∧ 0 < x.scale then 1 else 2) * Nat.pow 2 x.scale

/-- Four times the upper end, in units, of the interval that rounds to a positive number. -/
def upperEnd (x : Binary64) : Nat := 4 * x.magnitude + 2 * Nat.pow 2 x.scale

/-- Whether the decimal lies in the interval that rounds to the number, its sign left out. The
ends belong to it when the significand is even. -/
def admits (x : Binary64) (d : Decimal) : Bool :=
  let point := 4 * unitsPerOne * d.digits * Decimal.raise d.exponent
  let low := x.lowerEnd * Decimal.lower d.exponent
  let high := x.upperEnd * Decimal.lower d.exponent
  if x.significand % 2 = 0 then low ≤ point && point ≤ high else low < point && point < high

/-- The point of one decimal grid that rounds to the number and is nearest to it, if any. -/
def onGrid? (tie : Tie) (x : Binary64) (exponent : Int) : Option Decimal :=
  let num := x.magnitude * Decimal.lower exponent
  let den := unitsPerOne * Decimal.raise exponent
  let below : Decimal := ⟨num / den, exponent⟩
  let above : Decimal := ⟨num / den + 1, exponent⟩
  match x.admits below, x.admits above with
  | false, false => none
  | true, false => some below
  | false, true => some above
  | true, true =>
    let twice := 2 * (num % den)
    if twice < den then some below
    else if den < twice then some above
    else match tie with
      | .away => some above
      | .even => some (if below.digits % 2 = 0 then below else above)

/-- The first hit on `steps` grids, each ten times finer than the one before; without one, the
exact value. -/
def searchGrids (tie : Tie) (x : Binary64) : Nat → Int → Decimal
  | 0, _ => ⟨x.magnitude * Nat.pow 5 1074, -1074⟩
  | steps + 1, exponent =>
    match x.onGrid? tie exponent with
    | some d => d
    | none => searchGrids tie x steps (exponent - 1)

/-- A power of ten above the number: the place where the search starts. -/
def coarsest (x : Binary64) : Int := ((x.magnitude.log2 : Int) - 1073) * 30103 / 100000 + 1

/-- The decimal with the fewest digits that rounds to a finite number, its sign left out. -/
def shortest (tie : Tie) (x : Binary64) : Decimal :=
  if x.magnitude = 0 then ⟨0, 0⟩ else searchGrids tie x 24 x.coarsest

end Binary64

end ScenarioRunner

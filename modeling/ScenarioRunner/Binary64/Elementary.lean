import ScenarioRunner.Binary64.Round

/-!
# Elementary functions

Roots, exponentials, logarithms and the functions of angles. A value is worked out as a whole
multiple of a small unit, far more exactly than a floating-point number is, and rounded at the end.
-/

set_option autoImplicit false

namespace ScenarioRunner

namespace Elementary

/-- How many units are in one. -/
def one : Int := Nat.pow 2 256

/-- How many terms of a series are added. -/
def terms : Nat := 300

/-- The product of two values. -/
def mul (x y : Int) : Int := x * y / one

/-- The quotient of two values. -/
def div (x y : Int) : Int := x * one / y

/-- The value of a finite number. -/
def ofNumber (x : Binary64) : Int := x.units * one / (Binary64.unitsPerOne : Int)

/-- The number nearest to a value times a power of two. -/
def toNumber (x : Int) (exponent : Int) : Binary64 :=
  if x = 0 then .zero false
  else
    let negative := decide (x < 0)
    if 0 ≤ exponent then .nearest negative (x.natAbs * Nat.pow 2 exponent.toNat) one.toNat
    else .nearest negative x.natAbs (one.toNat * Nat.pow 2 exponent.natAbs)

/-- The sum of a series whose terms come from each other by a factor, each divided by a number of
its own. -/
def series (factor : Int) (divisor : Nat → Nat) : Nat → Nat → Int → Int
  | 0, _, _ => 0
  | fuel + 1, n, power =>
    if power = 0 then 0
    else power / (divisor n : Int) + series factor divisor fuel (n + 1) (mul power factor)

/-- The inverse hyperbolic tangent of a small value. -/
def artanh (x : Int) : Int := series (mul x x) (fun n => 2 * n + 1) terms 0 x

/-- The inverse tangent of a small value. -/
def smallArctan (x : Int) : Int := series (-(mul x x)) (fun n => 2 * n + 1) terms 0 x

/-- The natural logarithm of two. -/
def ln2 : Int := 2 * artanh (one / 3)

/-- Half of the circumference of a circle of radius one. -/
def pi : Int := 16 * smallArctan (one / 5) - 4 * smallArctan (one / 239)

/-- The terms of the exponential series from one on. -/
def expTerms (x : Int) : Nat → Nat → Int → Int
  | 0, _, _ => 0
  | fuel + 1, n, term =>
    if term = 0 then 0 else term + expTerms x fuel (n + 1) (mul term x / (n + 1 : Nat))

/-- The terms of the series for sines and cosines, from one that begins with a power. -/
def waveTerms (x : Int) : Nat → Nat → Int → Int
  | 0, _, _ => 0
  | fuel + 1, n, term =>
    if term = 0 then 0
    else term + waveTerms x fuel (n + 2) (-(mul (mul term x) x / ((n + 1) * (n + 2) : Nat)))

/-- A value less whole turns. -/
def withoutTurns (x : Int) : Int :=
  let turn := 2 * pi
  x - turn * ((x + pi) / turn)

/-- The root of a value that is not negative. -/
def sqrt (x : Int) : Int :=
  let n := (x * one).toNat
  iterate n n.log2 (Nat.pow 2 (n.log2 / 2 + 1))
where
  /-- Steps towards the whole root of a number from above. -/
  iterate (n : Nat) : Nat → Nat → Int
    | 0, root => root
    | fuel + 1, root =>
      let next := (root + n / max root 1) / 2
      if next < root then iterate n fuel next else root

/-- The inverse tangent of a value. -/
def arctan (x : Int) : Int :=
  -- halving the angle three times makes the series short
  let halve (y : Int) : Int := div y (one + sqrt (one + mul y y))
  let inner (y : Int) : Int := 8 * smallArctan (halve (halve (halve y)))
  if one < x.natAbs then
    let rest := inner (div one x)
    (if x < 0 then -(pi / 2) else pi / 2) - rest
  else inner x

end Elementary

namespace Binary64

/-- The root of a number. -/
def sqrt (x : Binary64) : Binary64 :=
  if x.isNaN || x.magnitude = 0 then x
  else if x.negative then nan.neg
  else if !x.isFinite then x
  else
    -- the root of the number of units, with half as many bits again below the point
    let n := x.magnitude * Nat.pow 2 1074 * Nat.pow 2 128
    let root := (Elementary.sqrt.iterate n n.log2 (Nat.pow 2 (n.log2 / 2 + 1))).toNat
    nearestUnits false root (Nat.pow 2 64)

/-- The exponential of a number. -/
def exp (x : Binary64) : Binary64 :=
  if x.isNaN then x
  else if !x.isFinite then if x.negative then zero false else x
  else if unitsPerOne * 800 < x.magnitude then if x.negative then zero false else infinity false
  else
    let value := Elementary.ofNumber x
    let turns := value / Elementary.ln2
    let rest := value - turns * Elementary.ln2
    Elementary.toNumber (Elementary.expTerms rest Elementary.terms 0 Elementary.one) turns

/-- The natural logarithm of a number. -/
def log (x : Binary64) : Binary64 :=
  if x.isNaN then x
  else if x.magnitude = 0 then infinity true
  else if x.negative then nan.neg
  else if !x.isFinite then x
  else
    let size := x.magnitude.log2
    let scaled : Int := x.magnitude * Elementary.one / (Nat.pow 2 size : Nat)
    let ratio := Elementary.div (scaled - Elementary.one) (scaled + Elementary.one)
    Elementary.toNumber (2 * Elementary.artanh ratio + ((size : Int) - 1074) * Elementary.ln2) 0

/-- The sine of an angle. -/
def sin (x : Binary64) : Binary64 :=
  if !x.isFinite then nan.neg
  else if x.magnitude * Nat.pow 2 100 < unitsPerOne then x
  else
    let angle := Elementary.withoutTurns (Elementary.ofNumber x)
    Elementary.toNumber (Elementary.waveTerms angle Elementary.terms 1 angle) 0

/-- The cosine of an angle. -/
def cos (x : Binary64) : Binary64 :=
  if !x.isFinite then nan.neg
  else
    let angle := Elementary.withoutTurns (Elementary.ofNumber x)
    Elementary.toNumber (Elementary.waveTerms angle Elementary.terms 0 Elementary.one) 0

/-- The angle of a point, given its height and its width. -/
def atan2 (y x : Binary64) : Binary64 :=
  if y.isNaN || x.isNaN then nan
  else
    let half := Elementary.pi / 2
    let signed (angle : Int) := Elementary.toNumber (if y.negative then -angle else angle) 0
    if y.magnitude = 0 then if x.negative then signed Elementary.pi else y
    else if x.magnitude = 0 || (!y.isFinite && x.isFinite) then signed half
    else if !y.isFinite then signed (if x.negative then 3 * half / 2 else half / 2)
    else if !x.isFinite then if x.negative then signed Elementary.pi else zero y.negative
    else
      let ratio : Int := y.magnitude * Elementary.one / (x.magnitude : Int)
      let angle := Elementary.arctan ratio
      signed (if x.negative then Elementary.pi - angle else angle)

/-- The remainder of a division whose quotient is cut to an integer. -/
def remainder (x y : Binary64) : Binary64 :=
  if x.isNaN || y.isNaN || !x.isFinite || y.magnitude = 0 then nan.neg
  else if !y.isFinite then x
  else ofMagnitude x.negative (x.magnitude % y.magnitude)

/-- A number to the power of another one. -/
def pow (x y : Binary64) : Binary64 :=
  if y.magnitude = 0 then ofInt 1
  else if x.isNaN || y.isNaN then nan
  else match y.whole? with
    | some n =>
      if n.natAbs ≤ 2048 && x.isFinite && x.magnitude ≠ 0 then
        let negative := x.negative && n % 2 ≠ 0
        -- powers of the odd part, and of two
        let scale := x.scale
        let num := Nat.pow x.significand n.natAbs
        let exponent : Int := ((scale : Int) - 1074) * n.natAbs
        let up := Nat.pow 2 exponent.toNat
        let down := Nat.pow 2 (-exponent).toNat
        if 0 ≤ n then nearest negative (num * up) down else nearest negative down (num * up)
      else if x.magnitude = 0 then
        if n < 0 then infinity (x.negative && n % 2 ≠ 0) else zero (x.negative && n % 2 ≠ 0)
      else general x y
    | none => general x y
where
  /-- A power by way of the logarithm. -/
  general (x y : Binary64) : Binary64 :=
    if x.magnitude = 0 then if y.negative then infinity false else zero false
    else if x.negative then nan.neg
    else if !x.isFinite || !y.isFinite then
      let grows := (ofInt 1).units < x.units
      if grows != y.negative then infinity false else zero false
    else if y.magnitude * 2 = unitsPerOne && !y.negative then sqrt x
    else exp (mul y (log x))

end Binary64

end ScenarioRunner

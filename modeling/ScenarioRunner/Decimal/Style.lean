import ScenarioRunner.Decimal.Shortest

/-!
# Decimal text of a floating-point number

A `DecimalStyle` holds the decisions of one written form: which decimal is chosen on a tie,
which numbers are written positionally, and whether integral ones keep a fraction.
-/

set_option autoImplicit false

namespace ScenarioRunner

/-- The decisions of one written form of finite numbers. -/
structure DecimalStyle where
  /-- The choice between two equally near decimals. -/
  tie : Tie
  /-- Whether a number is written positionally, given the place of its decimal point counted
  from its first digit. -/
  positional : Int → Bool
  /-- Whether an integral number ends in `.0`. -/
  keepsFraction : Bool

namespace Decimal

/-- The digits in reading order. -/
def digitChars (d : Decimal) : List Char := Nat.toDigits 10 d.digits

/-- The place of the decimal point, counted from the first digit. -/
def point (d : Decimal) : Int := d.digitChars.length + d.exponent

/-- The text without an exponent. -/
def positional (d : Decimal) (keepsFraction : Bool) : List Char :=
  if 0 ≤ d.exponent then
    d.digitChars ++ List.replicate d.exponent.toNat '0' ++ (if keepsFraction then ['.', '0'] else [])
  else if 0 < d.point then
    d.digitChars.take d.point.toNat ++ '.' :: d.digitChars.drop d.point.toNat
  else
    '0' :: '.' :: List.replicate (-d.point).toNat '0' ++ d.digitChars

/-- The text with one digit before the point, and an exponent that always has a sign. -/
def scientific (d : Decimal) : List Char :=
  let exponent := d.point - 1
  let power := (if exponent < 0 then '-' else '+') :: Nat.toDigits 10 exponent.natAbs
  match d.digitChars with
  | [] => []
  | [digit] => digit :: 'e' :: power
  | digit :: rest => digit :: '.' :: rest ++ 'e' :: power

end Decimal

/-- The text of a finite number in a style. -/
def DecimalStyle.write (style : DecimalStyle) (x : Binary64) : List Char :=
  let d := x.shortest style.tie
  let body := if style.positional d.point then d.positional style.keepsFraction else d.scientific
  if x.negative then '-' :: body else body

/-- The number rounded to a fixed count of decimal places, a half to the even neighbour; for
finite numbers that are not negative. -/
def Binary64.fixed (x : Binary64) (places : Nat) : List Char :=
  let scaled := roundHalfEven (x.magnitude * Nat.pow 10 places) Binary64.unitsPerOne
  let digits := Nat.toDigits 10 scaled
  let padded := List.replicate (places + 1 - digits.length) '0' ++ digits
  let whole := padded.length - places
  if places = 0 then padded else padded.take whole ++ '.' :: padded.drop whole

end ScenarioRunner

import ScenarioRunner.Binary64.Round

/-!
# Decimal literals

The literals are an optional sign, digits with an optional point among them, and an optional
exponent. A `Literal` keeps the exact value that is written; rounding it is a separate step.
-/

set_option autoImplicit false

namespace ScenarioRunner

/-- The exact decimal value that a literal writes: `± digits * 10 ^ exponent`. -/
structure Literal where
  /-- Whether a minus sign is written. -/
  negative : Bool
  /-- All written digits before the exponent, read as one integer. -/
  digits : Nat
  /-- The power of ten that the last of them counts. -/
  exponent : Int
  deriving DecidableEq, Repr

namespace Literal

/-- The value of an ASCII digit. -/
def digitValue (c : Char) : Nat := c.toNat - '0'.toNat

/-- Digits read as a decimal integer. -/
def natOfDigits (digits : List Char) : Nat :=
  digits.foldl (fun n c => 10 * n + digitValue c) 0

/-- An optional sign, and whether it is a minus. -/
def splitSign : List Char → Bool × List Char
  | '-' :: rest => (true, rest)
  | '+' :: rest => (false, rest)
  | rest => (false, rest)

/-- The exponent that all of the text writes, zero for no text. -/
def exponent? : List Char → Option Int
  | [] => some 0
  | c :: rest =>
    if c = 'e' ∨ c = 'E' then
      let (negative, digits) := splitSign rest
      if !digits.isEmpty && digits.all Char.isDigit then
        some (if negative then -(natOfDigits digits : Int) else natOfDigits digits)
      else none
    else none

/-- The fraction digits after a point, and what follows them. -/
def splitFraction : List Char → List Char × List Char
  | '.' :: rest => (rest.takeWhile Char.isDigit, rest.dropWhile Char.isDigit)
  | rest => ([], rest)

/-- Reads a text that is one literal and nothing else. -/
def parse? (text : List Char) : Option Literal :=
  let (negative, body) := splitSign text
  let whole := body.takeWhile Char.isDigit
  let (fraction, rest) := splitFraction (body.dropWhile Char.isDigit)
  if whole.isEmpty && fraction.isEmpty then none
  else (exponent? rest).map fun e =>
    ⟨negative, natOfDigits (whole ++ fraction), e - (fraction.length : Int)⟩

/-- The floating-point number nearest to the literal. -/
def toBinary64 (l : Literal) : Binary64 := Binary64.ofDecimal l.negative l.digits l.exponent

/-- Reads an integer literal: an optional sign, then digits only. The sign is kept apart. -/
def integer? (text : List Char) : Option (Bool × Nat) :=
  let (negative, digits) := splitSign text
  if !digits.isEmpty && digits.all Char.isDigit then some (negative, natOfDigits digits) else none

end Literal

end ScenarioRunner

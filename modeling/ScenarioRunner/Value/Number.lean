import ScenarioRunner.Decimal.Literal
import ScenarioRunner.Text.Blank
import ScenarioRunner.Value.Basic

/-!
# Numbers among values

Integers, finite floats and strings that hold a decimal literal count as numbers. Two numbers
without a fraction are compared as integers, all others after rounding to a float.
-/

set_option autoImplicit false

namespace ScenarioRunner

/-- A value taken as a number. -/
inductive Number where
  | int (n : Int64)
  | uint (n : UInt64)
  | float (x : Binary64)
  deriving DecidableEq

namespace Number

/-- The float next to `10 ^ 38`; integral floats from here on are not taken as integers. -/
def integerLimit : Binary64 := ⟨0x47D2CED32A16A1B1⟩

/-- The exact integer that a number denotes, if it has no fraction and is no float of
`10 ^ 38` or more. -/
def integer? : Number → Option Int
  | int n => some n.toInt
  | uint n => some n.toNat
  | float x => if x.magnitude < integerLimit.magnitude then x.whole? else none

/-- The nearest float. -/
def toBinary64 : Number → Binary64
  | int n => Binary64.ofInt n.toInt
  | uint n => Binary64.ofInt n.toNat
  | float x => x

/-- Equality of numbers of any form. An integer never equals a number with a fraction. -/
def same (a b : Number) : Bool :=
  match a.integer?, b.integer? with
  | some m, some n => m == n
  | none, none => a.toBinary64.sameNumber b.toBinary64
  | _, _ => false

/-- The order of two numbers of any form. -/
def compare? (a b : Number) : Option Ordering :=
  match a.integer?, b.integer? with
  | some m, some n => some (compare m n)
  | _, _ => a.toBinary64.compare? b.toBinary64

/-- The characters that a decimal literal can hold. -/
def isLiteralChar (c : Char) : Bool := c.isDigit || c == '.' || c == 'e' || c == 'E' || c == '+' || c == '-'

/-- Reads a decimal literal that fills the text: an integer in the 64-bit range exactly, all else
rounded to a finite float. A text with other characters, such as the name of an infinity, is not
tried as a float. -/
def ofLiteral? (text : List Char) : Option Number :=
  let rounded :=
    if text.all isLiteralChar then
      (Literal.parse? text).bind fun literal =>
        let x := literal.toBinary64
        if x.isFinite then some (float x) else none
    else none
  if text.isEmpty then none
  else
    match Literal.integer? text with
    | some (negative, n) =>
      if n < Value.signedBound ∨ (negative ∧ n = Value.signedBound) then
        some (int (Int64.ofInt (if negative then -(n : Int) else n)))
      else if !negative ∧ n < Value.unsignedBound then some (uint (UInt64.ofNat n))
      else rounded
    | none => rounded

end Number

namespace Value

/-- The number that a value stands for, if any. Strings are trimmed first. -/
def number? : Value → Option Number
  | int n => some (.int n)
  | uint n => some (.uint n)
  | float x => if x.isFinite then some (.float x) else none
  | str s => Number.ofLiteral? (trimBlanks s.toList)
  | _ => none

/-- The order of two values as numbers; `none` when either is no number. -/
def compare? (a b : Value) : Option Ordering :=
  match a.number?, b.number? with
  | some x, some y => x.compare? y
  | _, _ => none

end Value

/-- The integer that a float denotes, when it is one of the signed 64-bit range. -/
def Binary64.toInt64? (x : Binary64) : Option Int64 :=
  match x.whole? with
  | some n =>
    if -(Value.signedBound : Int) ≤ n ∧ n < (Value.signedBound : Int) then some (Int64.ofInt n)
    else none
  | none => none

/-- Whether a text may be a number: a leading minus, then only digits, points, exponent marks and
plus signs. `Value.ofNumericText?` decides. -/
def looksNumeric (text : List Char) : Bool :=
  let body := match text with
    | '-' :: rest => rest
    | _ => text
  !text.isEmpty && body.all fun c => c.isDigit || c == '.' || c == 'e' || c == 'E' || c == '+'

/-- The number that a text writes, as a value; an integral float of the signed range becomes an
integer. -/
def Value.ofNumericText? (text : List Char) : Option Value :=
  (Number.ofLiteral? text).map fun
    | .int n => .int n
    | .uint n => .uint n
    | .float x => match x.toInt64? with
      | some n => .int n
      | none => .float x

end ScenarioRunner

/-!
# Numbers in texts

The integers at the start of texts, in a base or in the one that their first digits tell.
-/

set_option autoImplicit false

namespace ScenarioRunner.Shell

/-- The blanks around numbers. -/
def isSpaceChar (c : Char) : Bool := c = ' ' || (0x09 ≤ c.toNat && c.toNat ≤ 0x0D)

/-- The value of a digit or letter, as far as bases go. -/
def digitValue (c : Char) : Nat :=
  if c.isDigit then c.toNat - '0'.toNat
  else if 'a' ≤ c ∧ c ≤ 'z' then c.toNat - 'a'.toNat + 10
  else if 'A' ≤ c ∧ c ≤ 'Z' then c.toNat - 'A'.toNat + 10
  else 99

/-- The digits of a base at the start of a text. -/
def leadingDigits (base : Nat) (text : List Char) : List Char :=
  text.takeWhile fun c => digitValue c < base

/-- The number that digits of a base make. -/
def numberOf (base : Nat) (digits : List Char) : Nat :=
  digits.foldl (fun n c => n * base + digitValue c) 0

/-- The natural number at the start of a text and what follows it. Without a base it is hexadecimal
or octal if it begins so. -/
def leadingNatural? (base : Option Nat) (text : List Char) : Option (Nat × List Char) :=
  let (base, body) := match base, text with
    | some base, _ => (base, text)
    | none, '0' :: x :: rest =>
      if (x = 'x' || x = 'X') && !(leadingDigits 16 rest).isEmpty then (16, rest) else (8, text)
    | none, '0' :: _ => (8, text)
    | none, _ => (10, text)
  let digits := leadingDigits base body
  if digits.isEmpty then none else some (numberOf base digits, body.drop digits.length)

/-- The integer at the start of a text, behind blanks, and what follows it. -/
def leadingInteger? (base : Option Nat) (text : List Char) : Option (Int × List Char) :=
  match text.dropWhile isSpaceChar with
  | '-' :: rest => (leadingNatural? base rest).map fun (n, behind) => (-(n : Int), behind)
  | '+' :: rest => (leadingNatural? base rest).map fun (n, behind) => ((n : Int), behind)
  | rest => (leadingNatural? base rest).map fun (n, behind) => ((n : Int), behind)

/-- The greatest 64-bit integer. -/
def greatestInteger : Int := 0x7FFFFFFFFFFFFFFF

/-- Whether an integer has 64 bits. -/
def fitsInteger (n : Int) : Bool := decide (-greatestInteger - 1 ≤ n ∧ n ≤ greatestInteger)

/-- The 64-bit integer nearest to an integer. -/
def nearestInteger (n : Int) : Int64 :=
  Int64.ofInt (max (-greatestInteger - 1) (min n greatestInteger))

/-- A text that is a decimal integer of 64 bits between blanks. -/
def decimalInteger? (text : String) : Option Int :=
  match leadingInteger? (some 10) text.toList with
  | some (n, behind) => if behind.all isSpaceChar && fitsInteger n then some n else none
  | none => none

/-- A text that is a number of 31 bits. -/
def smallNumber? (text : String) : Option Nat :=
  (decimalInteger? text).bind fun n => if 0 ≤ n ∧ n < 0x80000000 then some n.toNat else none

end ScenarioRunner.Shell

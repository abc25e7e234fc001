import ScenarioRunner.Decimal.Style
import ScenarioRunner.Value.Basic

/-!
# Writing JSON

`compact` writes a value without white space, `pretty` with one entry a line and two blanks of
indentation a level. Both keep list order and key order. A float that is no finite number is
written as `null`.
-/

set_option autoImplicit false

namespace ScenarioRunner.Json

/-- Floats have the fewest digits, an even digit on a tie, and an exponent below `10 ^ (-5)` and
from `10 ^ 16` on; integral ones keep a fraction. -/
def floatStyle : DecimalStyle := ⟨.even, fun point => -5 < point ∧ point ≤ 16, true⟩

/-- The hexadecimal digits of a number below 256. -/
def twoHexDigits (n : Nat) : List Char := [Nat.digitChar (n / 16), Nat.digitChar (n % 16)]

/-- One character inside quotes. Quotes, backslashes and control characters are escaped. -/
def escapeChar (c : Char) : List Char :=
  if c = '"' then ['\\', '"']
  else if c = '\\' then ['\\', '\\']
  else if c = '\n' then ['\\', 'n']
  else if c = '\r' then ['\\', 'r']
  else if c = '\t' then ['\\', 't']
  else if c = '\x08' then ['\\', 'b']
  else if c = '\x0c' then ['\\', 'f']
  else if c.toNat < 0x20 then '\\' :: 'u' :: '0' :: '0' :: twoHexDigits c.toNat
  else [c]

/-- A text in quotes. -/
def quoted (s : String) : List Char := '"' :: (s.toList.flatMap escapeChar ++ ['"'])

/-- An integer in plain decimal digits. -/
def integer (n : Int) : List Char :=
  if n < 0 then '-' :: Nat.toDigits 10 n.natAbs else Nat.toDigits 10 n.natAbs

/-- A float, `null` unless it is a finite number. -/
def float (x : Binary64) : List Char :=
  if x.isFinite then floatStyle.write x else ['n', 'u', 'l', 'l']

mutual

/-- The value without white space. -/
def compact : Value → List Char
  | .null => ['n', 'u', 'l', 'l']
  | .bool true => ['t', 'r', 'u', 'e']
  | .bool false => ['f', 'a', 'l', 's', 'e']
  | .int n => integer n.toInt
  | .uint n => integer n.toNat
  | .float x => float x
  | .str s => quoted s
  | .list items => '[' :: (compactItems items ++ [']'])
  | .map fields => '\x7b' :: (compactFields fields ++ ['\x7d'])

/-- Items with commas between them. -/
def compactItems : List Value → List Char
  | [] => []
  | [v] => compact v
  | v :: w :: rest => compact v ++ ',' :: compactItems (w :: rest)

/-- Entries with commas between them. -/
def compactFields : List (String × Value) → List Char
  | [] => []
  | [(k, v)] => quoted k ++ ':' :: compact v
  | (k, v) :: e :: rest => quoted k ++ ':' :: compact v ++ ',' :: compactFields (e :: rest)

end

/-- A line break and the indentation of a level. -/
def newLine (level : Nat) : List Char := '\n' :: List.replicate (2 * level) ' '

mutual

/-- The value with one entry a line, inside `level` containers. -/
def prettyAt (level : Nat) : Value → List Char
  | .list [] => ['[', ']']
  | .map [] => ['\x7b', '\x7d']
  | .list items => '[' :: (prettyItems (level + 1) items ++ newLine level ++ [']'])
  | .map fields => '\x7b' :: (prettyFields (level + 1) fields ++ newLine level ++ ['\x7d'])
  | .null => ['n', 'u', 'l', 'l']
  | .bool true => ['t', 'r', 'u', 'e']
  | .bool false => ['f', 'a', 'l', 's', 'e']
  | .int n => integer n.toInt
  | .uint n => integer n.toNat
  | .float x => float x
  | .str s => quoted s

/-- Items with commas between them, each on its own line. -/
def prettyItems (level : Nat) : List Value → List Char
  | [] => []
  | [v] => newLine level ++ prettyAt level v
  | v :: w :: rest => newLine level ++ prettyAt level v ++ ',' :: prettyItems level (w :: rest)

/-- Entries with commas between them, each on its own line. -/
def prettyFields (level : Nat) : List (String × Value) → List Char
  | [] => []
  | [(k, v)] => newLine level ++ quoted k ++ ':' :: ' ' :: prettyAt level v
  | (k, v) :: e :: rest =>
    newLine level ++ quoted k ++ ':' :: ' ' :: prettyAt level v ++ ',' :: prettyFields level (e :: rest)

end

/-- The value on one line, as text. -/
def compactText (v : Value) : String := String.ofList (compact v)

/-- The value with one entry a line, as text. -/
def prettyText (v : Value) : String := String.ofList (prettyAt 0 v)

end ScenarioRunner.Json

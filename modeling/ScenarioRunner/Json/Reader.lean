import ScenarioRunner.Decimal.Literal
import ScenarioRunner.Json.Fault
import ScenarioRunner.Value.Basic

/-!
# Reading JSON

Readers take the bytes that are left and give a value with the bytes that follow it, or a fault.
Containers nest at most `depth` deep. A whole number keeps its 64-bit form, and any other literal
is rounded the way `scaled` says: significand first, then one step per power of ten.
-/

set_option autoImplicit false

namespace ScenarioRunner.Json

/-- A fault at the next byte, which is not taken. -/
def faultAt {α : Type} (cause : Cause) (bytes : Bytes) : Except Fault α :=
  .error ⟨cause, bytes.length⟩

/-- A fault just behind the next byte, if there is one. -/
def faultBehind {α : Type} (cause : Cause) (bytes : Bytes) : Except Fault α :=
  .error ⟨cause, bytes.length - 1⟩

/-- The four characters between tokens. -/
def isSpace (b : UInt8) : Bool := b == 0x20 || b == 0x0A || b == 0x09 || b == 0x0D

/-- The bytes from the next token on. -/
def skipSpace (bytes : Bytes) : Bytes := bytes.dropWhile isSpace

/-- Whether a byte is an ASCII digit. -/
def isDigitByte (b : UInt8) : Bool := 0x30 ≤ b && b ≤ 0x39

/-- The value of a digit. -/
def digit (b : UInt8) : Nat := b.toNat - 0x30

/-- Reads the rest of a word whose first letter is known. -/
def word (value : Value) : Bytes → Bytes → Except Fault (Value × Bytes)
  | [], bytes => .ok (value, bytes)
  | _ :: _, [] => faultAt .endInValue []
  | e :: expected, b :: rest => if b = e then word value expected rest else faultAt .expectedWord rest

/-! ## Numbers -/

/-- The least significand that does not fit 64 bits. -/
def significandBound : Nat := 0x10000000000000000

/-- A power of ten as a float. -/
def powerOfTen (n : Nat) : Binary64 := Binary64.ofDecimal false 1 n

/-- Divides by `10 ^ n`, by `10 ^ 308` at a time. -/
def divideByPower (x : Binary64) (n : Nat) : Binary64 :=
  if n ≤ 308 then x.div (powerOfTen n)
  else if x.magnitude = 0 then x
  else divideByPower (x.div (powerOfTen 308)) (n - 308)
termination_by n
decreasing_by omega

/-- The float of a significand and a power of ten: the rounded significand times or over the
rounded power. `none` beyond the greatest float. -/
def scaled (significand : Nat) (exponent : Int) : Option Binary64 :=
  let x := Binary64.ofInt significand
  if 0 ≤ exponent then
    if exponent ≤ 308 then
      let product := x.mul (powerOfTen exponent.toNat)
      if product.isFinite then some product else none
    else if significand = 0 then some x else none
  else some (divideByPower x exponent.natAbs)

/-- A float value with its sign, or the fault of one that is too great. -/
def floatValue (negative : Bool) (significand : Nat) (exponent : Int) (rest : Bytes) :
    Except Fault (Value × Bytes) :=
  match scaled significand exponent with
  | some x => .ok (.float (if negative then x.neg else x), rest)
  | none => faultAt .numberOutOfRange rest

/-- The greatest exponent that is kept exactly. -/
def exponentLimit : Nat := 0x7FFFFFFF

/-- Reads the further digits of an exponent. Beyond the limit, the number is zero or too great. -/
def exponentDigits (negative : Bool) (significand : Nat) (start : Int) (downward : Bool) :
    Nat → Bytes → Except Fault (Value × Bytes)
  | e, b :: rest =>
    if isDigitByte b then
      let next := 10 * e + digit b
      if next ≤ exponentLimit then exponentDigits negative significand start downward next rest
      else if significand ≠ 0 && !downward then faultAt .numberOutOfRange rest
      else .ok (.float (.zero negative), rest.dropWhile isDigitByte)
    else floatValue negative significand (if downward then start - e else start + e) (b :: rest)
  | e, [] => floatValue negative significand (if downward then start - e else start + e) []

/-- Reads an exponent after its mark. -/
def exponent (negative : Bool) (significand : Nat) (start : Int) (bytes : Bytes) :
    Except Fault (Value × Bytes) :=
  let (downward, digits) := match bytes with
    | 0x2B :: rest => (false, rest)
    | 0x2D :: rest => (true, rest)
    | _ => (false, bytes)
  match digits with
  | [] => faultAt .endInValue []
  | b :: rest =>
    if isDigitByte b then exponentDigits negative significand start downward (digit b) rest
    else faultAt .invalidNumber rest

/-- Reads an exponent if there is one, and finishes the number. -/
def finish (negative : Bool) (significand : Nat) (start : Int) (bytes : Bytes) :
    Except Fault (Value × Bytes) :=
  match bytes with
  | 0x65 :: rest | 0x45 :: rest => exponent negative significand start rest
  | _ => floatValue negative significand start bytes

/-- Reads the digits after a point. Digits that no longer fit the significand are dropped. -/
def fractionDigits (negative : Bool) (significand : Nat) (start : Int) (none : Bool) :
    Bytes → Except Fault (Value × Bytes)
  | b :: rest =>
    if isDigitByte b then
      let next := 10 * significand + digit b
      if next < significandBound then fractionDigits negative next (start - 1) false rest
      else finish negative significand start (rest.dropWhile isDigitByte)
    else if none then faultBehind .invalidNumber (b :: rest)
    else finish negative significand start (b :: rest)
  | [] => if none then faultBehind .endInValue [] else finish negative significand start []

/-- Counts the digits that no longer fit the significand. -/
def longDigits (negative : Bool) (significand : Nat) : Nat → Bytes → Except Fault (Value × Bytes)
  | dropped, b :: rest =>
    if isDigitByte b then longDigits negative significand (dropped + 1) rest
    else if b = 0x2E then fractionDigits negative significand dropped true rest
    else finish negative significand dropped (b :: rest)
  | dropped, [] => finish negative significand dropped []

/-- The value of a whole number. Negative zero and integers below the signed range are floats. -/
def wholeValue (negative : Bool) (n : Nat) : Value :=
  if !negative then .ofUInt64 (UInt64.ofNat n)
  else if n = 0 ∨ Value.signedBound < n then .float (Binary64.ofInt n).neg
  else .int (Int64.ofInt (-(n : Int)))

/-- Finishes a number behind its whole part. -/
def afterWhole (negative : Bool) (significand : Nat) (bytes : Bytes) : Except Fault (Value × Bytes) :=
  match bytes with
  | 0x2E :: rest => fractionDigits negative significand 0 true rest
  | 0x65 :: rest | 0x45 :: rest => exponent negative significand 0 rest
  | _ => .ok (wholeValue negative significand, bytes)

/-- Reads the further digits of a whole part. -/
def wholeDigits (negative : Bool) : Nat → Bytes → Except Fault (Value × Bytes)
  | significand, b :: rest =>
    if isDigitByte b then
      let next := 10 * significand + digit b
      if next < significandBound then wholeDigits negative next rest
      else longDigits negative significand 1 rest
    else afterWhole negative significand (b :: rest)
  | significand, [] => afterWhole negative significand []

/-- Reads a number behind its sign. -/
def number (negative : Bool) : Bytes → Except Fault (Value × Bytes)
  | [] => faultAt .endInValue []
  | b :: rest =>
    if b = 0x30 then
      match rest with
      | d :: _ => if isDigitByte d then faultBehind .invalidNumber rest else afterWhole negative 0 rest
      | [] => afterWhole negative 0 rest
    else if isDigitByte b then wholeDigits negative (digit b) rest
    else faultAt .invalidNumber rest

/-! ## Strings -/

/-- The value of a hexadecimal digit. -/
def hexDigit? (b : UInt8) : Option Nat :=
  if isDigitByte b then some (digit b)
  else if 0x61 ≤ b && b ≤ 0x66 then some (b.toNat - 0x61 + 10)
  else if 0x41 ≤ b && b ≤ 0x46 then some (b.toNat - 0x41 + 10)
  else none

/-- Reads four hexadecimal digits. -/
def fourHexDigits : Bytes → Except Fault (Nat × Bytes)
  | a :: b :: c :: d :: rest =>
    match hexDigit? a, hexDigit? b, hexDigit? c, hexDigit? d with
    | some a, some b, some c, some d => .ok (((a * 16 + b) * 16 + c) * 16 + d, rest)
    | _, _, _, _ => faultAt .invalidEscape rest
  | _ => faultAt .endInString []

/-- Reads the second half of a surrogate pair, after the first. -/
def lowSurrogate (high : Nat) : Bytes → Except Fault (Char × Bytes)
  | 0x5C :: 0x75 :: rest => do
    let (low, rest) ← fourHexDigits rest
    if 0xDC00 ≤ low ∧ low ≤ 0xDFFF then
      .ok (Char.ofNat (0x10000 + (high - 0xD800) * 0x400 + (low - 0xDC00)), rest)
    else faultAt .unpairedSurrogate rest
  | 0x5C :: _ :: rest => faultAt .endOfSurrogatePair rest
  | [0x5C] => faultAt .endInString []
  | _ :: rest => faultAt .endOfSurrogatePair rest
  | [] => faultAt .endInString []

/-- Reads an escaped code point after its mark. -/
def codePoint (bytes : Bytes) : Except Fault (Char × Bytes) := do
  let (n, rest) ← fourHexDigits bytes
  if 0xDC00 ≤ n ∧ n ≤ 0xDFFF then faultAt .unpairedSurrogate rest
  else if 0xD800 ≤ n ∧ n ≤ 0xDBFF then lowSurrogate n rest
  else .ok (Char.ofNat n, rest)

/-- Reads an escape after its backslash. -/
def escape : Bytes → Except Fault (Char × Bytes)
  | [] => faultAt .endInString []
  | b :: rest =>
    if b = 0x22 then .ok ('"', rest)
    else if b = 0x5C then .ok ('\\', rest)
    else if b = 0x2F then .ok ('/', rest)
    else if b = 0x62 then .ok ('\x08', rest)
    else if b = 0x66 then .ok ('\x0c', rest)
    else if b = 0x6E then .ok ('\n', rest)
    else if b = 0x72 then .ok ('\r', rest)
    else if b = 0x74 then .ok ('\t', rest)
    else if b = 0x75 then codePoint rest
    else faultAt .invalidEscape rest

/-- Reads a string behind its opening quote, at most `fuel` characters long: its bytes, escapes
replaced. What is read so far is in `found`, last byte first. -/
def stringBytes : Nat → Bytes → Bytes → Except Fault (Bytes × Bytes)
  | 0, _, _ => faultAt .endInString []
  | _ + 1, _, [] => faultAt .endInString []
  | fuel + 1, found, b :: rest =>
    if b = 0x22 then .ok (found.reverse, rest)
    else if b = 0x5C then
      match escape rest with
      | .ok (c, after) => stringBytes fuel ((String.utf8EncodeChar c).reverse ++ found) after
      | .error fault => .error fault
    else if b < 0x20 then faultAt .controlCharacter rest
    else stringBytes fuel (b :: found) rest

/-- Reads a string behind its opening quote. An ill-formed one is a fault as far before its end as
there are ill-formed bytes and bytes behind them once the escapes are replaced. -/
def string (bytes : Bytes) : Except Fault (String × Bytes) := do
  let (content, rest) ← stringBytes (bytes.length + 1) [] bytes
  match Utf8.decode? content with
  | some s => .ok (s, rest)
  | none => .error ⟨.invalidText, rest.length + (Utf8.fromIllFormed content).length⟩

/-! ## Containers -/

/-- Reads items up to the end of a list, given how to read one. `first` holds before the first item.
-/
def itemsFrom (item : Bytes → Except Fault (Value × Bytes)) :
    Nat → Bool → Bytes → Except Fault (List Value × Bytes)
  | 0, _, _ => faultBehind .endInList []
  | fuel + 1, first, bytes =>
    let more (bytes : Bytes) : Except Fault (List Value × Bytes) := do
      let (v, rest) ← item bytes
      let (items, rest) ← itemsFrom item fuel false rest
      .ok (v :: items, rest)
    match skipSpace bytes with
    | [] => faultBehind .endInList []
    | b :: rest =>
      if b = 0x5D then .ok ([], rest)
      else if first then more (b :: rest)
      else if b = 0x2C then
        match skipSpace rest with
        | [] => faultBehind .endInValue []
        | c :: after => if c = 0x5D then faultBehind .trailingComma (c :: after) else more (c :: after)
      else faultBehind .expectedItemEnd (b :: rest)

/-- Reads a colon and the value behind it. -/
def entryValue (item : Bytes → Except Fault (Value × Bytes)) (bytes : Bytes) :
    Except Fault (Value × Bytes) :=
  match skipSpace bytes with
  | [] => faultBehind .endInObject []
  | b :: rest => if b = 0x3A then item rest else faultBehind .expectedColon (b :: rest)

/-- Reads entries up to the end of an object, given how to read a value. Of two entries with the
same key the later stays. -/
def entriesFrom (item : Bytes → Except Fault (Value × Bytes)) :
    Nat → Bool → Fields Value → Bytes → Except Fault (Fields Value × Bytes)
  | 0, _, _, _ => faultBehind .endInObject []
  | fuel + 1, first, found, bytes =>
    let more (bytes : Bytes) : Except Fault (Fields Value × Bytes) := do
      let (key, rest) ← string bytes
      let (v, rest) ← entryValue item rest
      entriesFrom item fuel false (Fields.insert key v found) rest
    match skipSpace bytes with
    | [] => faultBehind .endInObject []
    | b :: rest =>
      if b = 0x7D then .ok (found, rest)
      else if first then
        if b = 0x22 then more rest else faultBehind .keyNotString (b :: rest)
      else if b = 0x2C then
        match skipSpace rest with
        | [] => faultBehind .endInValue []
        | c :: after =>
          if c = 0x22 then more after
          else if c = 0x7D then faultBehind .trailingComma (c :: after)
          else faultBehind .keyNotString (c :: after)
      else faultBehind .expectedEntryEnd (b :: rest)

/-- Reads one value, inside which containers nest at most `depth` deep. -/
def value : Nat → Bytes → Except Fault (Value × Bytes)
  | depth, bytes =>
    match skipSpace bytes with
    | [] => faultBehind .endInValue []
    | b :: rest =>
      if b = 0x6E then word .null [0x75, 0x6C, 0x6C] rest
      else if b = 0x74 then word (.bool true) [0x72, 0x75, 0x65] rest
      else if b = 0x66 then word (.bool false) [0x61, 0x6C, 0x73, 0x65] rest
      else if b = 0x2D then number true rest
      else if isDigitByte b then number false (b :: rest)
      else if b = 0x22 then do
        let (s, rest) ← string rest
        .ok (.str s, rest)
      else if b = 0x5B then
        match depth with
        | 0 => faultBehind .tooDeep (b :: rest)
        | depth + 1 => do
          let (items, rest) ← itemsFrom (value depth) (rest.length + 1) true rest
          .ok (.list items, rest)
      else if b = 0x7B then
        match depth with
        | 0 => faultBehind .tooDeep (b :: rest)
        | depth + 1 => do
          let (fields, rest) ← entriesFrom (value depth) (rest.length + 1) true [] rest
          .ok (.map fields, rest)
      else faultBehind .expectedValue (b :: rest)

/-- The nesting that a reader accepts by default. -/
def nestingLimit : Nat := 127

/-- Reads a text that is one value and nothing else. -/
def read (bytes : Bytes) (depth : Nat := nestingLimit) : Except Fault Value := do
  let (v, rest) ← value depth bytes
  match skipSpace rest with
  | [] => .ok v
  | b :: rest => faultBehind .trailingText (b :: rest)

end ScenarioRunner.Json

import ScenarioRunner.Decimal.Literal
import ScenarioRunner.Schema.Datum

/-!
# TOML scalars

Keys, strings, numbers, truth values and dates as they are written in TOML. Every function reads
from the start of a text and gives what it has read and what follows.
-/

set_option autoImplicit false

namespace ScenarioRunner.Toml

/-- A space or a tab. -/
def isSpace (c : Char) : Bool := c == ' ' || c == '\t'

/-- The characters that can stand in comments and, quotes and backslashes apart, in strings. -/
def isPrintable (c : Char) : Bool := c == '\t' || (0x20 ≤ c.toNat && c.toNat ≤ 0x7E) || 0x80 ≤ c.toNat

/-- Skips spaces and tabs. -/
def skipSpaces (text : List Char) : List Char := text.dropWhile isSpace

/-- What follows a line break, if one stands here. -/
def afterBreak? : List Char → Option (List Char)
  | '\n' :: rest => some rest
  | '\r' :: '\n' :: rest => some rest
  | _ => none

/-! ## Strings -/

/-- The value of a hexadecimal digit. -/
def hexValue? (c : Char) : Option Nat :=
  if c.isDigit then some (c.toNat - '0'.toNat)
  else if 'a' ≤ c ∧ c ≤ 'f' then some (c.toNat - 'a'.toNat + 10)
  else if 'A' ≤ c ∧ c ≤ 'F' then some (c.toNat - 'A'.toNat + 10)
  else none

/-- The character of some hexadecimal digits. -/
def escapedChar? (count : Nat) (text : List Char) : Option Char :=
  if text.length < count then none
  else ((text.take count).mapM hexValue?).bind fun digits =>
    let n := digits.foldl (fun n d => n * 16 + d) 0
    if n.isValidChar then some (Char.ofNat n) else none

/-- The character of an escape, behind its backslash. -/
def escape? : List Char → Option (Char × List Char)
  | 'b' :: rest => some ('\x08', rest)
  | 't' :: rest => some ('\t', rest)
  | 'n' :: rest => some ('\n', rest)
  | 'f' :: rest => some ('\x0c', rest)
  | 'r' :: rest => some ('\r', rest)
  | '"' :: rest => some ('"', rest)
  | '\\' :: rest => some ('\\', rest)
  | 'u' :: rest => (escapedChar? 4 rest).map fun c => (c, rest.drop 4)
  | 'U' :: rest => (escapedChar? 8 rest).map fun c => (c, rest.drop 8)
  | _ => none

/-- The rest of a string on one line, up to its closing quote. -/
def lineString (quote : Char) (escapes : Bool) (out : List Char) :
    Nat → List Char → Option (List Char × List Char)
  | 0, _ => none
  | fuel + 1, text =>
    match text with
    | [] => none
    | c :: rest =>
      if c = quote then some (out.reverse, rest)
      else if escapes ∧ c = '\\' then
        (escape? rest).bind fun (c, rest) => lineString quote escapes (c :: out) fuel rest
      else if isPrintable c then lineString quote escapes (c :: out) fuel rest
      else none

/-- Skips white space and line breaks. -/
def skipBlank : List Char → List Char
  | '\r' :: '\n' :: rest => skipBlank rest
  | c :: rest => if isSpace c || c == '\n' then skipBlank rest else c :: rest
  | [] => []

/-- The rest of a string on several lines, up to its three closing quotes, before which there can be
two more. A backslash at the end of a line takes away the white space that follows. -/
def blockString (quote : Char) (escapes : Bool) (out : List Char) :
    Nat → List Char → Option (List Char × List Char)
  | 0, _ => none
  | fuel + 1, text =>
    match text with
    | [] => none
    | c :: rest =>
      if c = quote then
        let quotes := text.takeWhile (· = quote)
        let behind := text.drop quotes.length
        if 5 < quotes.length then none
        else if 3 ≤ quotes.length then
          some ((List.replicate (quotes.length - 3) quote ++ out).reverse, behind)
        else blockString quote escapes (quotes ++ out) fuel behind
      else if escapes ∧ c = '\\' then
        match afterBreak? (skipSpaces rest) with
        | some behind => blockString quote escapes out fuel (skipBlank behind)
        | none => (escape? rest).bind fun (c, rest) => blockString quote escapes (c :: out) fuel rest
      else match afterBreak? text with
        | some behind => blockString quote escapes ('\n' :: out) fuel behind
        | none => if isPrintable c then blockString quote escapes (c :: out) fuel rest else none

/-- A string of either kind. -/
def string? (text : List Char) : Option (List Char × List Char) :=
  match text with
  | a :: rest =>
    if a = '"' ∨ a = '\'' then
      match rest with
      | b :: c :: behind =>
        if b = a ∧ c = a then
          let behind := (afterBreak? behind).getD behind
          blockString a (a = '"') [] (behind.length + 1) behind
        else lineString a (a = '"') [] (rest.length + 1) rest
      | _ => lineString a (a = '"') [] (rest.length + 1) rest
    else none
  | [] => none

/-! ## Keys -/

/-- The characters of keys without quotes. -/
def isKeyChar (c : Char) : Bool := c.isAlphanum || c == '_' || c == '-'

/-- One part of a key. -/
def keyPart? (text : List Char) : Option (String × List Char) :=
  match text with
  | [] => none
  | c :: rest =>
    if c = '"' ∨ c = '\'' then
      (lineString c (c = '"') [] (rest.length + 1) rest).map fun (s, rest) => (String.ofList s, rest)
    else
      let part := text.takeWhile isKeyChar
      if part.isEmpty then none else some (String.ofList part, text.drop part.length)

/-- The least count of parts that no key has. -/
def keyBound : Nat := 80

/-- A key, whose parts are joined by points. Blanks behind it are taken too. -/
def key? : Nat → List Char → Option (List String × List Char)
  | 0, _ => none
  | fuel + 1, text => do
    let (part, rest) ← keyPart? (skipSpaces text)
    match skipSpaces rest with
    | '.' :: behind =>
      let (parts, rest) ← key? fuel behind
      return (part :: parts, rest)
    | rest => return ([part], rest)

/-! ## Numbers -/

/-- Digits of a base, with single underscores between them. -/
def digits? (isDigit : Char → Bool) (text : List Char) : Option (List Char × List Char) :=
  match text with
  | c :: rest => if isDigit c then some (more c rest) else none
  | [] => none
where
  /-- The digits from one on. -/
  more (c : Char) : List Char → List Char × List Char
    | '_' :: d :: rest =>
      if isDigit d then
        let (digits, rest) := more d rest
        (c :: digits, rest)
      else ([c], '_' :: d :: rest)
    | d :: rest =>
      if isDigit d then
        let (digits, rest) := more d rest
        (c :: digits, rest)
      else ([c], d :: rest)
    | [] => ([c], [])

/-- The number that digits of a base make. -/
def numberOf (base : Nat) (digits : List Char) : Nat :=
  digits.foldl (fun n c => n * base + (hexValue? c).getD 0) 0

/-- Decimal digits without a leading zero. -/
def plainDigits? (text : List Char) : Option (List Char × List Char) :=
  match text with
  | '0' :: rest => some (['0'], rest)
  | _ => digits? Char.isDigit text

/-- A signed 64-bit integer. -/
def integerDatum? (n : Int) : Option Datum :=
  match Value.ofInteger? n with
  | some (.int n) => some (.int n)
  | _ => none

/-- A sign. -/
def sign : List Char → Option Bool × List Char
  | '+' :: rest => (some false, rest)
  | '-' :: rest => (some true, rest)
  | rest => (none, rest)

/-- An integer with the mark of its base. -/
def basedInteger? (base : Nat) (text : List Char) : Option (Datum × List Char) := do
  let (digits, rest) ← digits? (fun c => (hexValue? c).any (· < base)) text
  return (← integerDatum? (numberOf base digits), rest)

/-- An integer. -/
def integer? (text : List Char) : Option (Datum × List Char) :=
  match text with
  | '0' :: 'x' :: rest => basedInteger? 16 rest
  | '0' :: 'o' :: rest => basedInteger? 8 rest
  | '0' :: 'b' :: rest => basedInteger? 2 rest
  | _ => do
    let (negative, rest) := sign text
    let (digits, rest) ← plainDigits? rest
    let n := numberOf 10 digits
    return (← integerDatum? (if negative = some true then -(n : Int) else n), rest)

/-- A float written with a word. -/
def wordFloat? (text : List Char) : Option (Datum × List Char) :=
  let (negative, rest) := sign text
  match rest with
  | 'i' :: 'n' :: 'f' :: rest => some (.float (Binary64.infinity (negative == some true)), rest)
  | 'n' :: 'a' :: 'n' :: rest => some (.float Binary64.nan, rest)
  | _ => none

/-- The exponent of a float, if there is one. -/
def exponent? (text : List Char) : Option (Option (List Char) × List Char) :=
  match text with
  | c :: rest =>
    if c = 'e' ∨ c = 'E' then
      let (negative, rest) := sign rest
      (digits? Char.isDigit rest).map fun (digits, rest) =>
        (some (if negative = some true then '-' :: digits else digits), rest)
    else some (none, text)
  | [] => some (none, [])

/-- The fraction of a float, if there is one. -/
def fraction? (text : List Char) : Option (Option (List Char) × List Char) :=
  match text with
  | '.' :: rest => (digits? Char.isDigit rest).map fun (digits, rest) => (some digits, rest)
  | _ => some (none, text)

/-- A float written with a fraction or an exponent. One that is too great is refused; one that is too
small is taken as the negative infinity. -/
def decimalFloat? (text : List Char) : Option (Datum × List Char) := do
  let (negative, rest) := sign text
  let (whole, rest) ← plainDigits? rest
  let (fraction, rest) ← fraction? rest
  let (exponent, rest) ← exponent? rest
  if fraction.isNone && exponent.isNone then none
  let written := (if negative = some true then ['-'] else []) ++ whole ++ '.' :: fraction.getD []
    ++ (exponent.map ('e' :: ·)).getD []
  let x := (← Literal.parse? written).toBinary64
  if x = Binary64.infinity false then none else some (.float x, rest)

/-! ## Dates -/

/-- A number of exactly some digits, between two bounds. -/
def fixedNumber? (count low high : Nat) (text : List Char) : Option (Nat × List Char) :=
  let digits := text.take count
  let n := numberOf 10 digits
  if digits.length = count ∧ digits.all Char.isDigit ∧ low ≤ n ∧ n ≤ high then
    some (n, text.drop count)
  else none

/-- What follows a character, if it stands here. -/
def expect? (c : Char) : List Char → Option (List Char)
  | d :: rest => if d = c then some rest else none
  | [] => none

/-- Whether a year has a leap day. -/
def isLeapYear (year : Nat) : Bool := (year % 4 == 0 && year % 100 != 0) || year % 400 == 0

/-- The number of days of a month. -/
def daysOfMonth (year month : Nat) : Nat :=
  if month = 2 then (if isLeapYear year then 29 else 28)
  else if [4, 6, 9, 11].contains month then 30
  else 31

/-- Skips a date. -/
def afterDate? (text : List Char) : Option (List Char) := do
  let (year, rest) ← fixedNumber? 4 0 9999 text
  let (month, rest) ← fixedNumber? 2 1 12 (← expect? '-' rest)
  let (_, rest) ← fixedNumber? 2 1 (daysOfMonth year month) (← expect? '-' rest)
  return rest

/-- Skips a time of day. -/
def afterTime? (text : List Char) : Option (List Char) := do
  let (_, rest) ← fixedNumber? 2 0 23 text
  let (_, rest) ← fixedNumber? 2 0 59 (← expect? ':' rest)
  let (_, rest) ← fixedNumber? 2 0 60 (← expect? ':' rest)
  match rest with
  | '.' :: behind =>
    let digits := behind.takeWhile Char.isDigit
    if digits.isEmpty then none else some (behind.drop digits.length)
  | _ => return rest

/-- Skips the distance to universal time, if there is one. -/
def afterOffset? (text : List Char) : Option (List Char) :=
  match text with
  | 'Z' :: rest => some rest
  | 'z' :: rest => some rest
  | c :: rest =>
    if c = '+' ∨ c = '-' then do
      let (_, rest) ← fixedNumber? 2 0 23 rest
      let (_, rest) ← fixedNumber? 2 0 59 (← expect? ':' rest)
      return rest
    else some text
  | [] => some []

/-- Skips a time behind a date, if there is one. -/
def afterDateTime? (text : List Char) : Option (List Char) :=
  match text with
  | c :: rest =>
    if c = 'T' ∨ c = 't' then (afterTime? rest).bind afterOffset?
    else if c = ' ' then
      match afterTime? rest with
      | some rest => afterOffset? rest
      | none => some text
    else some text
  | [] => some []

/-- Whether a date or a time begins here, given its first digits. -/
def beginsDate (text : List Char) : Bool :=
  ((fixedNumber? 4 0 9999 text).bind fun (_, rest) => expect? '-' rest).isSome
    || ((fixedNumber? 2 0 99 text).bind fun (_, rest) => expect? ':' rest).isSome

/-- A date, a time or both. As data it is a record without any field that settings have. -/
def date? (text : List Char) : Option (Datum × List Char) :=
  let rest :=
    if ((fixedNumber? 4 0 9999 text).bind fun (_, rest) => expect? '-' rest).isSome then
      (afterDate? text).bind afterDateTime?
    else afterTime? text
  rest.map fun rest => (.map [], rest)

/-- A number, a date or a time. -/
def number? (text : List Char) : Option (Datum × List Char) :=
  if beginsDate text then date? text
  else match wordFloat? text with
    | some found => some found
    | none =>
      match decimalFloat? text with
      | some found => some found
      | none => integer? text

end ScenarioRunner.Toml

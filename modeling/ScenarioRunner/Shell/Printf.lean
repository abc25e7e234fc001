import ScenarioRunner.Decimal.Literal
import ScenarioRunner.Shell.Number

/-!
# Formatted output

A format is text with escapes and directives. Every directive takes one of some words and writes it
as text, as an integer or as a floating-point number, in a field of a least width. The format is
used again until no words are left.
-/

set_option autoImplicit false

namespace ScenarioRunner.Shell

/-! ## Escapes -/

/-- The octet of some bits. -/
def octetOf (n : Nat) : Char := Char.ofNat (n % 256)

/-- Octal digits at the start of a text, at most some of them, and what follows. -/
def octal (most : Nat) (text : List Char) : Nat × List Char :=
  let digits := leadingDigits 8 (text.take most)
  (numberOf 8 digits, text.drop digits.length)

/-- The character that an escape of one letter stands for. -/
def escapedChar? : Char → Option Char
  | 'a' => some '\x07'
  | 'b' => some '\x08'
  | 'e' => some '\x1b'
  | 'f' => some '\x0c'
  | 'n' => some '\n'
  | 'r' => some '\x0d'
  | 't' => some '\t'
  | 'v' => some '\x0b'
  | '\\' => some '\\'
  | _ => none

/-- What an escape in a format stands for, and what follows it. -/
def formatEscape (text : List Char) : Char × List Char :=
  match text with
  | c :: rest =>
    match escapedChar? c with
    | some d => (d, rest)
    | none =>
      if digitValue c < 8 then
        let (n, behind) := octal 3 text
        (octetOf n, behind)
      else ('\\', text)
  | [] => ('\\', [])

/-- A text with its escapes, and whether one of them ends all output. -/
def unescape : Nat → List Char → List Char × Bool
  | 0, _ => ([], false)
  | _ + 1, [] => ([], false)
  | _ + 1, '\\' :: 'c' :: _ => ([], true)
  | fuel + 1, '\\' :: '0' :: rest =>
    let (n, behind) := octal 3 rest
    let (others, ended) := unescape fuel behind
    (octetOf n :: others, ended)
  | fuel + 1, '\\' :: rest =>
    let (c, behind) := formatEscape rest
    let (others, ended) := unescape fuel behind
    (c :: others, ended)
  | fuel + 1, c :: rest =>
    let (others, ended) := unescape fuel rest
    (c :: others, ended)

/-- A text with its escapes, and whether one of them ends all output. -/
def withEscapes (text : String) : List Char × Bool := unescape (text.length + 1) text.toList

/-! ## Fields -/

/-- How a directive writes a word. -/
structure Directive where
  flags : List Char := []
  width : Nat := 0
  precision : Option Nat := none

namespace Directive

/-- Whether a flag is set. -/
def has (d : Directive) (flag : Char) : Bool := d.flags.contains flag

/-- A text in its field, at one side of it. -/
def pad (d : Directive) (text : List Char) : List Char :=
  let blanks := List.replicate (d.width - text.length) ' '
  if d.has '-' then text ++ blanks else blanks ++ text

/-- A number in its field. Zeros can stand between its sign and its digits. -/
def padNumber (d : Directive) (zeros : Bool) (sign digits : List Char) : List Char :=
  if zeros && d.has '0' && !d.has '-' then
    sign ++ List.replicate (d.width - sign.length - digits.length) '0' ++ digits
  else d.pad (sign ++ digits)

/-- The sign of a number. -/
def sign (d : Directive) (negative : Bool) : List Char :=
  if negative then ['-'] else if d.has '+' then ['+'] else if d.has ' ' then [' '] else []

/-- A text, cut at the precision. -/
def text (d : Directive) (content : List Char) : List Char :=
  d.pad (match d.precision with
    | some n => content.take n
    | none => content)

/-- The digits of a natural number, with zeros up to the precision. -/
def digits (d : Directive) (base : Nat) (n : Nat) : List Char :=
  let found := if n = 0 && d.precision = some 0 then [] else Nat.toDigits base n
  List.replicate (d.precision.getD 0 - found.length) '0' ++ found

/-- A signed integer. -/
def signed (d : Directive) (n : Int) : List Char :=
  d.padNumber d.precision.isNone (d.sign (decide (n < 0))) (d.digits 10 n.natAbs)

/-- An unsigned integer in the base of a letter. -/
def unsigned (d : Directive) (letter : Char) (n : Nat) : List Char :=
  let base := if letter = 'o' then 8 else if letter = 'u' then 10 else 16
  let found := d.digits base n
  let found := if letter = 'X' then found.map Char.toUpper else found
  let found :=
    if letter = 'o' && d.has '#' && found.head? != some '0' then '0' :: found else found
  let mark := if d.has '#' && n != 0 && base = 16 then ['0', letter] else []
  d.padNumber d.precision.isNone mark found

/-! ## Floating-point numbers -/

/-- The digits of a magnitude with some places behind the point. -/
def fixedDigits (d : Directive) (places : Nat) (x : Binary64) : List Char :=
  let n := roundHalfEven (x.magnitude * Nat.pow 10 places) Binary64.unitsPerOne
  let found := Nat.toDigits 10 n
  let found := List.replicate (places + 1 - found.length) '0' ++ found
  let whole := found.take (found.length - places)
  let fraction := found.drop (found.length - places)
  if fraction.isEmpty && !d.has '#' then whole else whole ++ '.' :: fraction

/-- The power of ten of the first digit of a magnitude, below the fraction of one that is its unit. -/
def decimalExponent (x : Binary64) : Int :=
  if x.magnitude = 0 then 0
  else if Binary64.unitsPerOne ≤ x.magnitude then
    ((Nat.toDigits 10 (x.magnitude / Binary64.unitsPerOne)).length : Int) - 1
  else
    let scaled := x.magnitude * Nat.pow 10 400 / Binary64.unitsPerOne
    ((Nat.toDigits 10 scaled).length : Int) - 401

/-- The first digits of a magnitude, some of them behind the first one, and the power of ten of the
first. -/
def scientificDigits (places : Nat) (x : Binary64) : List Char × Int :=
  let exponent := decimalExponent x
  let shift := (places : Int) - exponent
  let n :=
    if 0 ≤ shift then roundHalfEven (x.magnitude * Nat.pow 10 shift.toNat) Binary64.unitsPerOne
    else roundHalfEven x.magnitude (Binary64.unitsPerOne * Nat.pow 10 shift.natAbs)
  let found := Nat.toDigits 10 n
  if places + 1 < found.length then (found.take (places + 1), exponent + 1)
  else (List.replicate (places + 1 - found.length) '0' ++ found, exponent)

/-- A mark and a power of ten of at least two digits. -/
def exponentText (letter : Char) (exponent : Int) : List Char :=
  let found := Nat.toDigits 10 exponent.natAbs
  letter :: (if exponent < 0 then '-' else '+')
    :: (if found.length < 2 then '0' :: found else found)

/-- A number without the zeros at the end of its fraction. -/
def withoutZeros (text : List Char) : List Char :=
  if text.contains '.' then
    let kept := text.reverse.dropWhile (· = '0')
    (if kept.head? = some '.' then kept.tail else kept).reverse
  else text

/-- The digits of a magnitude with a power of ten. -/
def scientific (d : Directive) (letter : Char) (places : Nat) (trims : Bool) (x : Binary64) :
    List Char :=
  let (found, exponent) := scientificDigits places x
  let mantissa := match found with
    | first :: rest => if rest.isEmpty && !d.has '#' then [first] else first :: '.' :: rest
    | [] => []
  (if trims then withoutZeros mantissa else mantissa) ++ exponentText letter exponent

/-- A floating-point number in the form of a letter. -/
def float (d : Directive) (letter : Char) (x : Binary64) : List Char :=
  let isUpper := letter.isUpper
  let sign := d.sign x.negative
  if !x.isFinite then
    let name := if x.isNaN then "nan" else "inf"
    d.pad (sign ++ (if isUpper then name.toList.map Char.toUpper else name.toList))
  else
    let places := d.precision.getD 6
    let mark := if isUpper then 'E' else 'e'
    let body :=
      if letter = 'f' || letter = 'F' then d.fixedDigits places x
      else if letter = 'e' || letter = 'E' then d.scientific mark places false x
      else
        let digits := max places 1
        let exponent := (scientificDigits (digits - 1) x).2
        let trims := !d.has '#'
        if -4 ≤ exponent ∧ exponent < digits then
          let text := d.fixedDigits ((digits : Int) - 1 - exponent).toNat x
          if trims then withoutZeros text else text
        else d.scientific mark (digits - 1) trims x
    d.padNumber true sign body

end Directive

/-! ## Numbers in words -/

/-- A number at the start of a word, and what follows it. -/
def leadingFloat? (text : List Char) : Option (Binary64 × List Char) :=
  let body := text.dropWhile isSpaceChar
  let (negative, unsigned) := Literal.splitSign body
  let lower := (unsigned.take 8).map Char.toLower
  if "infinity".toList.isPrefixOf lower then some (.infinity negative, unsigned.drop 8)
  else if "inf".toList.isPrefixOf lower then some (.infinity negative, unsigned.drop 3)
  else if "nan".toList.isPrefixOf lower then
    some (if negative then Binary64.nan.neg else .nan, unsigned.drop 3)
  else
    -- the longest start that is a literal
    ((List.range (body.length + 1)).reverse.findSome? fun n =>
      (Literal.parse? (body.take n)).map fun l => (l.toBinary64, body.drop n))

/-- Output as far as it is written. -/
structure Printer where
  /-- The output, last character first. -/
  output : List Char := []
  /-- The words that are left. -/
  words : List String
  /-- What is wrong with words, last first. -/
  warnings : List String := []
  /-- What is wrong with the format. -/
  refusal : Option String := none
  /-- Whether an escape has ended the output. -/
  stopped : Bool := false

namespace Printer

/-- Whether nothing more is written. -/
def isOver (p : Printer) : Bool := p.stopped || p.refusal.isSome

/-- Writes some characters. -/
def write (p : Printer) (text : List Char) : Printer := { p with output := text.reverse ++ p.output }

/-- Takes a word. -/
def take (p : Printer) : Option String × Printer := (p.words.head?, { p with words := p.words.tail })

/-- Warns of a word. -/
def warn (p : Printer) (message : String) : Printer := { p with warnings := message :: p.warnings }

/-- Warns of a number that does not take up the whole of a word. -/
def check {α : Type} (p : Printer) (word : String) (found : Option (α × List Char)) (fits : Bool) :
    Printer :=
  match found with
  | none => if word.isEmpty then p else p.warn s!"{word}: expected numeric value"
  | some (_, _ :: _) => p.warn s!"{word}: not completely converted"
  | some (_, []) => if fits then p else p.warn s!"{word}: Numerical result out of range"

/-- Takes an integer. A word that begins with a quote is the number of the character behind it. -/
def takeInteger (p : Printer) (signed : Bool) : Int × Printer :=
  match p.take with
  | (none, p) => (0, p)
  | (some word, p) =>
    match word.toList with
    | '"' :: rest | '\'' :: rest => (((rest.head?.map Char.toNat).getD 0 : Nat), p)
    | text =>
      let found := leadingInteger? none text
      let n := (found.map Prod.fst).getD 0
      let bound : Int := 0x10000000000000000
      let fits := if signed then fitsInteger n else decide (n.natAbs < bound)
      let n :=
        if signed then (nearestInteger n).toInt
        else if fits then n % bound else bound - 1
      (n, p.check word found fits)

/-- Takes a floating-point number. -/
def takeFloat (p : Printer) : Binary64 × Printer :=
  match p.take with
  | (none, p) => (.zero false, p)
  | (some word, p) =>
    match word.toList with
    | '"' :: rest | '\'' :: rest => (.ofInt ((rest.head?.map Char.toNat).getD 0), p)
    | text =>
      let found := leadingFloat? text
      ((found.map Prod.fst).getD (.zero false), p.check word found true)

/-- Takes a width or a precision: digits, or an asterisk for a word. -/
def takeSize (p : Printer) (format : List Char) : Int × Printer × List Char :=
  match format with
  | '*' :: rest =>
    let (n, p) := p.takeInteger true
    (n, p, rest)
  | _ =>
    let digits := leadingDigits 10 format
    (numberOf 10 digits, p, format.drop digits.length)

/-- Carries out a directive behind its sign, and gives what follows it. -/
def directive (p : Printer) (format : List Char) : Printer × List Char :=
  let flags := format.takeWhile fun c => ['#', '-', '+', ' ', '0'].contains c
  let (width, p, rest) := p.takeSize (format.drop flags.length)
  let flags := if width < 0 then '-' :: flags else flags
  let (precision, p, rest) := match rest with
    | '.' :: rest =>
      let (n, p, rest) := p.takeSize rest
      (if n < 0 then none else some n.toNat, p, rest)
    | _ => ((none : Option Nat), p, rest)
  let d : Directive := ⟨flags, width.natAbs, precision⟩
  match rest with
  | [] => ({ p with refusal := some "missing format character" }, [])
  | c :: rest =>
    if c = 's' then
      let (word, p) := p.take
      (p.write (d.text (word.getD "").toList), rest)
    else if c = 'b' then
      let (word, p) := p.take
      let (text, ended) := withEscapes (word.getD "")
      let p := p.write (d.text text)
      (if ended then { p with stopped := true } else p, rest)
    else if c = 'c' then
      let (word, p) := p.take
      (p.write (d.pad [((word.getD "").toList.head?).getD '\x00']), rest)
    else if c = 'd' || c = 'i' then
      let (n, p) := p.takeInteger true
      (p.write (d.signed n), rest)
    else if ['o', 'u', 'x', 'X'].contains c then
      let (n, p) := p.takeInteger false
      (p.write (d.unsigned c n.toNat), rest)
    else if ['e', 'E', 'f', 'F', 'g', 'G'].contains c then
      let (x, p) := p.takeFloat
      (p.write (d.float c x), rest)
    else
      let text := '%' :: format.take (format.length - rest.length)
      ({ p with refusal := some s!"{String.ofList text}: invalid directive" }, rest)

/-- Uses a format once. -/
def fill : Nat → List Char → Printer → Printer
  | 0, _, p => p
  | _ + 1, [], p => p
  | fuel + 1, c :: rest, p =>
    if p.isOver then p
    else if c = '\\' then
      let (d, behind) := formatEscape rest
      fill fuel behind (p.write [d])
    else if c = '%' then
      match rest with
      | '%' :: behind => fill fuel behind (p.write ['%'])
      | _ =>
        let (p, behind) := p.directive rest
        fill fuel behind p
    else fill fuel rest (p.write [c])

/-- Uses a format until no words are left, at least once. -/
def fillAll (format : List Char) : Nat → Printer → Printer
  | 0, p => p
  | fuel + 1, p =>
    let next := fill (format.length + 1) format p
    if next.isOver || next.words.isEmpty || next.words.length = p.words.length then next
    else fillAll format fuel next

end Printer

/-- Writes words in a format. -/
def printWords (format : String) (words : List String) : Printer :=
  Printer.fillAll format.toList (words.length + 1) { words }

end ScenarioRunner.Shell

import ScenarioRunner.Binary64.Elementary
import ScenarioRunner.Shell.Utility.Awk.Reader
import ScenarioRunner.Shell.Utility.Lines

/-!
# Values of scripts

A value is a number or a text, and each can be used as the other. Text from the input counts as a
number where it looks like one.
-/

set_option autoImplicit false

namespace ScenarioRunner.Shell.Awk

/-- A value. -/
inductive Cell where
  | unset
  | number (x : Binary64)
  | text (content : List Char)
  /-- Text from outside, a number if it looks like one. -/
  | input (content : List Char)

instance : Inhabited Cell := ⟨.unset⟩

/-! ## Numbers -/

/-- The number at the start of a text, and what follows it. -/
def leadingNumber (text : List Char) : Option (Binary64 × List Char) :=
  let body := text.dropWhile isSpaceChar
  let sign := match body with
    | '-' :: _ | '+' :: _ => 1
    | _ => 0
  let digits := numberLength (body.drop sign)
  if digits = 0 then
    let lower := ((body.drop sign).take 3).map Char.toLower
    let named (x : Binary64) : Option (Binary64 × List Char) :=
      some (if body.head? = some '-' then x.neg else x, body.drop (sign + 3))
    if lower = "inf".toList then named (.infinity false)
    else if lower = "nan".toList then named .nan
    else none
  else some (numberOfText (body.take (sign + digits)), body.drop (sign + digits))

/-- Whether a text looks like a number, but for blanks around it. -/
def looksNumeric (text : List Char) : Bool :=
  (leadingNumber text).any fun (_, behind) => behind.all isSpaceChar

/-- The integer that a number is cut to. -/
def wholePart (x : Binary64) : Int :=
  if x.isNaN then -greatestInteger - 1
  else
    let n : Int := (x.magnitude / Binary64.unitsPerOne : Nat)
    if x.negative then -n else n

/-- The number of an operation. Numbers that are not finite are not left by any of them. -/
def Operation.apply (operation : Operation) (x y : Binary64) : Binary64 :=
  let finite := x.isFinite && y.isFinite
  let isZero (x : Binary64) : Bool := x.magnitude = 0
  match operation with
  | .add => add x y
  | .subtract => add x y.neg
  | .multiply =>
    if finite then x.mul y
    else if x.isNaN || y.isNaN || isZero x || isZero y then .nan
    else .infinity (x.negative != y.negative)
  | .divide =>
    if x.isNaN || y.isNaN then .nan
    else if isZero y then if isZero x then Binary64.nan.neg else .infinity (x.negative != y.negative)
    else if finite then x.div y
    else if !x.isFinite && !y.isFinite then .nan
    else if x.isFinite then .zero (x.negative != y.negative)
    else .infinity (x.negative != y.negative)
  | .remainder => x.remainder y
  | .power => x.pow y
where
  /-- A sum. -/
  add (x y : Binary64) : Binary64 :=
    if x.isFinite && y.isFinite then x.add y
    else if x.isNaN then x
    else if y.isNaN then y
    else if x.isFinite then y
    else if y.isFinite || x.negative = y.negative then x
    else .nan

namespace Cell

/-- The number that a value counts as. -/
def toNumber : Cell → Binary64
  | .unset => .zero false
  | .number x => x
  | .text content | .input content => ((leadingNumber content).map Prod.fst).getD (.zero false)

/-- The text of a number, in a format if it is no integer. -/
def numberText (format : List Char → Binary64 → List Char) (style : List Char) (x : Binary64) :
    List Char :=
  match x.whole? with
  | some n => if fitsInteger n then (toString n).toList else format style x
  | none => format style x

/-- A number in a format of its own, which is a directive with text around it. -/
def formatted (style : List Char) (x : Binary64) : List Char :=
  let before := style.takeWhile (· ≠ '%')
  match style.drop before.length with
  | '%' :: rest =>
    let flags := rest.takeWhile fun c => ['#', '-', '+', ' ', '0'].contains c
    let rest := rest.drop flags.length
    let width := leadingDigits 10 rest
    let rest := rest.drop width.length
    let (precision, rest) := match rest with
      | '.' :: rest =>
        let digits := leadingDigits 10 rest
        (some (numberOf 10 digits), rest.drop digits.length)
      | rest => ((none : Option Nat), rest)
    let directive : Directive := ⟨flags, numberOf 10 width, precision⟩
    match rest with
    | c :: rest =>
      let text := if c = 'd' || c = 'i' then directive.signed (wholePart x) else directive.float c x
      before ++ text ++ rest
    | [] => before
  | _ => before

/-- The text that a value counts as, given the format for numbers. -/
def toText (style : List Char) : Cell → List Char
  | .unset => []
  | .number x => numberText formatted style x
  | .text content | .input content => content

/-- Whether a value counts as a number where values are compared. -/
def isNumeric : Cell → Bool
  | .unset | .number _ => true
  | .text _ => false
  | .input content => looksNumeric content

/-- Whether a value counts as true. -/
def holds : Cell → Bool
  | .unset => false
  | .number x => x.magnitude ≠ 0
  | .text content => !content.isEmpty
  | .input content =>
    if looksNumeric content then (toNumber (.input content)).magnitude ≠ 0 else !content.isEmpty

/-- The value of a condition. -/
def ofBool (b : Bool) : Cell := .number (.ofInt (if b then 1 else 0))

/-- The value of an integer. -/
def ofInt (n : Int) : Cell := .number (.ofInt n)

/-- Whether a comparison holds of two values. -/
def compares (style : List Char) (comparison : Comparison) (a b : Cell) : Bool :=
  let order : Option Ordering :=
    if a.isNumeric && b.isNumeric then a.toNumber.compare? b.toNumber
    else some (compare (String.ofList (a.toText style)) (String.ofList (b.toText style)))
  match comparison with
  | .less => order == some .lt
  | .lessOrEqual => order == some .lt || order == some .eq
  | .equal => order == some .eq
  | .unequal => order != some .eq
  | .greater => order == some .gt
  | .greaterOrEqual => order == some .gt || order == some .eq

end Cell

/-! ## Formatted output -/

/-- The size in a directive, and what follows it: digits, or an asterisk for a value. -/
def size (arguments : List Cell) (format : List Char) : Int × List Cell × List Char :=
  match format with
  | '*' :: rest => (wholePart ((arguments.head?.getD .unset).toNumber), arguments.drop 1, rest)
  | _ =>
    let digits := leadingDigits 10 format
    (numberOf 10 digits, arguments, format.drop digits.length)

/-- What is wrong with a format. -/
inductive FormatFault where
  | tooFew
  /-- The number of the directive. -/
  | improper (number : Nat)

/-- Writes values in a format. Gives what is written before a fault, and the fault. -/
def fill (style : List Char) :
    Nat → Nat → List Char → List Cell → List Char × Option FormatFault
  | 0, _, _, _ => ([], none)
  | _ + 1, _, [], _ => ([], none)
  | fuel + 1, number, c :: rest, arguments =>
    let behind (own : List Char) (found : List Char × Option FormatFault) :=
      (own ++ found.1, found.2)
    if c ≠ '%' then behind [c] (fill style fuel number rest arguments)
    else match rest with
      | '%' :: rest => behind ['%'] (fill style fuel number rest arguments)
      | _ =>
        let flags := rest.takeWhile fun c => ['#', '-', '+', ' ', '0'].contains c
        let (width, arguments, rest) := size arguments (rest.drop flags.length)
        let flags := if width < 0 then '-' :: flags else flags
        let (precision, arguments, rest) := match rest with
          | '.' :: rest =>
            let (n, arguments, rest) := size arguments rest
            (if n < 0 then none else some n.toNat, arguments, rest)
          | _ => ((none : Option Nat), arguments, rest)
        let d : Directive := ⟨flags, width.natAbs, precision⟩
        let rest := rest.dropWhile fun c => c = 'l' || c = 'h'
        match rest with
        | [] => ([], some (.improper number))
        | c :: rest =>
          if !"csdiouxXeEfFgG".toList.contains c then ([], some (.improper number))
          else match arguments with
            | [] => ([], some .tooFew)
            | cell :: arguments =>
              behind (text style d c cell) (fill style fuel (number + 1) rest arguments)
where
  /-- A value as a directive writes it. -/
  text (style : List Char) (d : Directive) (c : Char) (cell : Cell) : List Char :=
    let whole := wholePart cell.toNumber
    if c = 's' then d.text (cell.toText style)
    else if c = 'c' then
      match cell with
      | .number x => d.pad [octetOf (wholePart x % 256).toNat]
      | cell => d.pad ((cell.toText style).take 1)
    else if c = 'd' || c = 'i' then
      if cell.toNumber.isFinite && fitsInteger whole then d.signed whole
      else { d with precision := some 0 }.float 'f' cell.toNumber
    else if ['o', 'u', 'x', 'X'].contains c then
      let bound : Int := 0x10000000000000000
      d.unsigned c (whole % bound).toNat
    else d.float c cell.toNumber

/-! ## Substitutions -/

/-- What takes the place of a match: the match stands for each ampersand. -/
def replacement (found : List Char) : List Char → List Char
  | '\\' :: '&' :: rest => '&' :: replacement found rest
  | '\\' :: '\\' :: rest => '\\' :: replacement found rest
  | '&' :: rest => found ++ replacement found rest
  | c :: rest => c :: replacement found rest
  | [] => []

/-- Replaces matches from a place on. Gives the text from there and the count of the matches. -/
def substitute (regex : Regex) (subject : Regex.Subject) (new : List Char) (isGlobal : Bool)
    (afterMatch : Bool) : Nat → Nat → List Char × Nat
  | 0, place => (subject.slice place subject.text.size, 0)
  | fuel + 1, place =>
    match regex.find? subject place with
    | none => (subject.slice place subject.text.size, 0)
    | some (start, m) =>
      let before := subject.slice place start
      if m.place = start && afterMatch && start = place then
        -- no empty match right behind another one
        match subject.text[place]? with
        | none => ([], 0)
        | some c =>
          let (rest, count) := substitute regex subject new isGlobal false fuel (place + 1)
          (c :: rest, count)
      else
        let own := replacement (subject.slice start m.place) new
        if !isGlobal then (before ++ own ++ subject.slice m.place subject.text.size, 1)
        else if m.place = start then
          match subject.text[start]? with
          | none => (before ++ own, 1)
          | some c =>
            let (rest, count) := substitute regex subject new isGlobal false fuel (start + 1)
            (before ++ own ++ c :: rest, count + 1)
        else
          let (rest, count) := substitute regex subject new isGlobal true fuel m.place
          (before ++ own ++ rest, count + 1)

/-! ## Fields -/

/-- How a text is cut into fields. -/
inductive Separator where
  /-- At blanks, those at both ends left out. -/
  | blanks
  /-- Between all characters. -/
  | none
  | char (c : Char)
  | regex (regex : Regex)

/-- Cuts a text at blanks. -/
def blankFields (text : List Char) : List (List Char) :=
  go (text.length + 1) text
where
  /-- The fields of a text. -/
  go : Nat → List Char → List (List Char)
    | 0, _ => []
    | fuel + 1, text =>
      match text.dropWhile isSpaceChar with
      | [] => []
      | rest =>
        let field := rest.takeWhile fun c => !isSpaceChar c
        field :: go fuel (rest.drop field.length)

/-- Cuts a text at the matches of an expression that are not empty. -/
def regexFields (regex : Regex) (subject : Regex.Subject) : Nat → Nat → Nat → List (List Char)
  | 0, first, _ => [subject.slice first subject.text.size]
  | fuel + 1, first, place =>
    match regex.find? subject place with
    | none => [subject.slice first subject.text.size]
    | some (start, m) =>
      if m.place = start then
        if subject.text.size ≤ start then [subject.slice first subject.text.size]
        else regexFields regex subject fuel first (start + 1)
      else subject.slice first start :: regexFields regex subject fuel m.place m.place

/-- The fields of a text. -/
def Separator.fields (separator : Separator) (text : List Char) : List (List Char) :=
  match separator with
  | .blanks => blankFields text
  | .none => text.map fun c => [c]
  | .char c => if text.isEmpty then [] else Utility.splitAt c text
  | .regex found =>
    if text.isEmpty then [] else regexFields found ⟨text.toArray, false⟩ (text.length + 1) 0 0

end ScenarioRunner.Shell.Awk

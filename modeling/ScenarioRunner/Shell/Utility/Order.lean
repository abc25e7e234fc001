import ScenarioRunner.Shell.Utility.Lines

/-!
# Lines in order

Lines are compared by keys, one after the other. A key is a part of a line, from a character of a
field to a character of a field, and is compared as text, as a number, or as a version. Lines that
no key tells apart are compared as a whole, unless they are to stay in the order of the input.
-/

set_option autoImplicit false

namespace ScenarioRunner.Shell.Utility

open Act

/-- Whether a character separates fields when nothing else does. -/
def isBlankChar (c : Char) : Bool := c = ' ' || c = '\t'

/-- A text from its first character on that is no blank. -/
def withoutBlanks (text : List Char) : List Char := text.dropWhile isBlankChar

/-! ## Measures -/

/-- A number at the start of a text: whether it is negative, and its digits before the point and
behind it. -/
def leadingDecimal (text : List Char) : Bool × List Char × List Char :=
  let (negative, body) := match withoutBlanks text with
    | '-' :: rest => (true, rest)
    | body => (false, body)
  let whole := leadingDigits 10 body
  let fraction := match body.drop whole.length with
    | '.' :: rest => leadingDigits 10 rest
    | _ => []
  (negative, whole, fraction)

/-- The order of the numbers at the start of two texts. -/
def compareNumbers (a b : List Char) : Ordering :=
  let (negativeA, wholeA, fractionA) := leadingDecimal a
  let (negativeB, wholeB, fractionB) := leadingDecimal b
  let places := max fractionA.length fractionB.length
  let scaled (negative : Bool) (whole fraction : List Char) : Int :=
    let n : Int := numberOf 10 (whole ++ fraction ++ List.replicate (places - fraction.length) '0')
    if negative then -n else n
  compare (scaled negativeA wholeA fractionA) (scaled negativeB wholeB fractionB)

/-- The place of the floating-point number at the start of a text among all of them. Texts without
one come first, then those that are not a number. -/
def generalRank (text : List Char) : Nat × Int :=
  match leadingFloat? text with
  | none => (0, 0)
  | some (x, _) =>
    if x.isNaN then (1, 0)
    else if !x.isFinite then (if x.negative then 2 else 4, 0)
    else (3, if x.negative then -(x.magnitude : Int) else x.magnitude)

/-- The place of a number with the letter of a unit behind it: first its sign, then the unit. -/
def humanRank (text : List Char) : Int :=
  let (negative, whole, fraction) := leadingDecimal text
  let behind := (withoutBlanks text).drop
    ((if negative then 1 else 0) + whole.length + if fraction.isEmpty then 0 else fraction.length + 1)
  let unit : Int := match behind with
    | c :: _ => ((if c = 'k' then "K" else String.singleton c).toList.head?.bind fun c =>
        "KMGTPEZY".toList.findIdx? (· = c)).elim 0 fun n => n + 1
    | [] => 0
  if (whole ++ fraction).all (· = '0') then 0 else if negative then -(unit + 1) else unit + 1

/-- The number of the month whose short name a text begins with, or zero. -/
def monthRank (text : List Char) : Nat :=
  let name := String.ofList (((withoutBlanks text).take 3).map Char.toUpper)
  (["JAN", "FEB", "MAR", "APR", "MAY", "JUN", "JUL", "AUG", "SEP", "OCT", "NOV", "DEC"].findIdx?
    (· = name)).elim 0 (· + 1)

/-- The place of a character of a version that is no digit. The end comes before letters. -/
def versionRank : List Char → Int
  | [] => -1
  | c :: _ =>
    if c.isDigit then 0 else if c.isAlpha then c.toNat else if c = '~' then -2 else c.toNat + 256

/-- The order of two versions: parts without digits by their characters, parts with digits as
numbers. -/
def compareVersions : Nat → List Char → List Char → Ordering
  | 0, _, _ => .eq
  | _ + 1, [], [] => .eq
  | fuel + 1, a, b =>
    let isText (text : List Char) := text.head?.any (!·.isDigit)
    if isText a || isText b then
      (compare (versionRank a) (versionRank b)).then (compareVersions fuel a.tail b.tail)
    else
      let digitsA := leadingDigits 10 a
      let digitsB := leadingDigits 10 b
      (compare (numberOf 10 digitsA) (numberOf 10 digitsB)).then
        (compareVersions fuel (a.drop digitsA.length) (b.drop digitsB.length))

/-- How the parts of lines are compared. -/
inductive Measure where
  | text
  | number
  | general
  | human
  | month
  | version
  deriving DecidableEq

namespace Measure

/-- The measure that a letter stands for. -/
def ofLetter? : Char → Option Measure
  | 'n' => some .number
  | 'g' => some .general
  | 'h' => some .human
  | 'M' => some .month
  | 'V' => some .version
  | _ => none

/-- The order of two texts. -/
def compare (measure : Measure) (a b : List Char) : Ordering :=
  match measure with
  | .text => Ord.compare (String.ofList a) (String.ofList b)
  | .number => compareNumbers a b
  | .general =>
    let (kindA, valueA) := generalRank a
    let (kindB, valueB) := generalRank b
    (Ord.compare kindA kindB).then (Ord.compare valueA valueB)
  | .human => (Ord.compare (humanRank a) (humanRank b)).then (compareNumbers a b)
  | .month => Ord.compare (monthRank a) (monthRank b)
  | .version => compareVersions (a.length + b.length + 1) a b

end Measure

/-! ## Keys -/

/-- A place in a line: behind some fields, some characters on, with or without the blanks before. -/
structure FieldPlace where
  fields : Nat
  chars : Nat := 0
  skipsBlanks : Bool := false

/-- A part of a line that is compared, and the letters that say how. -/
structure SortKey where
  first : FieldPlace := { fields := 0 }
  /-- Where the part ends, if not with the line. -/
  last : Option FieldPlace := none
  letters : List Char := []

/-- A line behind some fields. With a separator, the last one is left if that is asked for. -/
def behindFields (separator : Option Char) (leavesLast : Bool) : Nat → List Char → List Char
  | 0, line => line
  | count + 1, line =>
    match separator with
    | some c =>
      let rest := line.dropWhile (· ≠ c)
      behindFields separator leavesLast count (if count = 0 && leavesLast then rest else rest.drop 1)
    | none =>
      behindFields separator leavesLast count
        ((withoutBlanks line).dropWhile fun c => !isBlankChar c)

namespace SortKey

/-- Whether a letter is set. -/
def has (key : SortKey) (letter : Char) : Bool := key.letters.contains letter

/-- How long a line is before the part that a key compares. -/
def start (key : SortKey) (separator : Option Char) (line : List Char) : Nat :=
  let rest := behindFields separator false key.first.fields line
  let rest := if key.first.skipsBlanks then withoutBlanks rest else rest
  line.length - (rest.drop key.first.chars).length

/-- How long a line is up to the end of the part that a key compares. -/
def finish (key : SortKey) (separator : Option Char) (line : List Char) : Nat :=
  match key.last with
  | none => line.length
  | some last =>
    if last.chars = 0 then line.length - (behindFields separator true last.fields line).length
    else
      let rest := behindFields separator false (last.fields - 1) line
      let rest := if last.skipsBlanks then withoutBlanks rest else rest
      line.length - (rest.drop last.chars).length

/-- The part of a line that a key compares. -/
def part (key : SortKey) (separator : Option Char) (line : List Char) : List Char :=
  let found := (line.take (key.finish separator line)).drop (key.start separator line)
  let found := if key.has 'd' then found.filter fun c => isBlankChar c || c.isAlphanum else found
  let found := if key.has 'i' then found.filter fun c => 32 ≤ c.toNat && c.toNat < 127 else found
  if key.has 'f' then found.map Char.toUpper else found

/-- The order of two lines by a key. -/
def compare (key : SortKey) (separator : Option Char) (a b : List Char) : Ordering :=
  let measure := (key.letters.findSome? Measure.ofLetter?).getD .text
  let order := measure.compare (key.part separator a) (key.part separator b)
  if key.has 'r' then order.swap else order

end SortKey

/-- The letters of keys. -/
def keyLetters : List Char := "bdfgiMhnRrV".toList

/-- A count at the start of a text, or the reason why there is none. -/
def keyCount (place : String) (text : List Char) : Except String (Nat × List Char) :=
  let digits := leadingDigits 10 text
  if digits.isEmpty then
    .error (s!"invalid number {place}: invalid count at start of " ++ quotedName (String.ofList text))
  else .ok (numberOf 10 digits, text.drop digits.length)

/-- A place in a line from its written form, with the letters behind it and what follows them. -/
def fieldPlace (isLast : Bool) (all : String) (text : List Char) :
    Except String (FieldPlace × List Char × List Char) := do
  let invalid (reason : String) : String := s!"{reason}: invalid field specification " ++ quotedName all
  let (field, rest) ← keyCount (if isLast then "after ','" else "at field start") text
  if field = 0 then .error (invalid "field number is zero")
  else
    let (chars, rest) ← match rest with
      | '.' :: behind => keyCount "after '.'" behind
      | _ => .ok (if isLast then 0 else 1, rest)
    if chars = 0 && !isLast then .error (invalid "character offset is zero")
    else
      let letters := rest.takeWhile keyLetters.contains
      let behind := rest.drop letters.length
      let chars := if isLast then chars else chars - 1
      let fields := if isLast then field else field - 1
      .ok (⟨fields, chars, letters.contains 'b'⟩, letters, behind)

/-- A key from its written form. One without letters has those of the whole call. -/
def sortKey (shared : List Char) (text : String) : Except String SortKey := do
  let stray : String := "stray character in field spec: invalid field specification " ++ quotedName text
  let (first, letters, rest) ← fieldPlace false text text.toList
  let complete (key : SortKey) : SortKey :=
    if key.letters.isEmpty then
      let skips := shared.contains 'b'
      { first := { key.first with skipsBlanks := skips }
        last := key.last.map fun last => { last with skipsBlanks := skips }
        letters := shared }
    else key
  match rest with
  | [] => return complete { first, letters }
  | ',' :: rest =>
    let (last, more, rest) ← fieldPlace true text rest
    if rest.isEmpty then return complete { first, last := some last, letters := letters ++ more }
    else .error stray
  | _ => .error stray

/-! ## Sorting -/

/-- Drops lines that are equal to the one before. -/
def dropRepeated (same : List Char → List Char → Bool) : List (List Char) → List (List Char)
  | [] => []
  | [line] => [line]
  | a :: b :: rest =>
    if same a b then dropRepeated same (a :: rest) else a :: dropRepeated same (b :: rest)
termination_by lines => lines.length

/-- The separator of fields that is asked for. -/
def separatorOf : Option String → Act (Option Char)
  | none => return none
  | some "\\0" => return some '\x00'
  | some text =>
    match text.toList with
    | [] => refuse 2 "empty tab"
    | [c] => return some c
    | _ => refuse 2 s!"multi-character tab {quotedName text}"

/-- How lines are compared. -/
structure LineOrder where
  separator : Option Char
  keys : List SortKey
  /-- Whether lines that no key tells apart are compared as a whole. -/
  comparesWhole : Bool
  /-- Whether lines as a whole are compared the other way round. -/
  reversed : Bool

namespace LineOrder

/-- The order of two lines by all keys. -/
def byKeys (order : LineOrder) (a b : List Char) : Ordering :=
  order.keys.foldl (fun found key => found.then (key.compare order.separator a b)) .eq

/-- The order of two lines. -/
def compare (order : LineOrder) (a b : List Char) : Ordering :=
  let whole := if order.comparesWhole then Measure.text.compare a b else .eq
  (order.byKeys a b).then (if order.reversed then whole.swap else whole)

end LineOrder

/-- Writes lines in order. -/
def sort : Utility := fun words => do
  let (chosen, words) ← options
    { letters := "bcCdfgihk:Mmno:RrsS:t:T:uVz", failure := 2
      words := [("reverse", 'r'), ("numeric-sort", 'n'), ("unique", 'u'), ("key", 'k'),
        ("field-separator", 't'), ("ignore-case", 'f'), ("stable", 's'), ("output", 'o'),
        ("check", 'c'), ("human-numeric-sort", 'h'), ("version-sort", 'V'), ("month-sort", 'M'),
        ("general-numeric-sort", 'g'), ("ignore-leading-blanks", 'b'), ("dictionary-order", 'd'),
        ("merge", 'm'), ("zero-terminated", 'z')] } words
  let shared := (chosen.options.map Prod.fst).filter keyLetters.contains
  let keys ← (chosen.options.filter (·.1 = 'k')).mapM fun (_, text) => do
    match sortKey shared text with
    | .ok key => return key
    | .error reason => refuse 2 reason
  let separator ← separatorOf (chosen.get? 't')
  let whole : SortKey :=
    { first := { fields := 0, skipsBlanks := shared.contains 'b' }, letters := shared }
  let isUnique := chosen.has 'u'
  let order : LineOrder :=
    { separator, keys := if keys.isEmpty then [whole] else keys
      comparesWhole := !chosen.has 's' && !isUnique, reversed := shared.contains 'r' }
  if (chosen.has 'c' || chosen.has 'C') && 1 < words.length then
    let extra := (words[1]?).getD ""
    let letter := if chosen.has 'c' then "c" else "C"
    refuse 2 s!"extra operand {quotedName extra} not allowed with -{letter}"
  let all ← (if words.isEmpty then ["-"] else words).foldlM (fun all word => do
    match ← content word with
    | .ok bytes =>
      let isOpen := !bytes.isEmpty && bytes.getLast? != some 0x0A
      return all ++ bytes ++ (if isOpen then [0x0A] else [])
    | .error e =>
      let what := if e = .isDirectory then "read failed" else "cannot read"
      refuse 2 s!"{what}: {shownName word}: {e.summary}") []
  let lines := textLines all
  if chosen.has 'c' || chosen.has 'C' then
    let pairs := lines.zip (lines.drop 1)
    match (pairs.zip (List.range pairs.length)).find? fun ((a, b), _) =>
        if isUnique then order.byKeys a b != .lt else order.compare a b = .gt with
    | some ((_, b), n) =>
      if chosen.has 'C' then Act.finish 1
      else
        let name := words.headD "-"
        refuse 1 s!"{name}:{n + 2}: disorder: {String.ofList b}"
    | none => pure ()
  else
    let sorted := lines.mergeSort fun a b => order.compare a b != .gt
    let sorted := if isUnique then dropRepeated (fun a b => order.byKeys a b = .eq) sorted else sorted
    let text := String.join (sorted.map lineText)
    match chosen.get? 'o' with
    | some path =>
      match ← save path false (Octets.toBytes text.toList) with
      | .ok _ => pure ()
      | .error e => refuse 2 s!"open failed: {shownName path}: {e.summary}"
    | none => print text

/-! ## Lines that follow each other -/

/-- Lines that follow each other and are equal. -/
def runsOf (same : List Char → List Char → Bool) : List (List Char) → List (List (List Char))
  | [] => []
  | line :: rest =>
    match runsOf same rest with
    | (next :: others) :: runs =>
      if same line next then (line :: next :: others) :: runs else [line] :: (next :: others) :: runs
    | runs => [line] :: runs

/-- Writes lines without those that are equal to the one before. -/
def uniq : Utility := fun words => do
  let (chosen, words) ← options
    { letters := "cdDiuf:s:w:z"
      words := [("count", 'c'), ("repeated", 'd'), ("unique", 'u'), ("ignore-case", 'i'),
        ("skip-fields", 'f'), ("skip-chars", 's'), ("check-chars", 'w')] } words
  let size (letter : Char) (what : String) : Act (Option Nat) := do
    match chosen.get? letter with
    | none => return none
    | some text =>
      match text.toNat? with
      | some n => return some n
      | none => refuse 1 s!"{text}: invalid number of {what}"
  let fields := (← size 'f' "fields to skip").getD 0
  let chars := (← size 's' "bytes to skip").getD 0
  let most ← size 'w' "bytes to compare"
  match words with
  | _ :: _ :: extra :: _ => refuseUsage 1 s!"extra operand {quotedName extra}"
  | _ => pure ()
  match ← content (words.headD "-") with
  | .error e => refuse 1 (plainDescription (words.headD "-") e)
  | .ok bytes =>
    let view (line : List Char) : List Char :=
      let rest := (behindFields none false fields line).drop chars
      let rest := most.elim rest rest.take
      if chosen.has 'i' then rest.map Char.toUpper else rest
    let runs := runsOf (fun a b => view a == view b) (textLines bytes)
    let runs := if chosen.has 'd' || chosen.has 'D' then runs.filter (1 < ·.length) else runs
    let runs := if chosen.has 'u' then runs.filter (·.length = 1) else runs
    let text := String.join (runs.map fun run =>
      if chosen.has 'D' then String.join (run.map lineText)
      else
        (if chosen.has 'c' then padLeft 7 (toString run.length) ++ " " else "")
          ++ lineText (run.headD []))
    match words with
    | [_, path] =>
      match ← save path false (Octets.toBytes text.toList) with
      | .ok _ => pure ()
      | .error e => refuse 1 (plainDescription path e)
    | _ => print text

end ScenarioRunner.Shell.Utility

import ScenarioRunner.Shell.Printf
import ScenarioRunner.Shell.Utility.Basic

/-!
# Programs on lines

Programs that write what they read line by line: some of the lines, or all of them in another order
or form.
-/

set_option autoImplicit false

namespace ScenarioRunner.Shell.Utility

open Act

/-- The text of a line with its break. -/
def lineText (line : List Char) : String := String.ofList (line ++ ['\n'])

/-- A number at the right end of a field. -/
def padLeft (width : Nat) (text : String) : String :=
  String.ofList (List.replicate (width - text.length) ' ') ++ text

/-! ## Whole files -/

/-- Writes the contents of files one after the other. -/
def cat : Utility := fun words => do
  let (chosen, words) ← options
    { letters := "AbeEnstTuv"
      words := [("number", 'n'), ("number-nonblank", 'b'), ("show-ends", 'E'),
        ("squeeze-blank", 's'), ("show-tabs", 'T'), ("show-all", 'A')] } words
  let ends := chosen.has 'E' || chosen.has 'A' || chosen.has 'e'
  let tabs := chosen.has 'T' || chosen.has 'A' || chosen.has 't'
  if chosen.options.isEmpty then
    forContents words 1 plainDescription fun _ bytes => write bytes
  else
    let all ← allContents words 1 plainDescription
    let _ ← (linesOf all).foldlM (fun (number, wasBlank) line => do
      let isBlank := line = [0x0A]
      if chosen.has 's' && isBlank && wasBlank then return (number, true)
      else
        let counts := if chosen.has 'b' then !isBlank else chosen.has 'n'
        if counts then print (padLeft 6 (toString number) ++ "\t")
        let text := Octets.ofBytes line
        let text := if tabs then text.flatMap fun c => if c = '\t' then ['^', 'I'] else [c] else text
        let text := if ends then text.flatMap fun c => if c = '\n' then ['$', '\n'] else [c] else text
        print (String.ofList text)
        return (if counts then number + 1 else number, isBlank)) (1, false)

/-- Writes lines in reverse order. -/
def tac : Utility := fun words =>
  forContents words 1
    (fun word e => s!"failed to open {quotedName word} for reading: {e.summary}")
    fun _ bytes => write (linesOf bytes).reverse.flatten

/-- Writes lines in which the characters are in reverse order. -/
def rev : Utility := fun words =>
  forContents words 1 (fun word e => s!"cannot open {word}: {e.summary}") fun _ bytes =>
    (linesOf bytes).forM fun line =>
      if line.getLast? = some 0x0A then write (line.dropLast.reverse ++ [0x0A]) else write line.reverse

/-- Writes the input, also into files. -/
def tee : Utility := fun words => do
  let (chosen, words) ← options { letters := "ai", words := [("append", 'a')] } words
  match ← content "-" with
  | .ok bytes =>
    words.forM fun word => do
      match ← save word (chosen.has 'a') bytes with
      | .ok _ => pure ()
      | .error e => complain 1 s!"{shownName word}: {e.summary}"
    write bytes
  | .error _ => pure ()

/-! ## Parts of files -/

/-- Writes a title before the content of one of several files. -/
def title (several : Bool) (isFirst : Bool) (word : String) : Act Unit := do
  if several then
    let name := if word = "-" then "standard input" else word
    print ((if isFirst then "" else "\n") ++ s!"==> {name} <==\n")

/-- Does something for every operand, with titles if there are several. -/
def forTitled (chosen : Chosen) (words : List String) (step : Bytes → Act Unit) : Act Unit := do
  let several := (1 < words.length && !chosen.has 'q') || chosen.has 'v'
  let _ ← (if words.isEmpty then ["-"] else words).foldlM (fun isFirst word => do
    match ← content word with
    | .ok bytes =>
      title several isFirst word
      step bytes
      return false
    | .error e =>
      complain 1 (openDescription word e)
      return isFirst) true

/-- The words of a call in which a number alone stands for an option. -/
def withNumber (words : List String) : List String :=
  match words with
  | first :: rest =>
    match first.toList with
    | '-' :: digits =>
      if !digits.isEmpty && digits.all Char.isDigit then
        "-n" :: String.ofList digits :: rest
      else words
    | _ => words
  | [] => []

/-- A count with an optional sign, and the size of a unit behind it. -/
def count? (text : String) : Option (Option Char × Nat) :=
  let (sign, body) := match text.toList with
    | '-' :: rest => (some '-', rest)
    | '+' :: rest => (some '+', rest)
    | body => (none, body)
  let digits := leadingDigits 10 body
  let unit := match body.drop digits.length with
    | [] => some 1
    | ['b'] => some 512
    | ['k'] | ['K'] => some 1024
    | ['k', 'B'] => some 1000
    | ['m'] | ['M'] => some 1048576
    | _ => none
  if digits.isEmpty then none else unit.map fun unit => (sign, numberOf 10 digits * unit)

/-- The count that an option asks for. -/
def countOf (text unit : String) : Act (Option Char × Nat) :=
  match count? text with
  | some found => return found
  | none => refuse 1 s!"invalid number of {unit}: {quotedName text}"

/-- The options of the programs that write parts of files. -/
def partOptions : OptionTable :=
  { letters := "n:c:qvfF"
    words := [("lines", 'n'), ("bytes", 'c'), ("quiet", 'q'), ("silent", 'q'), ("verbose", 'v'),
      ("follow", 'f')] }

/-- Writes the first lines or bytes of files. -/
def head : Utility := fun words => do
  let (chosen, words) ← options partOptions (withNumber words)
  match chosen.get? 'c' with
  | some text =>
    let (sign, n) ← countOf text "bytes"
    forTitled chosen words fun bytes =>
      write (bytes.take (if sign = some '-' then bytes.length - n else n))
  | none =>
    let (sign, n) ← countOf ((chosen.get? 'n').getD "10") "lines"
    forTitled chosen words fun bytes =>
      let lines := linesOf bytes
      write (lines.take (if sign = some '-' then lines.length - n else n)).flatten

/-- Writes the last lines or bytes of files, or those from a number on. -/
def tail : Utility := fun words => do
  let words := match words with
    | first :: rest =>
      match first.toList with
      | '+' :: digits =>
        if !digits.isEmpty && digits.all Char.isDigit then "-n" :: first :: rest else withNumber words
      | _ => withNumber words
    | [] => []
  let (chosen, words) ← options partOptions words
  match chosen.get? 'c' with
  | some text =>
    let (sign, n) ← countOf text "bytes"
    forTitled chosen words fun bytes =>
      write (bytes.drop (if sign = some '+' then n - 1 else bytes.length - n))
  | none =>
    let (sign, n) ← countOf ((chosen.get? 'n').getD "10") "lines"
    forTitled chosen words fun bytes =>
      let lines := linesOf bytes
      write (lines.drop (if sign = some '+' then n - 1 else lines.length - n)).flatten
  if chosen.has 'f' || chosen.has 'F' then spend forever

/-! ## Counts -/

/-- What is counted in a file. -/
structure Counts where
  lines : Nat := 0
  words : Nat := 0
  bytes : Nat := 0
  longest : Nat := 0

/-- The count of words between blanks. -/
def countWords : Bool → Bytes → Nat
  | _, [] => 0
  | inWord, b :: rest =>
    if isSpaceChar (Char.ofNat b.toNat) then countWords false rest
    else (if inWord then 0 else 1) + countWords true rest

/-- What is counted in some bytes. -/
def Counts.of (bytes : Bytes) : Counts :=
  { lines := bytes.count 0x0A, words := countWords false bytes, bytes := bytes.length
    longest := (textLines bytes).foldl (fun n line => max n line.length) 0 }

/-- Counts lines, words and bytes. -/
def wc : Utility := fun words => do
  let (chosen, words) ← options
    { letters := "clLmw"
      words := [("lines", 'l'), ("words", 'w'), ("bytes", 'c'), ("chars", 'm'),
        ("max-line-length", 'L')] } words
  let isDefault := chosen.options.isEmpty
  let shown (c : Counts) : List Nat :=
    (if isDefault || chosen.has 'l' then [c.lines] else [])
      ++ (if isDefault || chosen.has 'w' then [c.words] else [])
      ++ (if chosen.has 'm' then [c.bytes] else [])
      ++ (if isDefault || chosen.has 'c' then [c.bytes] else [])
      ++ (if chosen.has 'L' then [c.longest] else [])
  let call ← read
  let sizes ← (if words.isEmpty then ["-"] else words).mapM fun word => do
    if word = "-" then return if call.readsFile then some call.input.length else none
    else match ← look word with
      | .ok (.file bytes) => return some bytes.length
      | .ok _ => return none
      | .error _ => return some 0
  let columns := (shown {}).length
  let width :=
    if words.length ≤ 1 && columns ≤ 1 then 1
    else if sizes.contains none then 7
    else (toString ((sizes.filterMap id).foldl (· + ·) 0)).length
  let printCounts (c : Counts) (name : String) : Act Unit :=
    let text := String.intercalate " " ((shown c).map fun n => padLeft width (toString n))
    printLine (if name.isEmpty then text else s!"{text} {name}")
  let total ← (if words.isEmpty then [""] else words).foldlM (fun (total : Counts) word => do
    match ← content (if word.isEmpty then "-" else word) with
    | .ok bytes =>
      let c := Counts.of bytes
      printCounts c word
      return ⟨total.lines + c.lines, total.words + c.words, total.bytes + c.bytes,
        max total.longest c.longest⟩
    | .error e =>
      complain 1 (plainDescription word e)
      if e = .isDirectory then printCounts {} word
      return total) {}
  if 1 < words.length then printCounts total "total"

/-- Writes lines with their numbers. -/
def nl : Utility := fun words => do
  let (chosen, words) ← options { letters := "b:w:s:v:n:" } words
  let all ← allContents words 1 plainDescription
  let isAll := chosen.get? 'b' = some "a"
  let separator := (chosen.get? 's').getD "\t"
  let width := ((chosen.get? 'w').bind String.toNat?).getD 6
  let _ ← (textLines all).foldlM (fun number line => do
    if line.isEmpty && !isAll then
      print (String.ofList (List.replicate (width + separator.length) ' ') ++ "\n")
      return number
    else
      print (padLeft width (toString number) ++ separator ++ lineText line)
      return number + 1) (((chosen.get? 'v').bind String.toNat?).getD 1)

/-! ## Columns -/

/-- A list of ranges as far as it is read. -/
structure RangeReading where
  /-- The ranges, ends included, last first; `none` for the end of the line. -/
  found : List (Nat × Option Nat) := []
  /-- What stands before a dash. -/
  low : Option Nat := none
  /-- Whether there has been a dash. -/
  isRange : Bool := false
  /-- What stands behind a dash, or without one. -/
  digits : List Char := []

/-- Reads a list of ranges of fields, or of characters. -/
def readRanges (isFields : Bool) : List Char → RangeReading → Except String (List (Nat × Option Nat))
  | [], r => do return (← close r).found.reverse
  | c :: rest, r => do
    if c = '-' then
      if r.isRange then
        .error (if isFields then "invalid field range" else "invalid byte or character range")
      else if !r.digits.isEmpty && numberOf 10 r.digits = 0 then .error fromOne
      else
        let low := if r.digits.isEmpty then none else some (numberOf 10 r.digits)
        readRanges isFields rest { r with low, isRange := true, digits := [] }
    else if c = ',' || c = ' ' || c = '\t' then readRanges isFields rest { found := (← close r).found }
    else if c.isDigit then
      let digits := r.digits ++ [c]
      if Nat.pow 2 64 - 1 ≤ numberOf 10 digits then
        let all := quotedName (String.ofList (r.digits ++ c :: rest.takeWhile Char.isDigit))
        .error ((if isFields then "field number " else "byte/character offset ") ++ all
          ++ " is too large")
      else readRanges isFields rest { r with digits }
    else
      let all := quotedName (String.ofList (c :: rest))
      .error ((if isFields then "invalid field value " else "invalid byte/character position ") ++ all)
where
  /-- The fault of a number that is zero. -/
  fromOne : String :=
    (if isFields then "fields" else "byte/character positions") ++ " are numbered from 1"
  /-- Ends a range. -/
  close (r : RangeReading) : Except String RangeReading :=
    let n := numberOf 10 r.digits
    if !r.isRange then
      if n = 0 then .error fromOne else .ok { r with found := (n, some n) :: r.found }
    else if r.low.isNone && r.digits.isEmpty then .error "invalid range with no endpoint: -"
    else
      let low := r.low.getD 1
      if r.digits.isEmpty then .ok { r with found := (low, none) :: r.found }
      else if n < low then .error "invalid decreasing range"
      else .ok { r with found := (low, some n) :: r.found }

/-- Ranges in order, those that overlap put together. -/
def joined (ranges : List (Nat × Option Nat)) : List (Nat × Option Nat) :=
  ((ranges.mergeSort fun a b => a.1 ≤ b.1).foldl (fun before (low, high) =>
    match before with
    | (first, last) :: others =>
      if last.all (low ≤ ·) then
        (first, do return max (← last) (← high)) :: others
      else (low, high) :: before
    | [] => [(low, high)]) []).reverse

/-- The ranges between some that are in order, given where the first one begins. -/
def gaps : Nat → List (Nat × Option Nat) → List (Nat × Option Nat)
  | start, [] => [(start, none)]
  | start, (low, high) :: rest =>
    let before := if start < low then [(start, some (low - 1))] else []
    before ++ match high with
      | some high => gaps (high + 1) rest
      | none => []

/-- The items in each range that has some. -/
def selected {α : Type} (ranges : List (Nat × Option Nat)) (items : List α) : List (List α) :=
  (ranges.map fun (low, high) => (high.elim items items.take).drop (low - 1)).filter (!·.isEmpty)

/-- Cuts a text at a character. -/
def splitAt (c : Char) : List Char → List (List Char)
  | [] => [[]]
  | d :: rest =>
    if d = c then [] :: splitAt c rest
    else match splitAt c rest with
      | part :: parts => (d :: part) :: parts
      | [] => [[d]]

/-- Writes parts of every line. -/
def cut : Utility := fun words => do
  let (chosen, words) ← options
    { letters := "b:c:d:f:nszCO:"
      words := [("bytes", 'b'), ("characters", 'c'), ("delimiter", 'd'), ("fields", 'f'),
        ("only-delimited", 's'), ("complement", 'C'), ("output-delimiter", 'O')] } words
  let (isFields, list) ← match chosen.options.filter fun (c, _) => c = 'f' || c = 'c' || c = 'b' with
    | [(c, list)] => pure (decide (c = 'f'), list)
    | [] => refuseUsage 1 "you must specify a list of bytes, characters, or fields"
    | _ => refuseUsage 1 "only one list may be specified"
  let delimiter ← match (chosen.get? 'd').map String.toList with
    | none => pure '\t'
    | some [c] => pure c
    | some [] => pure '\x00'
    | some _ => refuseUsage 1 "the delimiter must be a single character"
  if !isFields && (chosen.get? 'd').isSome then
    refuseUsage 1 "an input delimiter may be specified only when operating on fields"
  else if !isFields && chosen.has 's' then
    refuseUsage 1 ("suppressing non-delimited lines makes sense\n\tonly when operating on fields")
  match readRanges isFields list.toList {} with
  | .error reason => refuseUsage 1 reason
  | .ok ranges =>
    let ranges := joined ranges
    let ranges := if chosen.has 'C' then gaps 1 ranges else ranges
    let joint := (chosen.get? 'O').map String.toList
    forContents words 1 plainDescription fun _ bytes =>
      (textLines bytes).forM fun line => do
        if !isFields then print (lineText ((joint.getD []).intercalate (selected ranges line)))
        else if !line.contains delimiter then
          if !chosen.has 's' then print (lineText line)
        else
          let fields := (selected ranges (splitAt delimiter line)).flatten
          print (lineText ((joint.getD [delimiter]).intercalate fields))

/-- Joins the lines of files, or all lines of each. -/
def paste : Utility := fun words => do
  let (chosen, words) ← options
    { letters := "d:s", words := [("delimiters", 'd'), ("serial", 's')] } words
  let delimiters := (withTabs ((chosen.get? 'd').getD "\t").toList)
  let delimiter (n : Nat) : List Char :=
    match delimiters[n % (max delimiters.length 1)]? with
    | some c => [c]
    | none => []
  let join (parts : List (List Char)) : List Char :=
    ((parts.zip (List.range parts.length)).map fun (part, n) =>
      if n = 0 then part else delimiter (n - 1) ++ part).flatten
  let files ← (if words.isEmpty then ["-"] else words).mapM fun word => do
    match ← content word with
    | .ok bytes => return textLines bytes
    | .error e => refuse 1 (plainDescription word e)
  if chosen.has 's' then files.forM fun lines => print (lineText (join lines))
  else
    let inputs := (if words.isEmpty then ["-"] else words).filter (· = "-")
    let files := if 1 < inputs.length && inputs.length = words.length then
        shares inputs.length (files.headD [])
      else files
    let longest := files.foldl (fun n lines => max n lines.length) 0
    (List.range longest).forM fun n => print (lineText (join (files.map fun lines => (lines[n]?).getD [])))
where
  /-- Escapes for tabs and line breaks. -/
  withTabs : List Char → List Char
    | '\\' :: 't' :: rest => '\t' :: withTabs rest
    | '\\' :: 'n' :: rest => '\n' :: withTabs rest
    | '\\' :: '\\' :: rest => '\\' :: withTabs rest
    | '\\' :: '0' :: rest => withTabs rest
    | c :: rest => c :: withTabs rest
    | [] => []
  /-- Deals lines out to some files in turn. -/
  shares (count : Nat) (lines : List (List Char)) : List (List (List Char)) :=
    (List.range count).map fun k =>
      ((lines.zip (List.range lines.length)).filter fun (_, n) => n % count = k).map Prod.fst

/-- Breaks lines that are too long. -/
def fold : Utility := fun words => do
  let (chosen, words) ← options { letters := "bsw:", words := [("width", 'w')] } words
  let width ← match chosen.get? 'w' with
    | none => pure 80
    | some text =>
      match if text.toList.all Char.isDigit then text.toNat? else none with
      | some 0 =>
        refuse 1 s!"invalid number of columns: {quotedName text}: Numerical result out of range"
      | some n => pure n
      | none => refuse 1 s!"invalid number of columns: {quotedName text}"
  forContents words 1 plainDescription fun _ bytes =>
    (linesOf bytes).forM fun line =>
      let (text, ending) := if line.getLast? = some 0x0A then (line.dropLast, [0x0A]) else (line, [])
      write (pieces width (chosen.has 's') (text.length + 1) text ++ ending)
where
  /-- Bytes with line breaks after some of them, if possible behind blanks. -/
  pieces (width : Nat) (atBlanks : Bool) : Nat → Bytes → Bytes
    | 0, bytes => bytes
    | fuel + 1, bytes =>
      if bytes.length ≤ width then bytes
      else
        let piece := bytes.take width
        let word := piece.reverse.takeWhile fun b => b ≠ 0x20 && b ≠ 0x09
        let size := if atBlanks && word.length < width then width - word.length else width
        bytes.take size ++ 0x0A :: pieces width atBlanks fuel (bytes.drop size)

/-! ## New lines -/

/-- The most lines of an endless output. -/
def endlessBound : Nat := 20000

/-- Writes a line again and again. -/
def yes : Utility := fun words => do
  let (_, words) ← options { letters := "" } words
  let line := (if words.isEmpty then "y" else String.intercalate " " words) ++ "\n"
  write (List.replicate endlessBound (Octets.toBytes line.toList)).flatten

/-- A decimal number as digits and the count of those behind the point. -/
def decimal? (text : String) : Option (Int × Nat) :=
  let (negative, body) := match text.toList with
    | '-' :: rest => (true, rest)
    | '+' :: rest => (false, rest)
    | body => (false, body)
  let whole := leadingDigits 10 body
  let (fraction, rest) := match body.drop whole.length with
    | '.' :: rest => (leadingDigits 10 rest, rest.drop (leadingDigits 10 rest).length)
    | rest => ([], rest)
  if (whole.isEmpty && fraction.isEmpty) || !rest.isEmpty then none
  else
    let n : Int := numberOf 10 (whole ++ fraction)
    some (if negative then -n else n, fraction.length)

/-- A number of some digits behind the point. -/
def decimalText (places : Nat) (n : Int) : String :=
  let digits := Nat.toDigits 10 n.natAbs
  let digits := List.replicate (places + 1 - digits.length) '0' ++ digits
  let whole := digits.take (digits.length - places)
  let fraction := digits.drop (digits.length - places)
  String.ofList ((if n < 0 then ['-'] else []) ++ whole
    ++ (if fraction.isEmpty then [] else '.' :: fraction))

/-- Writes numbers in steps. -/
def seq : Utility := fun words => do
  let (chosen, words) ← parse [] words
  let numbers ← words.mapM fun word => do
    match decimal? word with
    | some found => return found
    | none => refuseUsage 1 s!"invalid floating point argument: {quotedName word}"
  let (first, step, last) ← match numbers with
    | [last] => pure ((1, 0), (1, 0), last)
    | [first, last] => pure (first, (1, 0), last)
    | [first, step, last] => pure (first, step, last)
    | [] => refuseUsage 1 "missing operand"
    | _ => refuseUsage 1 ("extra operand " ++ quotedName ((words[3]?).getD ""))
  let places := max first.2 step.2
  let precision := max places last.2
  let scale (n : Int × Nat) : Int := n.1 * (Nat.pow 10 (precision - n.2) : Nat)
  if step.1 = 0 then
    refuseUsage 1 ("invalid Zero increment value: " ++ quotedName ((words[1]?).getD ""))
  else
    let steps := (scale last - scale first) / scale step
    let count := if steps < 0 then 0 else min (steps.toNat + 1) 200000
    let texts := (List.range count).map fun (n : Nat) =>
      decimalText places ((scale first + (n : Int) * scale step) / (Nat.pow 10 (precision - places) : Nat))
    let widest := texts.foldl (fun n text => max n text.length) 0
    let texts := match chosen.get? 'f' with
      | some format => texts.map fun text =>
        String.ofList (printWords format [text]).output.reverse
      | none => if chosen.has 'w' then texts.map (widen widest) else texts
    if !texts.isEmpty then
      print (String.intercalate ((chosen.get? 's').getD "\n") texts ++ "\n")
where
  /-- The options before the numbers, which can be negative. -/
  parse (found : List (Char × String)) : List String → Act (Chosen × List String)
    | "-w" :: rest => parse (('w', "") :: found) rest
    | "-s" :: text :: rest => parse (('s', text) :: found) rest
    | "-f" :: text :: rest => parse (('f', text) :: found) rest
    | "--" :: rest => return (⟨found⟩, rest)
    | word :: rest => do
      match word.toList with
      | '-' :: 's' :: text => parse (('s', String.ofList text) :: found) rest
      | '-' :: c :: _ =>
        if c.isDigit || c = '.' then return (⟨found⟩, word :: rest)
        else refuseUsage 1 s!"invalid option -- '{c}'"
      | _ => return (⟨found⟩, word :: rest)
    | [] => return (⟨found⟩, [])
  /-- A number with zeros before it. -/
  widen (width : Nat) (text : String) : String :=
    let zeros := String.ofList (List.replicate (width - text.length) '0')
    if text.startsWith "-" then "-" ++ zeros ++ String.ofList (text.toList.drop 1) else zeros ++ text

end ScenarioRunner.Shell.Utility

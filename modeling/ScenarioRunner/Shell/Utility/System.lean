import ScenarioRunner.Shell.Condition
import ScenarioRunner.Shell.Printf
import ScenarioRunner.Shell.Utility.Lines

/-!
# Programs on the system, and on two files

Programs that tell of the system, which has one user, that write their words, or that compare files.
-/

set_option autoImplicit false

namespace ScenarioRunner.Shell.Utility

open Act

/-! ## Words -/

/-- Writes words with blanks between them. -/
def echo : Utility := fun words => do
  let isFlag (word : String) : Bool :=
    match word.toList with
    | '-' :: flags => !flags.isEmpty && flags.all ['n', 'e', 'E'].contains
    | _ => false
  let flags := (words.takeWhile isFlag).flatMap fun word => word.toList.drop 1
  let text := String.intercalate " " (words.dropWhile isFlag)
  let escapes := (flags.filter (· ≠ 'n')).getLast? = some 'e'
  let (shown, ended) := if escapes then withEscapes text else (text.toList, false)
  print (String.ofList (if ended || flags.contains 'n' then shown else shown ++ ['\n']))

/-- Writes words in a format. -/
def printf : Utility := fun words => do
  let words := if words.head? = some "--" then words.drop 1 else words
  match words with
  | [] => refuseUsage 1 "missing operand"
  | format :: words =>
    let printed := printWords format words
    printed.warnings.reverse.forM (complain 1)
    print (String.ofList printed.output.reverse)
    match printed.refusal with
    | some reason => refuse 1 reason
    | none => pure ()

/-- Tells whether a condition holds. -/
def test : Utility := fun words => do
  let call ← read
  let w ← get
  let words ← if call.name.endsWith "[" then
      if words.getLast? = some "]" then pure words.dropLast else refuse 2 "missing ']'"
    else pure words
  let place (path : String) := (w.files.locate call.place (Octets.toText path)).toOption
  let view : Condition.View :=
    ⟨fun path => (place path).bind w.files.get?, place, w.programs⟩
  match Condition.evaluate view words with
  | .ok holds => setStatus (if holds then 0 else 1)
  | .error reason => refuse 2 reason

/-! ## The system -/

/-- Writes variables of the environment. -/
def printenv : Utility := fun words => do
  let environment := (← read).environment
  if words.isEmpty then environment.forM fun (name, value) => printLine s!"{name}={value}"
  else words.forM fun name => do
    match environment.lookup name with
    | some value => printLine value
    | none => setStatus 1

/-- Writes something fixed. -/
def fixed (text : String) : Utility := fun words => do
  match words with
  | word :: _ => refuseUsage 1 s!"extra operand {quotedName word}"
  | [] => printLine text

/-- Tells who the user is. -/
def id : Utility := fun words => do
  let (chosen, words) ← options
    { letters := "agGnruzZ"
      words := [("user", 'u'), ("group", 'g'), ("groups", 'G'), ("name", 'n'), ("real", 'r')] } words
  match words with
  | word :: _ =>
    if word ≠ "root" && word ≠ "0" then refuse 1 s!"{quotedName word}: no such user"
  | [] => pure ()
  if chosen.has 'u' || chosen.has 'g' || chosen.has 'G' then
    printLine (if chosen.has 'n' then "root" else "0")
  else printLine "uid=0(root) gid=0(root) groups=0(root)"

/-- Tells what the system is. -/
def uname : Utility := fun words => do
  let (chosen, words) ← options
    { letters := "asnrvmpio"
      words := [("all", 'a'), ("kernel-name", 's'), ("nodename", 'n'), ("machine", 'm'),
        ("operating-system", 'o')] } words
  match words with
  | word :: _ => refuseUsage 1 s!"extra operand {quotedName word}"
  | [] => pure ()
  let facts := [('s', "Linux"), ('n', "localhost"), ('r', "6.1.0"), ('v', "#1 SMP"),
    ('m', "x86_64"), ('o', "GNU/Linux")]
  let letters := if chosen.options.isEmpty then ['s'] else chosen.options.map Prod.fst
  let shown := facts.filter fun (c, _) => letters.contains 'a' || letters.contains c
  printLine (String.intercalate " " (shown.map Prod.snd))

/-- The time that a word names, in millionths of a second. -/
def interval? (word : String) : Option Nat :=
  let (body, unit) := match word.toList.getLast? with
    | some 's' => (word.toList.dropLast, 1)
    | some 'm' => (word.toList.dropLast, 60)
    | some 'h' => (word.toList.dropLast, 3600)
    | some 'd' => (word.toList.dropLast, 86400)
    | _ => (word.toList, 1)
  if body = "infinity".toList || body = "inf".toList then some forever
  else match decimal? (String.ofList body) with
    | some (digits, places) =>
      if digits < 0 then none else some (digits.toNat * unit * 1000000 / Nat.pow 10 places)
    | none => none

/-- Waits some time. -/
def sleep : Utility := fun words => do
  let (_, words) ← options { letters := "" } words
  if words.isEmpty then refuseUsage 1 "missing operand"
  let bad := words.filter fun word => (interval? word).isNone
  bad.forM fun word => complain 1 s!"invalid time interval {quotedName word}"
  if !bad.isEmpty then
    printError "Try 'sleep --help' for more information.\n"
    finish 1
  spend ((words.filterMap interval?).foldl (· + ·) 0)

/-- Tells that there is no terminal. -/
def tty : Utility := fun words => do
  let (chosen, _) ← options { letters := "s", words := [("silent", 's'), ("quiet", 's')] } words
  if !chosen.has 's' then printLine "not a tty"
  setStatus 1

/-! ## Two files -/

/-- The content of an operand, or an error about it. -/
def operand (path : String) (failure : Nat) : Act Bytes := do
  match ← content path with
  | .ok bytes => return bytes
  | .error e => refuse failure s!"{path}: {e.summary}"

/-- Tells where two files differ. -/
def cmp : Utility := fun words => do
  let (chosen, words) ← options
    { letters := "bi:ln:s", failure := 2
      words := [("silent", 's'), ("quiet", 's'), ("verbose", 'l'), ("print-bytes", 'b')] } words
  let usage {α : Type} (message : String) : Act α := do
    complain 2 message
    printError "cmp: Try 'cmp --help' for more information.\n"
    throw ()
  let (first, second) ← match words with
    | [] => usage "missing operand after 'cmp'"
    | [first] => pure (first, "-")
    | [first, second] | [first, second, _] | [first, second, _, _] => pure (first, second)
    | _ => usage ("extra operand " ++ quotedName ((words[4]?).getD ""))
  let a ← operand first 2
  let b ← operand second 2
  let differences := ((a.zip b).zip (List.range a.length)).filter fun ((x, y), _) => x != y
  let shorter := if a.length < b.length then some (first, a) else if b.length < a.length then
    some (second, b) else none
  if chosen.has 's' then setStatus (if differences.isEmpty && shorter.isNone then 0 else 1)
  else
    let atEnd : Act Unit := do
      match shorter with
      | none => pure ()
      | some (name, bytes) =>
        let place :=
          if bytes.isEmpty then " which is empty"
          else if chosen.has 'l' then s!" after byte {bytes.length}"
          else
            let lines := bytes.count 0x0A
            if bytes.getLast? = some 0x0A then s!" after byte {bytes.length}, line {lines}"
            else s!" after byte {bytes.length}, in line {lines + 1}"
        complain 1 s!"EOF on {name}{place}"
    if chosen.has 'l' then
      atEnd
      differences.forM fun ((x, y), n) => do
        let octal (b : UInt8) : String := padLeft 3 (String.ofList (Nat.toDigits 8 b.toNat))
        printLine s!"{n + 1} {octal x} {octal y}"
        setStatus 1
    else match differences with
      | (_, n) :: _ =>
        printLine s!"{first} {second} differ: char {n + 1}, line {(a.take n).count 0x0A + 1}"
        setStatus 1
      | [] => atEnd

/-- How a line is part of two files. -/
inductive Part where
  | both
  | first
  | second
  deriving DecidableEq

/-- The row of a table of the lengths of common parts, given the row of the lines behind. -/
def commonRow {α : Type} [DecidableEq α] (a : α) : List α → List Nat → List Nat
  | b :: bs, below :: rest =>
    let row := commonRow a bs rest
    (if a = b then (rest.headD 0) + 1 else max below (row.headD 0)) :: row
  | _, _ => [0]

/-- The parts that a shortest change from some lines to others is made of, given the rows of the table
for the lines and all those behind. -/
def changes {α : Type} [DecidableEq α] :
    Nat → List α → List α → List (List Nat) → List (Part × α)
  | 0, _, _, _ => []
  | _ + 1, [], bs, _ => bs.map fun b => (.second, b)
  | _ + 1, as, [], _ => as.map fun a => (.first, a)
  | fuel + 1, a :: as, b :: bs, rows =>
    let here := rows.headD []
    let below := rows.tail
    if a = b then (.both, a) :: changes fuel as bs (below.map List.tail)
    else if (here.tail.headD 0) ≤ ((below.headD []).headD 0) then
      (.first, a) :: changes fuel as (b :: bs) below
    else (.second, b) :: changes fuel (a :: as) bs (rows.map List.tail)

/-- A shortest change from some lines to others. -/
def difference {α : Type} [DecidableEq α] (as bs : List α) : List (Part × α) :=
  let rows := as.foldr (fun a rows =>
    commonRow a bs (rows.headD (List.replicate (bs.length + 1) 0)) :: rows) []
  changes (as.length + bs.length + 1) as bs rows

/-- The numbers of a range of lines. -/
def rangeText (first count : Nat) : String :=
  if count ≤ 1 then toString (if count = 0 then first - 1 else first)
  else s!"{first},{first + count - 1}"

/-- Tells how the lines of two files differ. -/
def diff : Utility := fun words => do
  let (chosen, words) ← options
    { letters := "abBdeEiNqrstTuU:wyZ", failure := 2
      words := [("brief", 'q'), ("report-identical-files", 's'), ("ignore-case", 'i'),
        ("ignore-all-space", 'w'), ("ignore-space-change", 'b'), ("unified", 'u')] } words
  let usage {α : Type} (message : String) : Act α := do
    complain 2 message
    printError "diff: Try 'diff --help' for more information.\n"
    throw ()
  let (one, two) ← match words with
    | [] => usage "missing operand after 'diff'"
    | [word] => usage s!"missing operand after {quotedName word}"
    | [one, two] => pure (one, two)
    | _ :: _ :: extra :: _ => usage s!"extra operand {quotedName extra}"
  let a := linesOf (← operand one 2)
  let b := linesOf (← operand two 2)
  let key (line : Bytes) : List Char :=
    let text := Octets.ofBytes line
    let text := if chosen.has 'i' then text.map Char.toLower else text
    if chosen.has 'w' then text.filter fun c => !isSpaceChar c else text
  let parts := difference (a.map key) (b.map key)
  if parts.all (·.1 = .both) then
    if chosen.has 's' then printLine s!"Files {one} and {two} are identical"
  else
    setStatus 1
    if chosen.has 'q' then printLine s!"Files {one} and {two} differ"
    else
      let marked (mark : String) (line : Bytes) : Act Unit := do
        print mark
        write line
        if line.getLast? != some 0x0A then print "\n\\ No newline at end of file\n"
      let hunk (m n : Nat) (removed added : List Bytes) : Act Unit := do
        if removed.isEmpty && added.isEmpty then return ()
        let letter := if removed.isEmpty then "a" else if added.isEmpty then "d" else "c"
        printLine s!"{rangeText m removed.length}{letter}{rangeText n added.length}"
        removed.forM (marked "< ")
        if !removed.isEmpty && !added.isEmpty then printLine "---"
        added.forM (marked "> ")
      let take (lines : List Bytes) (n count : Nat) : List Bytes := (lines.drop (n - 1)).take count
      let (m, n, removed, added) ← parts.foldlM (fun (m, n, removed, added) (part, _) => do
        match part with
        | .first => return (m, n, removed + 1, added)
        | .second => return (m, n, removed, added + 1)
        | .both =>
          hunk m n (take a m removed) (take b n added)
          return (m + removed + 1, n + added + 1, 0, 0)) (1, 1, 0, 0)
      hunk m n (take a m removed) (take b n added)

/-- Writes which lines are in one of two files, and which in both. -/
def comm : Utility := fun words => do
  let (chosen, words) ← options { letters := "123z" } words
  let (one, two) ← match words with
    | [] => refuseUsage 1 "missing operand"
    | [word] => refuseUsage 1 s!"missing operand after {quotedName word}"
    | [one, two] => pure (one, two)
    | _ :: _ :: extra :: _ => refuseUsage 1 s!"extra operand {quotedName extra}"
  let a := (textLines (← operand one 1)).map String.ofList
  let b := (textLines (← operand two 1)).map String.ofList
  let column (c : Char) (text : String) : Act Unit := do
    if !chosen.has c then
      let before := ['1', '2', '3'].filter fun d => d < c && !chosen.has d
      printLine (String.ofList (before.map fun _ => '\t') ++ text)
  let rec merge : Nat → List String → List String → Act Unit
    | 0, _, _ => return ()
    | _ + 1, [], bs => bs.forM (column '2')
    | _ + 1, as, [] => as.forM (column '1')
    | fuel + 1, x :: as, y :: bs => do
      if x = y then
        column '3' x
        merge fuel as bs
      else if x < y then
        column '1' x
        merge fuel as (y :: bs)
      else
        column '2' y
        merge fuel (x :: as) bs
  merge (a.length + b.length + 1) a b

/-! ## Encodings -/

/-- The digits of base 64. -/
def base64Digits : List Char :=
  "ABCDEFGHIJKLMNOPQRSTUVWXYZabcdefghijklmnopqrstuvwxyz0123456789+/".toList

/-- Bytes in base 64. -/
def encode64 : Bytes → List Char
  | [] => []
  | [a] => digits (a.toNat * 65536) 2 ++ ['=', '=']
  | [a, b] => digits (a.toNat * 65536 + b.toNat * 256) 3 ++ ['=']
  | a :: b :: c :: rest => digits (a.toNat * 65536 + b.toNat * 256 + c.toNat) 4 ++ encode64 rest
where
  /-- The first digits of a number of 24 bits. -/
  digits (n count : Nat) : List Char :=
    ([262144, 4096, 64, 1].take count).map fun unit => (base64Digits[n / unit % 64]?).getD 'A'

/-- The bytes that a text in base 64 is, as far as it is one. -/
def decode64 : List Char → Bytes × Bool
  | [] => ([], true)
  | a :: b :: c :: d :: rest =>
    match base64Digits.idxOf? a, base64Digits.idxOf? b, base64Digits.idxOf? c, base64Digits.idxOf? d with
    | some a, some b, some c, some d =>
      let n := a * 262144 + b * 4096 + c * 64 + d
      let (bytes, isWhole) := decode64 rest
      (UInt8.ofNat (n / 65536) :: UInt8.ofNat (n / 256 % 256) :: UInt8.ofNat (n % 256) :: bytes,
        isWhole)
    | some a, some b, some c, none =>
      let n := a * 262144 + b * 4096 + c * 64
      ([UInt8.ofNat (n / 65536), UInt8.ofNat (n / 256 % 256)], d = '=' && rest.isEmpty)
    | some a, some b, none, none => ([UInt8.ofNat (a * 4 + b / 16)], c = '=' && d = '=' && rest.isEmpty)
    | _, _, _, _ => ([], false)
  | _ => ([], false)

/-- Writes bytes in base 64, or reads them. -/
def base64 : Utility := fun words => do
  let (chosen, words) ← options
    { letters := "diw:", words := [("decode", 'd'), ("wrap", 'w'), ("ignore-garbage", 'i')] } words
  let bytes ← operand (words.headD "-") 1
  if chosen.has 'd' then
    let (out, isWhole) := decode64 ((Octets.ofBytes bytes).filter (· ≠ '\n'))
    write out
    if !isWhole then refuse 1 "invalid input"
  else
    let width := ((chosen.get? 'w').bind String.toNat?).getD 76
    let text := encode64 bytes
    if width = 0 then print (String.ofList text)
    else
      let lines := (List.range ((text.length + width - 1) / width)).map fun n =>
        (text.drop (n * width)).take width
      lines.forM fun line => print (lineText line)

/-- Writes bytes as numbers or characters. -/
def od : Utility := fun words => do
  let (chosen, words) ← options { letters := "A:bcdj:N:ot:vw:x" } words
  let bytes ← allContents words 1 plainDescription
  let bytes := match (chosen.get? 'N').bind String.toNat? with
    | some n => bytes.take n
    | none => bytes
  let kind := if chosen.has 'c' then "c" else if chosen.has 'b' then "o1" else (chosen.get? 't').getD "o2"
  let number (base width n : Nat) (fill : Char) : String :=
    let digits := Nat.toDigits base n
    String.ofList (List.replicate (width - digits.length) fill ++ digits)
  let shown (line : Bytes) : String :=
    let each (f : UInt8 → String) : String := String.join (line.map f)
    match kind with
    | "c" => each fun b => padLeft 4 (named (Char.ofNat b.toNat))
    | "x1" => each fun b => " " ++ number 16 2 b.toNat '0'
    | "o1" => each fun b => " " ++ number 8 3 b.toNat '0'
    | "u1" => each fun b => " " ++ number 10 3 b.toNat ' '
    | "x2" => pairs (fun n => " " ++ number 16 4 n '0') line
    | _ => pairs (fun n => " " ++ number 8 6 n '0') line
  let radix := (chosen.get? 'A').getD "o"
  let address (n : Nat) : String :=
    match radix with
    | "n" => ""
    | "d" => number 10 7 n '0'
    | "x" => number 16 6 n '0'
    | _ => number 8 7 n '0'
  let rows := (List.range ((bytes.length + 15) / 16)).map fun n => (n * 16, (bytes.drop (n * 16)).take 16)
  rows.forM fun (place, line) => printLine (address place ++ shown line)
  if radix ≠ "n" then printLine (address bytes.length)
where
  /-- A character as it is shown. -/
  named (c : Char) : String :=
    match c with
    | '\x00' => "\\0"
    | '\x07' => "\\a"
    | '\x08' => "\\b"
    | '\x0c' => "\\f"
    | '\n' => "\\n"
    | '\r' => "\\r"
    | '\t' => "\\t"
    | '\x0b' => "\\v"
    | c =>
      if 0x20 ≤ c.toNat && c.toNat < 0x7F then c.toString
      else
        let digits := Nat.toDigits 8 c.toNat
        String.ofList (List.replicate (3 - digits.length) '0' ++ digits)
  /-- Pairs of bytes, the second one counting more. -/
  pairs (f : Nat → String) : Bytes → String
    | a :: b :: rest => f (a.toNat + 256 * b.toNat) ++ pairs f rest
    | [a] => f a.toNat
    | [] => ""

end ScenarioRunner.Shell.Utility

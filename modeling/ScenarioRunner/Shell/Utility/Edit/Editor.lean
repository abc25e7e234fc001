import ScenarioRunner.Shell.Utility.Edit.Script
import ScenarioRunner.Shell.Utility.Lines

/-!
# Editing lines

A script is run once for every line, on a buffer that holds the line, and with a second buffer that
keeps its content. The buffer is written at the end of each run.
-/

set_option autoImplicit false

namespace ScenarioRunner.Shell.Edit

/-- A line of the input. -/
structure InputLine where
  text : List Char
  /-- Whether it ends in a line break. -/
  isEnded : Bool
  /-- The file that it comes from. -/
  file : String
  isLastOfFile : Bool

/-- How far a range of lines has come. -/
inductive RangeState where
  | until (last : Nat)
  | open
  | closed

/-- The state of an editor. -/
structure Editor where
  rest : List InputLine
  line : InputLine := ⟨[], true, "-", true⟩
  number : Nat := 0
  buffer : List Char := []
  kept : List Char := []
  /-- What is written behind the buffer at the end of a run. -/
  added : List (List Char) := []
  hasReplaced : Bool := false
  ranges : List (Nat × RangeState) := []
  /-- The expression that has been used last. -/
  regex : Option (Regex × Bool) := none
  /-- What has been written, last first, with the file that is edited. -/
  output : List (String × List Char) := []
  /-- Whether the line break at the end of the output is still missing. -/
  isOpen : Bool := false
  /-- What has been written to other files, last first. -/
  written : List (String × List Char) := []
  status : Nat := 0

/-- How a script is run. -/
structure Manner where
  script : Array Instruction
  /-- Whether the buffer is only written when asked for. -/
  isQuiet : Bool
  /-- Whether every file is edited on its own. -/
  isSeparate : Bool

/-- What happens behind an instruction. -/
inductive Course where
  /-- The instruction of a number comes next. -/
  | go (place : Nat)
  | finish
  /-- The run ends without writing the buffer. -/
  | drop
  /-- As `drop`, and the next run begins with what is left of the buffer. -/
  | restart
  /-- The editor ends, with or without writing the buffer. -/
  | quit (writes : Bool)

/-- A step of an editor. -/
abbrev Step := StateT Editor Act

namespace Editor

/-- Writes a text, behind a line break if one is missing. -/
def put (text : List Char) : Step Unit :=
  modify fun e =>
    let text := if e.isOpen then '\n' :: text else text
    { e with output := (e.line.file, text) :: e.output, isOpen := false }

/-- Writes a line, without its break if the line that is edited has none. -/
def putLine (text : List Char) : Step Unit := do
  if (← get).line.isEnded then put (text ++ ['\n'])
  else
    put text
    modify fun e => { e with isOpen := true }

/-- Writes what has been added. -/
def flush : Step Unit := do
  for text in (← get).added.reverse do put text
  modify fun e => { e with added := [] }

/-- Whether the line that is edited is the last one. -/
def isLast (manner : Manner) (e : Editor) : Bool :=
  e.rest.isEmpty || (manner.isSeparate && e.line.isLastOfFile)

/-- Goes to the next line, and gives its text, if there is one. -/
def advance (manner : Manner) : Step (Option (List Char)) := do
  let e ← get
  match e.rest with
  | [] => return none
  | line :: rest =>
    let number := if manner.isSeparate && e.line.isLastOfFile then 1 else e.number + 1
    set { e with rest, line, number }
    return some line.text

/-- The expression that is meant, which becomes the last one. -/
def regexOf (regex : Option Regex) (foldsCase : Bool) : Step (Regex × Bool) := do
  match regex with
  | some regex =>
    modify fun e => { e with regex := some (regex, foldsCase) }
    return (regex, foldsCase)
  | none =>
    match (← get).regex with
    | some found => return found
    | none =>
      let refusal : Act (Regex × Bool) :=
        Act.refuse 1 "-e expression #1, char 0: no previous regular expression"
      refusal

/-- Whether an address is that of the line. -/
def isAt (manner : Manner) (address : Address) : Step Bool := do
  let e ← get
  match address with
  | .number n => return e.number = n
  | .every first step =>
    return if step = 0 then e.number = first
      else first ≤ e.number && (e.number - first) % step = 0
  | .last => return e.isLast manner
  | .matching regex foldsCase =>
    let (regex, foldsCase) ← regexOf regex foldsCase
    return (regex.find? ⟨(← get).buffer.toArray, foldsCase⟩ 0).isSome

/-- Remembers how far the range of an instruction has come. -/
def setRange (place : Nat) (range : RangeState) : Step Unit :=
  modify fun e => { e with ranges := (place, range) :: e.ranges.filter (·.1 != place) }

/-- Begins a range at the line. -/
def beginRange (place : Nat) (last : RangeEnd) : Step Unit := do
  let number := (← get).number
  let upTo (n : Nat) : Step Unit := setRange place (if n ≤ number then .closed else .until n)
  match last with
  | .address (.number n) => upTo n
  | .behind count => upTo (number + count)
  | .multiple n => upTo (if n = 0 then number else number / n * n + n)
  | .address _ => setRange place .open

/-- Whether an instruction is for the line. -/
def selects (manner : Manner) (place : Nat) (selection : Selection) : Step Bool := do
  match selection.first, selection.last with
  | none, _ => return true
  | some first, none => isAt manner first
  | some first, some last =>
    let e ← get
    let begins : Step Bool := do
      if ← isAt manner first then
        beginRange place last
        return true
      else return false
    let goesOn : Step Bool := do
      match last with
      | .address address =>
        if ← isAt manner address then setRange place .closed
        return true
      | _ => return true
    match e.ranges.lookup place, first with
    | some (.until n), _ =>
      if n ≤ e.number then setRange place .closed
      if e.number ≤ n then return true else begins
    | some .open, _ => goesOn
    | none, .number 0 =>
      setRange place .open
      goesOn
    | _, _ => begins

/-! ## Replacing -/

/-- Adds text to a replacement, given how its letters change, and how the next one does. -/
def convert (change next : CaseChange) (text : List Char) : List Char :=
  let all := match change with
    | .lower => text.map Char.toLower
    | .upper => text.map Char.toUpper
    | _ => text
  match next, all with
  | .lowerNext, c :: rest => c.toLower :: rest
  | .upperNext, c :: rest => c.toUpper :: rest
  | _, _ => all

/-- What a match is replaced by. -/
def replacementText (subject : Regex.Subject) (first : Nat) (found : Regex.Match)
    (parts : List Replacement) : List Char :=
  (parts.foldl (fun (out, change, next) part =>
    let add (text : List Char) : List (List Char) × CaseChange × CaseChange :=
      (convert change next text :: out, change, if text.isEmpty then next else .keep)
    match part with
    | .text text => add text
    | .group 0 => add (subject.slice first found.place)
    | .group n =>
      match found.groups.lookup n with
      | some (low, high) => add (subject.slice low high)
      | none => add []
    | .change .lowerNext => (out, change, .lowerNext)
    | .change .upperNext => (out, change, .upperNext)
    | .change new => (out, new, .keep))
    (([] : List (List Char)), CaseChange.keep, CaseChange.keep)).1.reverse.flatten

/-- A text in which matches are replaced, from a place on; the count of the matches before is known,
and where the last one has ended. Tells also whether something has been replaced. -/
def replaced (s : Substitution) (regex : Regex) (subject : Regex.Subject) :
    Nat → Nat → Nat → Option Nat → List Char × Bool
  | 0, place, _, _ => (subject.slice place subject.text.size, false)
  | fuel + 1, place, count, ended =>
    let behind (place : Nat) : List Char := subject.slice place subject.text.size
    match regex.find? subject place with
    | none => (behind place, false)
    | some (first, found) =>
      let before := subject.slice place first
      if first = found.place && ended = some first then
        let (rest, done) := replaced s regex subject fuel (first + 1) count none
        if subject.text.size ≤ first then (before, false)
        else (before ++ subject.slice first (first + 1) ++ rest, done)
      else if count + 1 < s.first then
        let skipped := max found.place (first + (if first = found.place then 1 else 0))
        if subject.text.size < skipped then (behind place, false)
        else
          let (rest, done) := replaced s regex subject fuel skipped (count + 1) (some found.place)
          (before ++ subject.slice first skipped ++ rest, done)
      else
        let text := replacementText subject first found s.replacement
        if !s.all then (before ++ text ++ behind found.place, true)
        else if subject.text.size ≤ found.place && first = found.place then (before ++ text, true)
        else
          let (rest, _) := replaced s regex subject fuel found.place (count + 1) (some found.place)
          (before ++ text ++ rest, true)

/-- The characters of a line as they are shown without doubt. -/
def shownChars (c : Char) : List Char :=
  match c with
  | '\\' => ['\\', '\\']
  | '\x07' => ['\\', 'a']
  | '\x08' => ['\\', 'b']
  | '\x0c' => ['\\', 'f']
  | '\n' => ['\\', 'n']
  | '\r' => ['\\', 'r']
  | '\t' => ['\\', 't']
  | '\x0b' => ['\\', 'v']
  | c =>
    if 0x20 ≤ c.toNat && c.toNat < 0x7F then [c]
    else
      let digits := Nat.toDigits 8 c.toNat
      '\\' :: List.replicate (3 - digits.length) '0' ++ digits

/-- Shown characters on lines of a width. -/
def wrapped (width : Nat) (shown : List (List Char)) : List Char :=
  (shown.foldl (fun (out, column) chars =>
    if width = 0 || column + chars.length < width then (chars :: out, column + chars.length)
    else (chars :: ['\\', '\n'] :: out, chars.length)) (([] : List (List Char)), 0)).1.reverse.flatten
    ++ ['$', '\n']

/-! ## Running -/

/-- The place behind the end of the block that begins at a place. -/
def behindBlock (script : Array Instruction) : Nat → Nat → Nat → Nat
  | 0, place, _ => place
  | fuel + 1, place, depth =>
    match script[place]? with
    | none => place
    | some one =>
      match one.action with
      | .openBlock => behindBlock script fuel (place + 1) (depth + 1)
      | .closeBlock => if depth ≤ 1 then place + 1 else behindBlock script fuel (place + 1) (depth - 1)
      | _ => behindBlock script fuel (place + 1) depth

/-- The course to a label; the empty one is the end. -/
def courseTo (script : Array Instruction) (label : List Char) : Course :=
  if label.isEmpty then .finish
  else match script.findIdx? (·.label = some label) with
    | some place => .go (place + 1)
    | none => .finish

/-- Writes a line to a file, or to the output. -/
def writeFile (path : String) (text : List Char) : Step Unit := do
  if path = "/dev/stdout" then put (text ++ ['\n'])
  else modify fun e => { e with written := (path, text ++ ['\n']) :: e.written }

/-- Carries out an instruction. -/
def carryOut (manner : Manner) (place : Nat) (one : Instruction) : Step Course := do
  let e ← get
  let next : Course := .go (place + 1)
  let setBuffer (buffer : List Char) : Step Course := do
    modify fun e => { e with buffer }
    return next
  match one.action with
  | .openBlock | .closeBlock | .label => return next
  | .append text =>
    modify fun e => { e with added := text :: e.added }
    return next
  | .insert text =>
    put text
    return next
  | .change text =>
    match if one.selection.negated then none else e.ranges.lookup place with
    | some (.until _) | some .open => pure ()
    | _ => put text
    return .drop
  | .delete => return .drop
  | .deleteFirst =>
    if e.buffer.contains '\n' then
      modify fun e => { e with buffer := (e.buffer.dropWhile (· ≠ '\n')).tail }
      return .restart
    else return .drop
  | .get => setBuffer e.kept
  | .getAppend => setBuffer (e.buffer ++ '\n' :: e.kept)
  | .hold =>
    modify fun e => { e with kept := e.buffer }
    return next
  | .holdAppend =>
    modify fun e => { e with kept := e.kept ++ '\n' :: e.buffer }
    return next
  | .exchange =>
    modify fun e => { e with buffer := e.kept, kept := e.buffer }
    return next
  | .next =>
    if e.rest.isEmpty then return .quit true
    else
      if !manner.isQuiet then putLine e.buffer
      flush
      match ← advance manner with
      | some text => setBuffer text
      | none => return .quit false
  | .nextAppend =>
    flush
    match ← advance manner with
    | some text => setBuffer (e.buffer ++ '\n' :: text)
    | none => return .quit true
  | .print =>
    putLine e.buffer
    return next
  | .printFirst =>
    put (e.buffer.takeWhile (· ≠ '\n') ++ ['\n'])
    return next
  | .list width =>
    put (wrapped (width.getD 70) (e.buffer.map shownChars))
    return next
  | .number =>
    put (toString e.number ++ "\n").toList
    return next
  | .name =>
    put (e.line.file ++ "\n").toList
    return next
  | .clear => setBuffer []
  | .quit status prints =>
    modify fun e => { e with status }
    if !prints then modify fun e => { e with added := [] }
    return .quit prints
  | .read path =>
    match ← Act.content path with
    | .ok bytes => modify fun e => { e with added := Octets.ofBytes bytes :: e.added }
    | .error _ => pure ()
    return next
  | .write path =>
    writeFile path e.buffer
    return next
  | .substitute s =>
    let (regex, foldsCase) ← regexOf s.regex s.foldsCase
    let subject : Regex.Subject := ⟨e.buffer.toArray, foldsCase⟩
    let (text, done) := replaced s regex subject (2 * e.buffer.length + 4) 0 0 none
    if done then
      modify fun e => { e with buffer := text, hasReplaced := true }
      if s.prints then putLine text
      match s.path with
      | some path => writeFile path text
      | none => pure ()
    return next
  | .exchangeChars pairs => setBuffer (e.buffer.map fun c => (pairs.lookup c).getD c)
  | .jump label => return courseTo manner.script label
  | .jumpIf wanted label =>
    modify fun e => { e with hasReplaced := false }
    return if e.hasReplaced = wanted then courseTo manner.script label else next

/-- Runs a script on the buffer from a place on. -/
def runFrom (manner : Manner) : Nat → Nat → Step Course
  | 0, _ => return .quit false
  | fuel + 1, place => do
    match manner.script[place]? with
    | none => return .finish
    | some one =>
      let found ← selects manner place one.selection
      if found = one.selection.negated then
        match one.action with
        | .openBlock =>
          runFrom manner fuel (behindBlock manner.script manner.script.size place 0)
        | _ => runFrom manner fuel (place + 1)
      else match ← carryOut manner place one with
        | .go place => runFrom manner fuel place
        | course => return course

/-- The most instructions of one run. -/
def runBound : Nat := 1000000

/-- Runs a script on what is left of the input, and first on the buffer if that is asked for. -/
def runAll (manner : Manner) (reads : Bool) : Nat → Step Unit
  | 0 => return ()
  | fuel + 1 => do
    let isReady ← if reads then
        match ← advance manner with
        | some buffer =>
          modify fun e => { e with buffer, hasReplaced := false }
          pure true
        | none => pure false
      else pure true
    if isReady then
      let write : Step Unit := do if !manner.isQuiet then putLine (← get).buffer
      match ← runFrom manner runBound 0 with
      | .go _ | .finish =>
        write
        flush
        runAll manner true fuel
      | .drop =>
        flush
        runAll manner true fuel
      | .restart =>
        flush
        runAll manner false fuel
      | .quit writes =>
        if writes then write
        flush

/-- The lines of some files. -/
def linesOfFiles (files : List (String × Bytes)) : List InputLine :=
  files.flatMap fun (file, bytes) =>
    let lines := linesOf bytes
    (lines.zip (List.range lines.length)).map fun (line, n) =>
      let isEnded := line.getLast? = some 0x0A
      ⟨Octets.ofBytes (if isEnded then line.dropLast else line), isEnded, file, n + 1 = lines.length⟩

end Editor

end ScenarioRunner.Shell.Edit

namespace ScenarioRunner.Shell.Utility

open Act

/-- The place of a fault in a script that is made of several expressions: the number of the
expression, and the count of its characters up to the fault. -/
def faultPlace (expressions : List String) (taken : Nat) : Nat × Nat :=
  if taken = 0 then (1, 0)
  else go 1 taken expressions
where
  /-- The place from an expression on. -/
  go (number taken : Nat) : List String → Nat × Nat
    | [] | [_] => (number, taken)
    | expression :: rest =>
      if taken ≤ expression.length then (number, taken)
      else go (number + 1) (taken - expression.length - 1) rest

/-- Edits lines by a script. -/
def sed : Utility := fun words => do
  let usage := "Usage: sed [OPTION]... \x7bscript-only-if-no-other-script\x7d [input-file]...\n"
  let (edits, words) := words.partition fun word =>
    word.startsWith "-i" || word.startsWith "--in-place"
  let (chosen, words) ← options
    { letters := "ne:f:Ersul:z", failure := 1, usage
      words := [("quiet", 'n'), ("silent", 'n'), ("expression", 'e'), ("file", 'f'),
        ("regexp-extended", 'E'), ("separate", 's'), ("unbuffered", 'u'), ("posix", 'u'),
        ("null-data", 'z'), ("line-length", 'l')] } words
  let given ← (chosen.options.filter fun (c, _) => c = 'e' || c = 'f').mapM fun (c, text) => do
    if c = 'e' then return text
    else match ← content text with
      | .ok bytes =>
        let found := Octets.ofBytes bytes
        return String.ofList (if found.getLast? = some '\n' then found.dropLast else found)
      | .error e => refuse 4 s!"couldn't open file {text}: {e.summary}"
  let (expressions, files) ← match given, words with
    | [], [] =>
      printError usage
      finish 1
    | [], script :: files => pure ([script], files)
    | given, files => pure (given, files)
  let text := String.intercalate "\n" expressions
  let extended := chosen.has 'E' || chosen.has 'r'
  match Edit.Script.ofText extended text.toList with
  | .error (taken, reason) =>
    let (number, place) := faultPlace expressions taken
    refuse 1 s!"-e expression #{number}, char {place}: {reason}"
  | .ok script =>
    match Edit.Script.missingLabel? script with
    | some name => refuse 4 s!"can't find label for jump to \x60{String.ofList name}'"
    | none => pure ()
    let isInPlace := !edits.isEmpty
    let contents ← (if files.isEmpty then ["-"] else files).foldlM (fun found path => do
      match ← content path with
      | .ok bytes => return (path, bytes) :: found
      | .error .isDirectory =>
        if isInPlace then complain 4 s!"couldn't edit {path}: not a regular file"
        else complain 4 s!"read error on {path}: Is a directory"
        return found
      | .error e =>
        complain 2 s!"can't read {path}: {e.summary}"
        return found) []
    let failure := (← get).status
    let lines := Edit.Editor.linesOfFiles contents.reverse
    let manner : Edit.Manner :=
      { script := script.toArray, isSeparate := isInPlace || chosen.has 's'
        isQuiet := chosen.has 'n' || text = "#n" || text.startsWith "#n\n" }
    let ((), done) ← (Edit.Editor.runAll manner true (lines.length * 64 + 100000)).run { rest := lines }
    if isInPlace then
      let left := done.rest.map fun line =>
        (line.file, if line.isEnded then line.text ++ ['\n'] else line.text)
      contents.reverse.forM fun (path, bytes) => do
        let own := (done.output.reverse ++ left).filter (·.1 = path)
        edits.forM fun option => do
          let suffix := option.toList.drop (if option.startsWith "-i" then 2 else "--in-place=".length)
          if !suffix.isEmpty then
            let _ ← save (path ++ String.ofList suffix) false bytes
        let _ ← save path false (Octets.toBytes (own.flatMap Prod.snd))
    else done.output.reverse.forM fun (_, text) => print (String.ofList text)
    let paths := (done.written.map Prod.fst).eraseDups
    paths.forM fun path => do
      let own := done.written.reverse.filter (·.1 = path)
      match ← save path false (Octets.toBytes (own.flatMap Prod.snd)) with
      | .ok _ => pure ()
      | .error e => complain 4 s!"couldn't open file {path}: {e.summary}"
    let own := (← get).status
    setStatus (if done.status ≠ 0 then done.status else max failure own)

end ScenarioRunner.Shell.Utility

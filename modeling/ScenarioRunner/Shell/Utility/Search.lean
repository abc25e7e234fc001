import ScenarioRunner.Shell.Utility.Files
import ScenarioRunner.Shell.Utility.Lines

/-!
# Searching for patterns

A line is selected if one of some patterns matches in it. Lines around a selected one can be shown
with it.
-/

set_option autoImplicit false

namespace ScenarioRunner.Shell.Utility

open Act

/-- How lines are searched. -/
structure Search where
  patterns : List Regex
  foldsCase : Bool
  wholeWords : Bool
  wholeLines : Bool
  negated : Bool

namespace Search

/-- The places where matches end that begin at a place, longest match first. -/
def ends (search : Search) (subject : Regex.Subject) (place : Nat) : List Nat :=
  let found := search.patterns.flatMap fun regex =>
    (regex.matches? subject (64 * subject.text.size + 4096) ⟨place, []⟩).map Regex.Match.place
  let allowed := found.filter fun last =>
    (!search.wholeWords || (!subject.isWordBefore place && !subject.isWordAt last))
      && (!search.wholeLines || (place = 0 && last = subject.text.size))
  allowed.mergeSort fun a b => decide (b ≤ a)

/-- The first match from a place on: where it begins, and where it ends. -/
def first? (search : Search) (subject : Regex.Subject) (place : Nat) : Option (Nat × Nat) :=
  (List.range (subject.text.size + 1 - place)).findSome? fun n =>
    (search.ends subject (place + n)).head?.map fun last => (place + n, last)

/-- Whether a line is selected. -/
def selects (search : Search) (line : List Char) : Bool :=
  (search.first? ⟨line.toArray, search.foldsCase⟩ 0).isSome != search.negated

/-- The parts of a line that match and are not empty. -/
def parts (search : Search) (subject : Regex.Subject) : Nat → Nat → List (List Char)
  | 0, _ => []
  | fuel + 1, place =>
    match search.first? subject place with
    | none => []
    | some (first, last) =>
      if last = first then search.parts subject fuel (first + 1)
      else subject.slice first last :: search.parts subject fuel last

end Search

/-- The patterns that a text holds, one a line. -/
def patternLines (text : String) : List (List Char) := splitAt '\n' text.toList

/-- How a name, a number and a line are shown. -/
structure Shown where
  name : Option String
  numbered : Bool
  offsets : Bool

/-- What stands before a line, given the mark behind names and numbers. -/
def Shown.start (shown : Shown) (mark : Char) (number offset : Nat) : String :=
  let part (text : String) : String := text ++ mark.toString
  (shown.name.map part).getD "" ++ (if shown.numbered then part (toString number) else "")
    ++ (if shown.offsets then part (toString offset) else "")

/-- The message of a program about its usage. -/
def grepUsage : String := "Usage: grep [OPTION]... PATTERNS [FILE]...\n"

/-- The words of a call in which a number alone stands for lines of context. -/
def withContext (words : List String) : List String :=
  words.flatMap fun word =>
    match word.toList with
    | '-' :: digits =>
      if !digits.isEmpty && digits.all Char.isDigit then ["-C", String.ofList digits] else [word]
    | _ => [word]

/-- The files at a path: itself, or all of those in the directory that it is. -/
def filesAt (place : List String) : Nat → String → FileTree → List (String × Bytes)
  | 0, _, _ => []
  | fuel + 1, path, tree =>
    match tree with
    | .file content => [(path, content)]
    | .sink => []
    | .directory entries =>
      (sortedNames entries).flatMap fun name =>
        match entries.find? fun entry => Octets.ofText entry.1 = name with
        | some (_, inner) =>
          filesAt place fuel (if path.isEmpty then name else pathInside path name) inner
        | none => []

/-- Writes the lines that match a pattern. -/
def grepWith (extended fixed : Bool) : Utility := fun words => do
  let table : OptionTable :=
    { letters := "EFGPivwxclLqsonhHm:e:f:A:B:C:rRabyITUzZd:D:M:N:", failure := 2, usage := grepUsage
      words := [("extended-regexp", 'E'), ("fixed-strings", 'F'), ("basic-regexp", 'G'),
        ("ignore-case", 'i'), ("invert-match", 'v'), ("word-regexp", 'w'), ("line-regexp", 'x'),
        ("count", 'c'), ("files-with-matches", 'l'), ("files-without-match", 'L'), ("quiet", 'q'),
        ("silent", 'q'), ("no-messages", 's'), ("only-matching", 'o'), ("line-number", 'n'),
        ("no-filename", 'h'), ("with-filename", 'H'), ("max-count", 'm'), ("regexp", 'e'),
        ("file", 'f'), ("after-context", 'A'), ("before-context", 'B'), ("context", 'C'),
        ("recursive", 'r'), ("text", 'a'), ("byte-offset", 'b'), ("include", 'M'),
        ("exclude", 'N'), ("exclude-dir", 'D')] }
  let words := words.filter fun word => !(word.startsWith "--color" || word.startsWith "--colour"
    || word = "--line-buffered")
  let (chosen, words) ← options table (withContext words)
  let fromFiles ← (chosen.options.filter (·.1 = 'f')).mapM fun (_, path) => do
    match ← content path with
    | .ok bytes => return textLines bytes
    | .error e => refuse 2 (plainDescription path e)
  let named := (chosen.options.filter (·.1 = 'e')).flatMap fun (_, text) => patternLines text
  let isGiven := chosen.has 'e' || chosen.has 'f'
  let (written, files) ← match words with
    | first :: rest =>
      pure (if isGiven then (named ++ fromFiles.flatten, words) else (patternLines first, rest))
    | [] =>
      if isGiven then pure (named ++ fromFiles.flatten, [])
      else
        printError grepUsage
        printError "Try 'grep --help' for more information.\n"
        finish 2
  let kinds := chosen.options.filter fun (c, _) => ['E', 'F', 'G', 'P'].contains c
  let (extended, fixed) := match kinds.getLast? with
    | some ('E', _) | some ('P', _) => (true, false)
    | some ('F', _) => (false, true)
    | some _ => (false, false)
    | none => (extended, fixed)
  let number (c : Char) (message : String → String) : Act (Option Nat) := do
    match chosen.get? c with
    | none => return none
    | some text =>
      if !text.isEmpty && text.toList.all Char.isDigit then return text.toNat?
      else refuse 2 (message text)
  let most ← number 'm' fun _ => "invalid max count"
  let around (c : Char) := number c fun text => s!"{text}: invalid context length argument"
  let both ← around 'C'
  let after := ((← around 'A') <|> both)
  let before := ((← around 'B') <|> both)
  let patterns ← written.mapM fun pattern =>
    let isClass := pattern.take 2 = ['[', ':'] && pattern.drop (pattern.length - 2) = [':', ']']
    if isClass && !fixed then
      refuse 2 "character class syntax is [[:space:]], not [:space:]"
    else if fixed then return Regex.group 0 [pattern.map .char]
    else match Regex.ofText extended pattern with
      | .ok (regex, _) => return regex
      | .error reason => refuse 2 reason
  let search : Search :=
    { patterns, foldsCase := chosen.has 'i' || chosen.has 'y', wholeWords := chosen.has 'w'
      wholeLines := chosen.has 'x', negated := chosen.has 'v' }
  let isDeep := chosen.has 'r' || chosen.has 'R'
  let operands := if files.isEmpty then (if isDeep then [""] else ["-"]) else files
  let isQuiet := chosen.has 'q'
  let bad (path : String) (e : FileError) : Act Unit :=
    if chosen.has 's' then setStatus 2
    else complain 2 s!"{path}: {e.summary}"
  -- the result for every file: whether a line has been selected
  let searchFile (several : Bool) (path : String) (bytes : Bytes) : Act Bool := do
    let name := if path = "-" then "(standard input)" else path
    let shown : Shown :=
      { name := if !chosen.has 'h' && (several || chosen.has 'H') then some name else none
        numbered := chosen.has 'n', offsets := chosen.has 'b' }
    let lines := linesOf bytes
    let texts := textLines bytes
    let offsets := (lines.foldl (fun (place, found) line => (place + line.length, place :: found))
      (0, ([] : List Nat))).2.reverse
    let chosenLines := (texts.zip (List.range texts.length)).filter fun (line, _) => search.selects line
    let chosenLines := match most with
      | some n => chosenLines.take n
      | none => chosenLines
    let found := !chosenLines.isEmpty
    if isQuiet then return found
    else if chosen.has 'l' then
      if found then printLine name
      return found
    else if chosen.has 'L' then
      if !found then printLine name
      return !found
    else if chosen.has 'c' then
      printLine (({ shown with numbered := false, offsets := false } : Shown).start ':' 0 0
        ++ toString chosenLines.length)
      return found
    else if bytes.contains 0 && !chosen.has 'a' then
      if found then printError s!"{(← read).name}: {name}: binary file matches\n"
      return found
    else
      let offset (n : Nat) : Nat := (offsets[n]?).getD 0
      if chosen.has 'o' then
        if !search.negated then
          chosenLines.forM fun (line, n) =>
            (search.parts ⟨line.toArray, search.foldsCase⟩ (line.length + 1) 0).forM fun part =>
              print (shown.start ':' (n + 1) (offset n) ++ lineText part)
      else
        let places := chosenLines.map Prod.snd
        let hasContext := after.isSome || before.isSome
        let isNear (n : Nat) : Bool :=
          places.any fun m => m ≤ n + before.getD 0 && n ≤ m + after.getD 0
        let visible := (texts.zip (List.range texts.length)).filter fun (_, n) => isNear n
        let _ ← visible.foldlM (fun last (line, n) => do
          if hasContext && last.any (· + 1 < n) then print "--\n"
          let mark := if places.contains n then ':' else '-'
          print (shown.start mark (n + 1) (offset n) ++ lineText line)
          return some n) (none : Option Nat)
      return found
  let found ← operands.foldlM (fun found path => do
    if found && isQuiet then return true
    let several := 1 < operands.length
    let there ← look (if path.isEmpty then "." else path)
    match if isDeep then there.toOption else none with
    | some (.directory entries) =>
      let all := filesAt [] 4096 path (.directory entries)
      let given (c : Char) : List (List Pattern.Item) :=
        (chosen.options.filter (·.1 = c)).map fun (_, pattern) => Finding.items pattern
      let isNamed (patterns : List (List Pattern.Item)) (path : String) : Bool :=
        patterns.any fun pattern => Pattern.accepts pattern (lastPart path).toList
      let all := all.filter fun (path, _) =>
        ((given 'M').isEmpty || isNamed (given 'M') path) && !isNamed (given 'N') path
      all.foldlM (fun found (path, bytes) => do
        return (← searchFile true path bytes) || found) found
    | _ =>
      match ← content path with
      | .ok bytes => return (← searchFile several path bytes) || found
      | .error e =>
        if e = .isDirectory && chosen.get? 'd' = some "skip" then pure ()
        else bad path e
        return found) false
  let hasFailed := (← get).status = 2
  setStatus (if found && (isQuiet || !hasFailed) then 0 else if hasFailed then 2 else 1)

/-- Writes the lines that match a pattern in the basic notation. -/
def grep : Utility := grepWith false false

end ScenarioRunner.Shell.Utility

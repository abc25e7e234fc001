import ScenarioRunner.Files.Tree
import ScenarioRunner.Shell.Number
import ScenarioRunner.Shell.Octets

/-!
# Programs that shells call

A program knows its words, its environment, a directory and what it can read as input. It changes
files, writes output and errors, and ends with a status.
-/

set_option autoImplicit false

namespace ScenarioRunner.Shell

/-- What a program is called with. -/
structure Call where
  name : String
  environment : List (String × String) := []
  /-- The working directory. -/
  place : List String
  input : Bytes := []
  /-- Whether the input comes from a file. -/
  readsFile : Bool := false

/-- What a program has done so far. -/
structure Work where
  files : FileTree
  /-- The places of the files that can be run. -/
  programs : List (List String) := []
  /-- What it has written, last first, and whether as an error. -/
  writes : List (Bool × Bytes) := []
  status : Nat := 0
  /-- Whether it has read its input. -/
  hasRead : Bool := false
  /-- The time that it has spent, in millionths of a second. -/
  spent : Nat := 0

/-- A step of a program. A failure ends the program. -/
abbrev Act := ReaderT Call (ExceptT Unit (StateM Work))

/-- A program, given its words. -/
abbrev Utility := List String → Act Unit

namespace Act

/-- Writes output. -/
def write (bytes : Bytes) : Act Unit :=
  modify fun w => { w with writes := (false, bytes) :: w.writes }

/-- Writes a text as output. -/
def print (text : String) : Act Unit := write (Octets.toBytes text.toList)

/-- Writes a line as output. -/
def printLine (line : String) : Act Unit := print (line ++ "\n")

/-- Writes a text as an error. -/
def printError (text : String) : Act Unit :=
  modify fun w => { w with writes := (true, Octets.toBytes text.toList) :: w.writes }

/-- Sets the status. -/
def setStatus (status : Nat) : Act Unit := modify fun w => { w with status }

/-- Spends some time. -/
def spend (time : Nat) : Act Unit := modify fun w => { w with spent := w.spent + time }

/-- More time than there is. -/
def forever : Nat := 1000000000000000000

/-- Ends with a status. -/
def finish {α : Type} (status : Nat) : Act α := do
  setStatus status
  throw ()

/-- Writes an error, and remembers a status. -/
def complain (status : Nat) (message : String) : Act Unit := do
  printError s!"{(← read).name}: {message}\n"
  setStatus status

/-- Writes an error, and ends with a status. -/
def refuse {α : Type} (status : Nat) (message : String) : Act α := do
  complain status message
  throw ()

/-- As `refuse`, for words that the program does not understand. -/
def refuseUsage {α : Type} (status : Nat) (message : String) : Act α := do
  complain status message
  printError s!"Try '{(← read).name} --help' for more information.\n"
  throw ()

/-- A file of a path, or the input. -/
def content (path : String) : Act (Except FileError Bytes) := do
  let call ← read
  if path = "-" || path = "/dev/stdin" then
    let bytes := if (← get).hasRead then [] else call.input
    modify fun w => { w with hasRead := true }
    return .ok bytes
  else return (← get).files.read call.place (Octets.toText path)

/-- The place that a path leads to. -/
def place (path : String) : Act (Except FileError (List String)) := do
  return (← get).files.locate (← read).place (Octets.toText path)

/-- What stands at a path. -/
def look (path : String) : Act (Except FileError FileTree) := do
  match ← place path with
  | .error e => return .error e
  | .ok place =>
    match (← get).files.get? place with
    | some found => return .ok found
    | none => return .error .notFound

/-- Changes the files. -/
def change (f : FileTree → Except FileError FileTree) : Act (Except FileError Unit) := do
  match f (← get).files with
  | .ok files =>
    modify fun w => { w with files }
    return .ok ()
  | .error e => return .error e

/-- Writes a file, or one of the streams. -/
def save (path : String) (appends : Bool) (bytes : Bytes) : Act (Except FileError Unit) := do
  match path with
  | "/dev/stdout" =>
    write bytes
    return .ok ()
  | "/dev/stderr" =>
    modify fun w => { w with writes := (true, bytes) :: w.writes }
    return .ok ()
  | _ =>
    let place := (← read).place
    change fun files => files.modify place (Octets.toText path) fun before =>
      if appends then before ++ bytes else bytes

end Act

/-! ## Options -/

/-- The options that a program knows: letters, each with a colon behind it if it takes an argument,
and whole words for some of them. -/
structure OptionTable where
  letters : String
  words : List (String × Char) := []
  /-- The status for words that are no options. -/
  failure : Nat := 1
  /-- Whether there are no options behind the first operand. -/
  stops : Bool := false
  /-- What is shown for words that are no options, before the hint at more help. -/
  usage : String := ""

namespace OptionTable

/-- Whether a letter is an option, and whether it takes an argument. -/
def find? (table : OptionTable) (c : Char) : Option Bool :=
  match if c = ':' then [] else table.letters.toList.dropWhile (· ≠ c) with
  | _ :: ':' :: _ => some true
  | _ :: _ => some false
  | [] => none

/-- Writes an error about an option, and ends. -/
def refuse {α : Type} (table : OptionTable) (message : String) : Act α := do
  .complain table.failure message
  .printError table.usage
  .printError s!"Try '{(← read).name} --help' for more information.\n"
  throw ()

/-- The options among some words, each with its argument, and the other words. -/
def parse (table : OptionTable) : Nat → List String → Act (List (Char × String) × List String)
  | 0, words => return ([], words)
  | _ + 1, [] => return ([], [])
  | fuel + 1, word :: rest => do
    match word.toList with
    | ['-', '-'] => return ([], rest)
    | '-' :: '-' :: text =>
      let name := text.takeWhile (· ≠ '=')
      let value := text.drop name.length
      match table.words.find? fun entry => name.isPrefixOf entry.1.toList with
      | none => table.refuse s!"unrecognized option '{word}'"
      | some (full, c) =>
        match table.find? c, value, rest with
        | some true, _ :: argument, _ => found c (String.ofList argument) fuel rest
        | some true, [], argument :: rest => found c argument fuel rest
        | some true, [], [] => table.refuse s!"option '--{full}' requires an argument"
        | _, _ :: _, _ => table.refuse s!"option '--{full}' doesn't allow an argument"
        | _, [], _ => found c "" fuel rest
    | '-' :: c :: letters =>
      match table.find? c, letters, rest with
      | none, _, _ => table.refuse s!"invalid option -- '{c}'"
      | some true, [], argument :: rest => found c argument fuel rest
      | some true, [], [] => table.refuse s!"option requires an argument -- '{c}'"
      | some true, letters, _ => found c (String.ofList letters) fuel rest
      | some false, [], _ => found c "" fuel rest
      | some false, letters, _ => found c "" fuel (String.ofList ('-' :: letters) :: rest)
    | _ =>
      if table.stops then return ([], word :: rest)
      else
        let (options, words) ← table.parse fuel rest
        return (options, word :: words)
where
  /-- An option and those behind it. -/
  found (c : Char) (argument : String) (fuel : Nat) (rest : List String) :
      Act (List (Char × String) × List String) := do
    let (options, words) ← table.parse fuel rest
    return ((c, argument) :: options, words)

end OptionTable

/-- The options that a program has been called with. -/
structure Chosen where
  options : List (Char × String)

namespace Chosen

/-- Whether an option is there. -/
def has (chosen : Chosen) (c : Char) : Bool := chosen.options.any (·.1 = c)

/-- The last argument of an option. -/
def get? (chosen : Chosen) (c : Char) : Option String := chosen.options.reverse.lookup c

end Chosen

/-- The options and the other words that a program has been called with. -/
def Act.options (table : OptionTable) (words : List String) : Act (Chosen × List String) := do
  let (options, rest) ←
    table.parse (words.foldl (fun n word => n + word.length + 1) 1) words
  return (⟨options⟩, rest)

/-! ## Names and lines -/

/-- The characters of names that need no quotes in a message. -/
def isPlainNameChar (c : Char) : Bool :=
  c.isAlphanum || ['%', '+', ',', '-', '.', '/', ':', '=', '@', '_', '^'].contains c

/-- A name in quotes. -/
def quotedName (name : String) : String :=
  if name.toList.contains '\'' && !name.toList.contains '"' then s!"\"{name}\"" else s!"'{name}'"

/-- A name in a message, in quotes if it needs them. -/
def shownName (name : String) : String :=
  if !name.isEmpty && name.toList.all isPlainNameChar then name else quotedName name

/-- Cuts bytes behind every line break. -/
def linesOf : Bytes → List Bytes
  | [] => []
  | b :: rest =>
    if b = 0x0A then [b] :: linesOf rest
    else match linesOf rest with
      | line :: lines => (b :: line) :: lines
      | [] => [[b]]

/-- The lines of bytes as text, without their breaks. -/
def textLines (bytes : Bytes) : List (List Char) :=
  (linesOf bytes).map fun line => Octets.ofBytes (if line.getLast? = some 0x0A then line.dropLast else line)

/-- Does something for every operand, or for the input if there is none. -/
def forOperands (words : List String) (step : String → Act Unit) : Act Unit :=
  (if words.isEmpty then ["-"] else words).forM step

/-- Passes what every operand holds to a step. What cannot be read is reported. -/
def forContents (words : List String) (failure : Nat) (describe : String → FileError → String)
    (step : String → Bytes → Act Unit) : Act Unit :=
  forOperands words fun word => do
    match ← Act.content word with
    | .ok bytes => step word bytes
    | .error e => .complain failure (describe word e)

/-- What all operands hold. -/
def allContents (words : List String) (failure : Nat) (describe : String → FileError → String) :
    Act Bytes :=
  (if words.isEmpty then ["-"] else words).foldlM (fun all word => do
    match ← Act.content word with
    | .ok bytes => return all ++ bytes
    | .error e =>
      Act.complain failure (describe word e)
      return all) []

/-- The usual words for a file that cannot be read. -/
def plainDescription (word : String) (e : FileError) : String := s!"{shownName word}: {e.summary}"

/-- The words for a file that cannot be opened. -/
def openDescription (word : String) (e : FileError) : String :=
  if e = .isDirectory then s!"error reading {quotedName word}: {e.summary}"
  else s!"cannot open {quotedName word} for reading: {e.summary}"

end ScenarioRunner.Shell

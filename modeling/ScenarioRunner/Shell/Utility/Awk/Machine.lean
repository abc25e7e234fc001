import ScenarioRunner.Shell.Program.Basic
import ScenarioRunner.Shell.Utility.Awk.Cell

/-!
# The state of a script

A script works on one record at a time, which is cut into fields. It has variables, arrays, and
streams to files and commands. Its own output is written when it ends, or when a command runs.
-/

set_option autoImplicit false

namespace ScenarioRunner.Shell.Awk

/-- What a variable holds. -/
inductive Slot where
  | cell (value : Cell)
  /-- An array, by its number. -/
  | array (number : Nat)

/-- What is written to other places. -/
inductive Sink where
  | file
  /-- What a command is going to read. -/
  | command (content : List Char)

/-- The state of a script. -/
structure Machine where
  script : Script
  globals : List (String × Slot) := []
  /-- The parameters of the function that is running. -/
  frame : List (String × Slot) := []
  arrays : List (Nat × List (String × Cell)) := []
  arrayCount : Nat := 0
  record : List Char := []
  fields : List Cell := []
  /-- What is left of the input that is read. -/
  rest : List Char := []
  /-- Which argument comes next. -/
  argument : Nat := 1
  /-- Whether any input has been opened. -/
  hasInput : Bool := false
  /-- Where output has gone, latest last. -/
  sinks : List (List Char × Sink) := []
  /-- What is left to be read from files and commands. -/
  readers : List (List Char × List Char) := []
  /-- The ranges that have begun. -/
  ranges : List Nat := []
  /-- What the script has written, last first. -/
  output : List (List Char) := []
  returned : Cell := .unset
  status : Nat := 0
  /-- The state of the random numbers, and the seed that they have come from. -/
  random : Nat := 0
  seed : Cell := .number (.zero false)

/-- Why a statement does not go on to the next one. -/
inductive Course where
  | leave
  | again
  | next
  | nextFile
  | back
  | exit
  /-- An error while the script runs. -/
  | fault (message : String)
  /-- An error that ends the script at once. -/
  | refusal (message : String)

/-- A step of a script. -/
abbrev Step := ExceptT Course (StateT Machine Run)

/-- A step of the shell that the script runs in. -/
def outside {α : Type} (step : Run α) : Step α := fun m => do return (.ok (← step), m)

/-! ## Arrays -/

/-- The number that says in which of the places of a table a key stands. -/
def keyHash (key : String) : Nat :=
  key.toList.foldl (fun h c => ((h ^^^ c.toNat) * 16777619) % 0x100000000) 2166136261

/-- How many places a table has for a count of keys. -/
def tableSize (count : Nat) : Nat → Nat → Nat
  | 0, size => size
  | fuel + 1, size => if 12 * size < count then tableSize count fuel (2 * size) else size

/-- The keys of an array in the order of their places, later ones before earlier ones. -/
def keysInOrder (keys : List String) : List String :=
  let size := tableSize keys.length 32 64
  keys.reverse.mergeSort fun a b => decide (keyHash a % size ≤ keyHash b % size)

/-- A new array. -/
def newArray (entries : List (String × Cell)) : Step Nat := do
  let m ← get
  modify fun m =>
    { m with arrays := (m.arrayCount, entries) :: m.arrays, arrayCount := m.arrayCount + 1 }
  return m.arrayCount

/-- The entries of an array. -/
def entries (number : Nat) : Step (List (String × Cell)) := do
  return ((← get).arrays.lookup number).getD []

/-- Replaces the entries of an array. -/
def setEntries (number : Nat) (found : List (String × Cell)) : Step Unit :=
  modify fun m => { m with arrays := m.arrays.map fun one =>
    if one.1 = number then (number, found) else one }

/-- The value at a key, which is there from then on. -/
def elementAt (number : Nat) (key : String) : Step Cell := do
  let all ← entries number
  match all.lookup key with
  | some cell => return cell
  | none =>
    setEntries number (all ++ [(key, .unset)])
    return .unset

/-- Puts a value at a key. -/
def setElement (number : Nat) (key : String) (cell : Cell) : Step Unit := do
  let all ← entries number
  setEntries number (if (all.lookup key).isSome then
      all.map fun one => if one.1 = key then (key, cell) else one
    else all ++ [(key, cell)])

/-! ## Variables -/

/-- What a variable holds, if anything. -/
def slot? (name : String) : Step (Option Slot) := do
  let m ← get
  match m.frame.lookup name with
  | some found => return some found
  | none => return m.globals.lookup name

/-- Makes a variable hold something. -/
def setSlot (name : String) (slot : Slot) : Step Unit :=
  modify fun m =>
    if (m.frame.lookup name).isSome then
      { m with frame := m.frame.map fun one => if one.1 = name then (name, slot) else one }
    else if (m.globals.lookup name).isSome then
      { m with globals := m.globals.map fun one => if one.1 = name then (name, slot) else one }
    else { m with globals := (name, slot) :: m.globals }

/-- The array of a name, a new one if there is none. -/
def arrayOf (name : String) : Step Nat := do
  match ← slot? name with
  | some (.array number) => return number
  | some (.cell .unset) | none =>
    let number ← newArray []
    setSlot name (.array number)
    return number
  | some (.cell _) => throw (.refusal s!"line 1: illegal reference to variable {name}")

/-- The value of a variable. -/
def valueOf (name : String) : Step Cell := do
  match ← slot? name with
  | some (.cell cell) => return cell
  | some (.array _) => throw (.refusal s!"line 1: illegal reference to array {name}")
  | none => return .unset

/-- The value of a variable of the language itself, which no parameter hides. -/
def special (name : String) : Step Cell := do
  match (← get).globals.lookup name with
  | some (.cell cell) => return cell
  | _ => return .unset

/-- Gives a variable of the language itself a value. -/
def setSpecial (name : String) (cell : Cell) : Step Unit :=
  modify fun m =>
    { m with globals := (name, .cell cell) :: m.globals.filter (·.1 ≠ name) }

/-- The format for numbers in texts. -/
def style : Step (List Char) := do return (← special "CONVFMT").toText "%.6g".toList

/-- The text of a value. -/
def textOf (cell : Cell) : Step (List Char) := do return cell.toText (← style)

/-- The text of a variable of the language itself. -/
def specialText (name : String) : Step (List Char) := do textOf (← special name)

/-! ## Records and fields -/

/-- The expression that a text is. -/
def compiled (text : List Char) : Step Regex := do
  match Regex.ofText true text with
  | .ok (regex, _) => return regex
  | .error reason =>
    let shown := String.ofList text
    throw (.refusal s!"regular expression compile failed ({reason})\n{shown}")

/-- The separator that a text stands for. -/
def separatorOf (text : List Char) : Step Separator := do
  match text with
  | [] => return .none
  | [' '] => return .blanks
  | [c] => return .char c
  | _ => return .regex (← compiled text)

/-- Cuts the record into fields. -/
def splitRecord : Step Unit := do
  let separator ← separatorOf (← specialText "FS")
  let m ← get
  let inLines := (← specialText "RS").isEmpty
  let found := match separator, inLines with
    | .char c, true => (separator.fields (m.record.map fun d => if d = '\n' then c else d))
    | _, _ => separator.fields m.record
  modify fun m => { m with fields := found.map Cell.input }
  setSpecial "NF" (.ofInt found.length)

/-- Replaces the record. -/
def setRecord (text : List Char) : Step Unit := do
  modify fun m => { m with record := text }
  splitRecord

/-- Puts the record together from its fields. -/
def joinRecord : Step Unit := do
  let between ← specialText "OFS"
  let texts ← (← get).fields.mapM textOf
  modify fun m => { m with record := between.intercalate texts }

/-- Makes the record have a count of fields. -/
def setFieldCount (count : Nat) : Step Unit := do
  modify fun m =>
    { m with fields := m.fields.take count ++ List.replicate (count - m.fields.length) .unset }
  setSpecial "NF" (.ofInt count)
  joinRecord

/-- The number of a field. -/
def fieldNumber (cell : Cell) : Step Nat := do
  let n := wholePart cell.toNumber
  if n < 0 then throw (.fault s!"negative field index ${n}") else return n.toNat

/-- The value of a field; the number zero stands for the record. -/
def fieldAt (n : Nat) : Step Cell := do
  let m ← get
  if n = 0 then return .input m.record else return (m.fields[n - 1]?).getD .unset

/-- Replaces a field, or the record. -/
def setField (n : Nat) (cell : Cell) : Step Unit := do
  if n = 0 then setRecord (← textOf cell)
  else
    if (← get).fields.length < n then setFieldCount n
    modify fun m => { m with fields := m.fields.set (n - 1) cell }
    joinRecord

/-- Gives a variable a value. The count of fields changes the record. -/
def assign (name : String) (cell : Cell) : Step Unit := do
  match ← slot? name with
  | some (.array _) => throw (.refusal s!"line 1: illegal reference to array {name}")
  | _ =>
    setSlot name (.cell cell)
    if name = "NF" && ((← get).frame.lookup name).isNone then
      setFieldCount (wholePart cell.toNumber).toNat

/-! ## Output -/

/-- Writes what the script has written so far. -/
def flush : Step Unit := do
  let m ← get
  modify fun m => { m with output := [] }
  let _ ← outside (writeTo 1 (Octets.toBytes m.output.reverse.flatten))

/-- How programs run others, and the environment of the script. -/
structure Site where
  run : Program.Runner
  environment : List (String × String)

/-- Runs a command, and gives its status. -/
def Site.command (site : Site) (text : List Char) : Run ExitStatus := do
  match ← site.run site.environment ["sh", "-c", String.ofList text] with
  | .ok ended => return ended
  | .error status => return .exited status

/-- The number that a script sees of a status. -/
def statusNumber : ExitStatus → Int
  | .exited status => status
  | .killed signal => 256 + signal

/-- Runs a step on a channel in the place of a stream. -/
def onChannel {α : Type} (stream : Nat) (id : Nat) (step : Run α) : Run α := do
  let before := (← process).streams
  connect stream (some id)
  let found ← step
  modifyProcess fun p => { p with streams := before }
  return found

/-- Runs a command on what has been written for it. -/
def finishCommand (site : Site) (text content : List Char) : Step ExitStatus := do
  flush
  outside do
    let id ← addChannel (.pipe (Octets.toBytes content))
    onChannel 0 id (site.command text)

/-- What a command writes. -/
def commandOutput (site : Site) (text : List Char) : Step (List Char) := do
  flush
  outside do
    let id ← addChannel (.pipe [])
    let _ ← onChannel 1 id (site.command text)
    return Octets.ofBytes ((← get).content id)

/-- Writes to a file. -/
def writeFile (keeps : Bool) (path content : List Char) : Step Unit := do
  let isOpen := ((← get).sinks.lookup path).isSome
  let s ← outside get
  let name := String.ofList path
  match s.files.modify s.process.place (Octets.toText name) fun before =>
      (if isOpen || keeps then before else []) ++ Octets.toBytes content with
  | .ok files =>
    outside (modify fun s => { s with files })
    if !isOpen then modify fun m => { m with sinks := m.sinks ++ [(path, .file)] }
  | .error e =>
    throw (.refusal ("cannot open \"" ++ name ++ "\" for output (" ++ e.summary ++ ")"))

/-- Writes to a path, which can be that of a stream. -/
def writePath (keeps : Bool) (path content : List Char) : Step Unit := do
  if path = "/dev/stdout".toList || path = ['-'] then
    modify fun m => { m with output := content :: m.output }
  else if path = "/dev/stderr".toList then
    let _ ← outside (writeTo 2 (Octets.toBytes content))
  else writeFile keeps path content

/-- Adds to what a command is going to read. -/
def writeCommand (text content : List Char) : Step Unit :=
  modify fun m =>
    match m.sinks.lookup text with
    | some (.command before) =>
      { m with sinks := m.sinks.map fun one =>
        if one.1 = text then (text, .command (before ++ content)) else one }
    | _ => { m with sinks := m.sinks ++ [(text, .command content)] }

/-- Closes a file or a command. -/
def close (site : Site) (name : List Char) : Step Int := do
  let m ← get
  let isRead := (m.readers.lookup name).isSome
  modify fun m => { m with
    sinks := m.sinks.filter (·.1 ≠ name), readers := m.readers.filter (·.1 ≠ name) }
  match m.sinks.lookup name with
  | some (.command content) => return statusNumber (← finishCommand site name content)
  | some .file => return 0
  | none => return if isRead then 0 else -1

/-! ## Input -/

/-- The next record of a text and what follows it. -/
def nextRecord (separator text : List Char) : Step (Option (List Char × List Char)) := do
  if text.isEmpty then return none
  else match separator with
    | [] =>
      let body := text.dropWhile (· = '\n')
      if body.isEmpty then return none
      else
        let size := paragraph body
        return some (body.take size, (body.drop size).dropWhile (· = '\n'))
    | [c] =>
      let record := text.takeWhile (· ≠ c)
      return some (record, text.drop (record.length + 1))
    | _ =>
      let regex ← compiled separator
      match regex.find? ⟨text.toArray, false⟩ 0 with
      | some (start, m) =>
        if start < m.place then return some (text.take start, text.drop m.place)
        else return some (text, [])
      | none =>
        -- the line break at the end belongs to the separator
        return some (if text.getLast? = some '\n' then text.dropLast else text, [])
where
  /-- How long a text is up to an empty line. -/
  paragraph : List Char → Nat
    | '\n' :: '\n' :: _ => 0
    | ['\n'] => 0
    | _ :: rest => 1 + paragraph rest
    | [] => 0

/-- The value of an argument of the script. -/
def argumentText (n : Nat) : Step (List Char) := do
  match (← get).globals.lookup "ARGV" with
  | some (.array number) =>
    match (← entries number).lookup (toString n) with
    | some cell => textOf cell
    | none => return []
  | _ => return []

/-- What text with escapes stands for. -/
def withoutEscapes : Nat → List Char → List Char
  | 0, text => text
  | _ + 1, [] => []
  | fuel + 1, '\\' :: rest =>
    let (found, behind) := escape rest
    found ++ withoutEscapes fuel behind
  | fuel + 1, c :: rest => c :: withoutEscapes fuel rest

/-- The value of text on the command line, with its escapes. -/
def givenValue (text : List Char) : Cell := .input (withoutEscapes text.length text)

/-- The name and the value of text that assigns. -/
def assignment? (text : List Char) : Option (String × List Char) :=
  let name := text.takeWhile (· ≠ '=')
  match name, text.drop name.length with
  | c :: rest, _ :: value =>
    if (c.isAlpha || c = '_') && rest.all (fun d => d.isAlphanum || d = '_') then
      some (String.ofList name, value)
    else none
  | _, _ => none

/-- Opens the next input. Tells whether there is one. -/
def openNext : Nat → Step Bool
  | 0 => return false
  | fuel + 1 => do
    let m ← get
    let count := wholePart ((← special "ARGC").toNumber)
    let openInput : Step Bool := do
      let bytes ← outside Program.takeInput
      modify fun m => { m with rest := Octets.ofBytes bytes, hasInput := true }
      setSpecial "FNR" (.ofInt 0)
      return true
    if count ≤ m.argument then
      if m.hasInput then return false else openInput
    else
      modify fun m => { m with argument := m.argument + 1 }
      let text ← argumentText m.argument
      if text.isEmpty then openNext fuel
      else match assignment? text with
        | some (name, value) =>
          assign name (givenValue value)
          openNext fuel
        | none =>
          setSpecial "FILENAME" (.text text)
          if text = ['-'] || text = "/dev/stdin".toList then openInput
          else
            let s ← outside get
            let name := String.ofList text
            match s.files.read s.process.place (Octets.toText name) with
            | .ok bytes =>
              modify fun m => { m with rest := Octets.ofBytes bytes, hasInput := true }
              setSpecial "FNR" (.ofInt 0)
              return true
            | .error .isDirectory => throw (.refusal "read error (Is a directory)")
            | .error e => throw (.refusal ("cannot open \"" ++ name ++ "\" (" ++ e.summary ++ ")"))

/-- Counts a record. -/
def countRecord (name : String) : Step Unit := do
  setSpecial name (.number (Operation.add.apply (← special name).toNumber (.ofInt 1)))

/-- The next record of the input. -/
def nextInput : Nat → Step (Option (List Char))
  | 0 => return none
  | fuel + 1 => do
    match ← nextRecord (← specialText "RS") (← get).rest with
    | some (record, rest) =>
      modify fun m => { m with rest }
      countRecord "NR"
      countRecord "FNR"
      return some record
    | none => if ← openNext 4096 then nextInput fuel else return none

end ScenarioRunner.Shell.Awk

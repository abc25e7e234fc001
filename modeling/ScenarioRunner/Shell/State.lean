import ScenarioRunner.Action.Local
import ScenarioRunner.Files.Tree
import ScenarioRunner.Shell.Octets
import ScenarioRunner.Shell.Syntax

/-!
# The state of a shell

A shell is a process with variables, functions, arguments and streams of its own. Processes share
the files and the channels that their streams lead to. A command that cannot go on says where the
shell goes on instead: behind a loop, behind a function, or nowhere.
-/

set_option autoImplicit false

namespace ScenarioRunner.Shell

/-- A variable. One without a value can still be marked. -/
structure Variable where
  value : Option String
  exported : Bool := false
  constant : Bool := false

/-- What a stream leads to. -/
inductive Channel where
  /-- What has been written and not yet been read. -/
  | pipe (content : Bytes)
  | file (place : List String) (offset : Nat) (appends : Bool)
  | directory
  /-- Nothing comes from it, and what is written to it is lost. -/
  | sink

/-- A command that runs beside a shell. -/
structure Job where
  /-- The number of its process. -/
  number : Nat
  /-- Its place among the jobs of the shell. -/
  slot : Nat
  /-- How it has ended, if it has. -/
  ended : Option ExitStatus := none
  /-- Whether the shell knows that it has ended. -/
  isKnown : Bool := false

/-- What belongs to one process. -/
structure Process where
  /-- What its messages begin with. -/
  name : String := "sh"
  number : Nat
  place : List String
  /-- The channels of the streams. -/
  streams : List (Nat × Nat)
  bindings : List (String × Variable) := []
  functions : List (String × Command) := []
  arguments : List String := []
  /-- The letters of the options that are set. -/
  options : List Char := []
  /-- The commands for signals, and for the end of the shell under the number zero. -/
  traps : List (Nat × String) := []
  /-- The signals that are to be answered by commands. -/
  signals : List Nat := []
  /-- The status of the last command. -/
  status : Nat := 0
  line : Nat := 1
  /-- The status of the last expansion that ran commands. -/
  substituted : Nat := 0
  /-- The status with which the shell is about to end, or to go on, behind commands for a signal. -/
  ending : Option Nat := none
  /-- The built-in command that is running. -/
  command : Option String := none
  /-- How many loops surround the command. -/
  loops : Nat := 0
  /-- What the functions that are running hide of the variables. -/
  hidden : List (List (String × Option Variable)) := []
  /-- The letters of options that are still to be read in the current argument. -/
  letters : List Char := []
  /-- Commands that stand for the first word of others. -/
  aliases : List (String × String) := []
  /-- The commands that run beside the shell, latest first. -/
  jobs : List Job := []
  /-- The process of the latest command that was run beside the shell. -/
  latest : Option Nat := none
  /-- The permissions that new files do not get. -/
  mask : Nat := 0o22
  /-- Whether the shell is only a part of another one that has its number. -/
  isPart : Bool := false

/-- A command beside a shell that is still to be run. -/
structure Pending where
  number : Nat
  /-- The time at which it begins. -/
  start : Nat
  /-- The process that it runs in. -/
  process : Process
  body : Command
  /-- The time at which a signal stops it, and the signal. -/
  stop : Option (Nat × Nat) := none

/-- The state of all processes. -/
structure State where
  files : FileTree
  /-- The places of the files that can be run. -/
  programs : List (List String) := []
  channels : List (Nat × Channel)
  channelCount : Nat
  processCount : Nat
  /-- The texts of here-documents. -/
  documents : List (Nat × Word) := []
  /-- The processes that have been stopped while a part of them is still running, with the signal. -/
  stopped : List (Nat × Nat) := []
  /-- The time that has passed, in millionths of a second. -/
  clock : Nat := 0
  /-- The time at which everything that runs is stopped. -/
  deadline : Option Nat := none
  /-- Whether that time has come. -/
  isOverdue : Bool := false
  pending : List Pending := []
  process : Process

/-- Why a command does not go on to the next one. -/
inductive Flow where
  /-- The process ends with its status. -/
  | finish
  /-- The process has been stopped by a signal. -/
  | killed (signal : Nat)
  /-- Some loops are left. -/
  | leave (loops : Nat)
  /-- Some loops but one are left, and that one goes on with its next round. -/
  | again (loops : Nat)
  /-- A function, or a file of commands, is left. -/
  | back
  /-- An error that has been reported. -/
  | fault

/-- A step of a shell. -/
abbrev Run := ExceptT Flow (StateM State)

/-- The process at work. -/
def process : Run Process := do return (← get).process

/-- Changes the process at work. -/
def modifyProcess (f : Process → Process) : Run Unit :=
  modify fun s => { s with process := f s.process }

/-! ## Channels -/

namespace State

/-- Replaces a channel. -/
def setChannel (s : State) (id : Nat) (channel : Channel) : State :=
  { s with channels := (id, channel) :: s.channels.filter (·.1 != id) }

/-- Writes to a channel. -/
def write (s : State) (id : Nat) (bytes : Bytes) : State :=
  match s.channels.lookup id with
  | some (.pipe content) => s.setChannel id (.pipe (content ++ bytes))
  | some (.file place offset appends) =>
    match s.files.get? place with
    | some (.file content) =>
      let offset := if appends then content.length else offset
      let gap := List.replicate (offset - content.length) 0
      let after := offset + bytes.length
      let files := FileTree.insert
        (.file (content.take offset ++ gap ++ bytes ++ content.drop after)) s.files place
      { s with files }.setChannel id (.file place after appends)
    | _ => s
  | _ => s

/-- What can be read from a channel. -/
def content (s : State) (id : Nat) : Bytes :=
  match s.channels.lookup id with
  | some (.pipe content) => content
  | some (.file place offset _) =>
    match s.files.get? place with
    | some (.file content) => content.drop offset
    | _ => []
  | _ => []

/-- Takes some bytes from a channel. -/
def drop (s : State) (id count : Nat) : State :=
  match s.channels.lookup id with
  | some (.pipe content) => s.setChannel id (.pipe (content.drop count))
  | some (.file place offset appends) => s.setChannel id (.file place (offset + count) appends)
  | _ => s

end State

/-- Adds a channel. -/
def addChannel (channel : Channel) : Run Nat := do
  let s ← get
  set { s with channels := (s.channelCount, channel) :: s.channels, channelCount := s.channelCount + 1 }
  return s.channelCount

/-- The channel of a stream. -/
def channelOf (stream : Nat) : Run (Option Nat) := do return (← process).streams.lookup stream

/-- The streams with one that leads elsewhere, or nowhere. -/
def withStream (streams : List (Nat × Nat)) (stream : Nat) (channel : Option Nat) :
    List (Nat × Nat) :=
  let others := streams.filter (·.1 != stream)
  match channel with
  | some id => (stream, id) :: others
  | none => others

/-- Leads a stream elsewhere, or nowhere. -/
def connect (stream : Nat) (channel : Option Nat) : Run Unit :=
  modifyProcess fun p => { p with streams := withStream p.streams stream channel }

/-- Writes to a stream. Tells whether it leads anywhere. -/
def writeTo (stream : Nat) (bytes : Bytes) : Run Bool := do
  match ← channelOf stream with
  | some id =>
    modify fun s => s.write id bytes
    return true
  | none => return false

/-! ## Messages -/

/-- Writes an error. -/
def complain (message : String) : Run Unit := do
  let p ← process
  let command := match p.command with
    | some name => s!"{name}: "
    | none => ""
  let _ ← writeTo 2 (Octets.toBytes s!"{p.name}: {p.line}: {command}{message}\n".toList)

/-- Sets the status. -/
def setStatus (status : Nat) : Run Unit := modifyProcess fun p => { p with status }

/-- Fails with an error. -/
def fail {α : Type} (message : String) : Run α := do
  complain message
  setStatus 2
  throw .fault

/-! ## Variables -/

/-- The variable of a name. -/
def binding? (name : String) : Run (Option Variable) := do return (← process).bindings.lookup name

/-- The value of a variable. -/
def value? (name : String) : Run (Option String) := do
  return (← binding? name).bind Variable.value

/-- Puts a variable in, or removes it. -/
def setVariable (name : String) (v : Option Variable) : Run Unit :=
  modifyProcess fun p =>
    let others := p.bindings.filter (·.1 != name)
    { p with bindings := match v with
      | some v => (name, v) :: others
      | none => others }

/-- Whether an option is set. -/
def hasOption (letter : Char) : Run Bool := do return (← process).options.contains letter

/-- Gives a variable a value. -/
def assign (name value : String) (exported : Bool := false) : Run Unit := do
  let exported := exported || (← hasOption 'a')
  match ← binding? name with
  | some v =>
    if v.constant then fail s!"{name}: is read only"
    else setVariable name (some { v with value := some value, exported := v.exported || exported })
  | none => setVariable name (some { value := some value, exported })

/-- Removes a variable. -/
def unbind (name : String) : Run Unit := do
  match ← binding? name with
  | some v => if v.constant then fail s!"{name}: is read only" else setVariable name none
  | none => return ()

/-- The variables that other programs see. -/
def environment : Run (List (String × String)) := do
  return (← process).bindings.filterMap fun (name, v) =>
    if v.exported then v.value.map fun value => (name, value) else none

/-- The characters that separate fields. -/
def separators : Run (List Char) := do
  return ((← value? "IFS").getD " \t\n").toList

/-! ## Files -/

/-- What a path leads to. Some paths lead to the streams of the process. -/
def streamOfPath? (path : String) : Option Nat :=
  match path with
  | "/dev/stdin" => some 0
  | "/dev/stdout" => some 1
  | "/dev/stderr" => some 2
  | _ =>
    if path.startsWith "/dev/fd/" then (String.ofList (path.toList.drop 8)).toNat? else none

/-- How a message words an error about a file that is read, or written. -/
def openError (writing : Bool) : FileError → String
  | .notFound => if writing then "Directory nonexistent" else "No such file"
  | .notDirectory => if writing then "Directory nonexistent" else "No such file"
  | e => e.summary

/-- Opens a file as a channel. -/
def openFile (opening : Opening) (path : String) : Run Nat := do
  let s ← get
  let text := Octets.toText path
  let place := s.process.place
  match streamOfPath? path with
  | some stream =>
    match ← channelOf stream with
    | some id => return id
    | none =>
      if opening = .read then fail s!"cannot open {path}: No such file"
      else fail s!"cannot create {path}: Directory nonexistent"
  | none =>
    match opening with
    | .read =>
      match s.files.locate place text with
      | .error e => fail s!"cannot open {path}: {openError false e}"
      | .ok place =>
        match s.files.get? place with
        | none => fail s!"cannot open {path}: {openError false .notFound}"
        | some (.file _) => addChannel (.file place 0 false)
        | some (.directory _) => addChannel .directory
        | some .sink => addChannel .sink
    | _ =>
      let keeps := opening = .append || opening = .update
      if opening = .write && s.process.options.contains 'C' && isFile s place text then
        fail s!"cannot create {path}: File exists"
      else
        match s.files.modify place text (if keeps then id else fun _ => []), s.files.locate place text with
        | .ok files, .ok place =>
          modify fun s => { s with files }
          match files.get? place with
          | some .sink => addChannel .sink
          | _ => addChannel (.file place 0 (opening = .append))
        | .error e, _ => fail s!"cannot create {path}: {openError true e}"
        | _, .error e => fail s!"cannot create {path}: {openError true e}"
where
  /-- Whether a path leads to a file. -/
  isFile (s : State) (place : List String) (text : String) : Bool :=
    match s.files.locate place text with
    | .ok place =>
      match s.files.get? place with
      | some (.file _) => true
      | _ => false
    | .error _ => false

/-! ## Processes -/

/-- Runs a step as a process of its own, which changes neither the shell nor its streams. Tells how
it ends. -/
def runApart (prepare : Process → Process) (step : Run Unit) : Run ExitStatus := do
  let before ← process
  modifyProcess fun p => prepare { p with
    loops := 0, signals := [], jobs := [], traps := p.traps.filter (·.2.isEmpty), isPart := true }
  let flow ← tryCatch (do step; return none) fun flow => return some flow
  let after ← process
  modifyProcess fun _ => before
  match flow with
  | some (.killed signal) => return .killed signal
  | _ => return .exited (after.status % 256)

/-- Takes note of the signals that parts of the shell have sent to it. -/
def noteSignals : Run Unit := do
  let p ← process
  if !p.isPart then
    let own := (← get).stopped.filter (·.1 = p.number)
    modify fun s => { s with stopped := s.stopped.filter (·.1 ≠ p.number) }
    own.reverse.forM fun (_, signal) => do
      match if signal = 9 then none else p.traps.lookup signal with
      | some action =>
        if !action.isEmpty then modifyProcess fun p => { p with signals := p.signals ++ [signal] }
      | none => throw (.killed signal)

/-- As `runApart`, and takes note of signals. -/
def isolated (prepare : Process → Process) (step : Run Unit) : Run ExitStatus := do
  let ended ← runApart prepare step
  noteSignals
  return ended

/-- The status that a shell sees of a process. -/
def statusOf : ExitStatus → Nat
  | .exited code => code
  | .killed signal => 128 + signal

/-- Runs a step and collects what it writes. -/
def collected (step : Run Unit) : Run (Bytes × ExitStatus) := do
  let id ← addChannel (.pipe [])
  let ended ← isolated (fun p => { p with streams := withStream p.streams 1 (some id) }) step
  let s ← get
  set { s with channels := s.channels.filter (·.1 != id) }
  return (s.content id, ended)

end ScenarioRunner.Shell

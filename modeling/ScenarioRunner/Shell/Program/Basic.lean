import ScenarioRunner.Shell.Builtin
import ScenarioRunner.Shell.Utility.All

/-!
# Running programs

A name leads to a program through the directories of the search path. Some programs run others; how
that is done is passed to them.
-/

set_option autoImplicit false

namespace ScenarioRunner.Shell

/-- A program that can be run. -/
inductive Program where
  | utility (run : Utility)
  /-- A program of a name that runs others. -/
  | runner (name : String)
  /-- A file of commands. -/
  | script (path : String)

namespace Program

/-- The programs that run others. -/
def runners : List String :=
  ["sh", "dash", "bash", "env", "xargs", "timeout", "nohup", "nice", "setsid", "stdbuf", "which",
    "awk", "mawk"]

/-- The directories with the programs of the system. -/
def directories : List String :=
  ["/bin", "/usr/bin", "/bin/", "/usr/bin/"]

/-- The names of the programs of the system. -/
def names : List String := runners ++ Utility.all.map Prod.fst

/-- The places of the programs of the system. -/
def places : List (List String) := names.flatMap fun name => [["bin", name], ["usr", "bin", name]]

/-- The search path that is used if there is none. -/
def defaultPath : String := "/usr/local/sbin:/usr/local/bin:/usr/sbin:/usr/bin:/sbin:/bin"

/-- The program of the system that has a name. -/
def ofName? (name : String) : Option Program :=
  if runners.contains name then some (.runner name)
  else (Utility.all.lookup name).map .utility

/-- The program at a path, or the status for one that cannot be run. -/
def atPath (s : State) (path : String) : Except Nat Program :=
  let directory := Octets.toText (FileTree.parentPath path)
  match if directories.contains directory then ofName? (Utility.lastPart path) else none with
  | some program => .ok program
  | none =>
    match s.files.locate s.process.place (Octets.toText path) with
    | .error .notDirectory => .error 126
    | .error _ => .error 127
    | .ok place =>
      match s.files.get? place with
      | some (.file _) => if s.programs.contains place then .ok (.script path) else .error 126
      | some _ => .error 126
      | none => .error 127

/-- The search path of a process. -/
def searchPath (s : State) : String :=
  match s.process.bindings.lookup "PATH" with
  | some v => v.value.getD defaultPath
  | none => defaultPath

/-- The program of a name with its path, or the status for one that cannot be run. -/
def find (s : State) (path name : String) : Except Nat (String × Program) :=
  if name.toList.contains '/' then (atPath s name).map fun program => (name, program)
  else
    let paths := (Utility.splitAt ':' path.toList).map fun directory =>
      if directory.isEmpty then name else Utility.pathInside (String.ofList directory) name
    paths.foldl (fun found path =>
      match found with
      | .ok _ => found
      | .error status =>
        match atPath s path with
        | .ok program => .ok (path, program)
        | .error own => .error (if own = 126 && isFile s path then 126 else status)) (.error 127)
where
  /-- Whether a path leads to a file. -/
  isFile (s : State) (path : String) : Bool :=
    match s.files.read s.process.place (Octets.toText path) with
    | .ok _ => true
    | .error _ => false

/-- Why a program cannot be run, by its status. -/
def reason (status : Nat) : String := if status = 126 then "Permission denied" else "not found"

/-! ## Programs on their own -/

/-- Everything that can be read from the input. -/
def input : Run Bytes := do
  match ← channelOf 0 with
  | some id => return (← get).content id
  | none => return []

/-- Takes everything that can be read from the input. -/
def takeInput : Run Bytes := do
  match ← channelOf 0 with
  | some id =>
    let bytes := (← get).content id
    modify fun s => s.drop id bytes.length
    return bytes
  | none => return []

/-- Runs a program on its own. -/
def runUtility (utility : Utility) (environment : List (String × String)) (name : String)
    (words : List String) : Run ExitStatus := do
  let s ← get
  let readsFile := match (← channelOf 0).bind fun id => s.channels.lookup id with
    | some (.file _ _ _) => true
    | _ => false
  let call : Call :=
    { name, environment, place := s.process.place, input := ← input, readsFile }
  let (_, w) := (((utility words).run call).run).run { files := s.files, programs := s.programs }
  modify fun s => { s with files := w.files, programs := w.programs }
  if w.hasRead then let _ ← takeInput
  w.writes.reverse.forM fun (isError, bytes) => do
    let _ ← writeTo (if isError then 2 else 1) bytes
  let clock := s.clock + w.spent
  match s.deadline.filter (· < clock) with
  | some time =>
    modify fun s => { s with clock := time, isOverdue := true }
    return .killed 15
  | none =>
    modify fun s => { s with clock }
    return .exited (w.status % 256)

/-! ## Programs that run others -/

/-- How programs run others: in an environment, with the words of a call. The status for one that
cannot be run comes back as an error. -/
abbrev Runner := List (String × String) → List String → Run (Except Nat ExitStatus)

/-- Writes an error of a program. -/
def complainAs (name message : String) : Run Unit := do
  let _ ← writeTo 2 (Octets.toBytes s!"{name}: {message}\n".toList)

/-- Writes an error of a program, and the hint at more help, and gives a status. -/
def refuseAs (name message : String) (status : Nat) : Run ExitStatus := do
  complainAs name message
  let _ ← writeTo 2 (Octets.toBytes s!"Try '{name} --help' for more information.\n".toList)
  return .exited status

/-- Runs a program for another one, which reports that it cannot be run. -/
def runFor (run : Runner) (describe : String → String) (name : String)
    (environment : List (String × String)) (words : List String) : Run ExitStatus := do
  match ← run environment words with
  | .ok ended => return ended
  | .error status =>
    let why := if status = 126 then "Permission denied" else "No such file or directory"
    let subject := describe (words.headD "")
    complainAs name s!"{subject}: {why}"
    return .exited status

end Program

end ScenarioRunner.Shell

import ScenarioRunner.Shell.Program.Batches
import ScenarioRunner.Shell.Utility.Awk.Command

/-!
# Programs that run others

Programs that run others in another environment, for some time, or not at all but to tell where they
are.
-/

set_option autoImplicit false

namespace ScenarioRunner.Shell

namespace Program

/-- Runs a program in a changed environment, or shows the environment. -/
def env (run : Runner) (environment : List (String × String)) :
    Nat → List String → Run ExitStatus
  | 0, _ => return .exited 125
  | fuel + 1, words => do
    match words with
    | "-i" :: rest | "-" :: rest | "--ignore-environment" :: rest => env run [] fuel rest
    | "--" :: rest => assigned environment rest
    | "-u" :: name :: rest => env run (environment.filter (·.1 != name)) fuel rest
    | ["-u"] => refuseAs "env" "option requires an argument -- 'u'" 125
    | "-S" :: text :: rest =>
      env run environment fuel ((text.splitOn " ").filter (!·.isEmpty) ++ rest)
    | word :: rest =>
      match word.toList with
      | '-' :: 'u' :: name => env run (environment.filter (·.1 != String.ofList name)) fuel rest
      | '-' :: c :: _ => refuseAs "env" s!"invalid option -- '{c}'" 125
      | _ => assigned environment (word :: rest)
    | [] => assigned environment []
where
  /-- Runs what follows assignments. -/
  assigned (environment : List (String × String)) : List String → Run ExitStatus
    | [] => do
      environment.forM fun (name, value) => do
        let _ ← writeTo 1 (Octets.toBytes s!"{name}={value}\n".toList)
      return .exited 0
    | word :: rest => do
      match splitAssignment word with
      | (name, some value) =>
        let others := environment.filter (·.1 != name)
        assigned (others ++ [(name, value)]) rest
      | (_, none) => runFor run quotedName "env" environment (word :: rest)

/-- How the time of a program is limited. -/
structure TimeLimit where
  /-- The name of the signal that stops it. -/
  signal : String := "TERM"
  /-- Whether its own status is kept when it is stopped. -/
  keepsStatus : Bool := false
  /-- Whether it is told that a program is stopped. -/
  isVerbose : Bool := false

/-- Runs a program for some time. -/
def timeout (run : Runner) (environment : List (String × String)) (limit : TimeLimit) :
    Nat → List String → Run ExitStatus
  | 0, _ => return .exited 125
  | fuel + 1, words => do
    match words with
    | "-s" :: name :: rest => timeout run environment { limit with signal := name } fuel rest
    | "-k" :: _ :: rest => timeout run environment limit fuel rest
    | "--preserve-status" :: rest =>
      timeout run environment { limit with keepsStatus := true } fuel rest
    | "--foreground" :: rest => timeout run environment limit fuel rest
    | "-v" :: rest | "--verbose" :: rest =>
      timeout run environment { limit with isVerbose := true } fuel rest
    | word :: rest =>
      match behind? "--signal=" word, behind? "-s" word, behind? "--kill-after=" word, rest with
      | some name, _, _, _ | none, some name, _, _ =>
        timeout run environment { limit with signal := name } fuel rest
      | none, none, some _, _ => timeout run environment limit fuel rest
      | none, none, none, program :: words =>
        match Utility.interval? word, signalOf? 1 (signalWord limit.signal) with
        | _, none => refuseAs "timeout" s!"{quotedName limit.signal}: invalid signal" 125
        | none, _ => refuseAs "timeout" s!"invalid time interval {quotedName word}" 125
        | some time, some signal => within time signal (program :: words)
      | none, none, none, [] =>
        let _ ← writeTo 2 (Octets.toBytes "Try 'timeout --help' for more information.\n".toList)
        return .exited 125
    | [] =>
      let _ ← writeTo 2 (Octets.toBytes "Try 'timeout --help' for more information.\n".toList)
      return .exited 125
where
  /-- What follows a start of a word. -/
  behind? (start word : String) : Option String :=
    if word.startsWith start then some (String.ofList (word.toList.drop start.length)) else none
  /-- The name of a signal in its short form. -/
  signalWord (name : String) : String :=
    if name.startsWith "SIG" then String.ofList (name.toList.drop 3) else name
  /-- Runs a program up to a time from now. -/
  within (time signal : Nat) (words : List String) : Run ExitStatus := do
    let before := (← get).deadline
    let own := (← get).clock + time
    let isShorter := time ≠ 0 && before.all (own < ·)
    if isShorter then modify fun s => { s with deadline := some own }
    let describe (name : String) := s!"failed to run command {quotedName name}"
    let ended ← runFor run describe "timeout" environment words
    if isShorter && (← get).isOverdue then
      modify fun s => { s with deadline := before, isOverdue := false }
      if limit.isVerbose then
        let name := signalName signal
        let program := quotedName (words.headD "")
        complainAs "timeout" s!"sending signal {name} to command {program}"
      if signal = 9 then return .killed 9
      else return .exited (if limit.keepsStatus then 128 + signal else 124)
    else
      modify fun s => { s with deadline := before }
      return ended

/-- Shows the paths of programs. -/
def which (words : List String) : Run ExitStatus := do
  let words := words.filter (· ≠ "-a")
  let s ← get
  let found := words.map fun word => (find s (searchPath s) word).toOption
  found.forM fun one => do
    match one with
    | some (path, _) =>
      let _ ← writeTo 1 (Octets.toBytes (path ++ "\n").toList)
    | none => pure ()
  return .exited (if words.isEmpty || found.any Option.isNone then 1 else 0)

/-- Runs a program that runs others, shells apart. -/
def runRunner (run : Runner) (name : String) (environment : List (String × String))
    (words : List String) : Run ExitStatus := do
  let fuel := words.length + 8
  let failed (name : String) : String := s!"failed to run command {quotedName name}"
  match name, words with
  | "env", _ => env run environment fuel words
  | "xargs", _ => xargs run environment {} (fuel + (words.map String.length).foldl (· + ·) 0) words
  | "timeout", _ => timeout run environment {} fuel words
  | "which", _ => which words
  | "awk", _ | "mawk", _ => Awk.command run environment name words
  | "nice", [] =>
    let _ ← writeTo 1 (Octets.toBytes "0\n".toList)
    return .exited 0
  | "nice", "-n" :: number :: rest =>
    match number.toInt? with
    | some _ => runFor run quotedName "nice" environment rest
    | none =>
      complainAs "nice" s!"invalid adjustment {quotedName number}"
      return .exited 125
  | "nice", _ => runFor run quotedName "nice" environment words
  | "nohup", [] => refuseAs "nohup" "missing operand" 125
  | "stdbuf", _ =>
    runFor run failed "stdbuf" environment (words.dropWhile fun word => word.startsWith "-")
  | _, _ => runFor run failed name environment words

end Program

end ScenarioRunner.Shell

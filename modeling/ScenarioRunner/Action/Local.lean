import ScenarioRunner.Action.Basic
import ScenarioRunner.Text.Utf8

/-!
# Actions on the local machine

All actions but requests run on the local machine: statements through a database, if one is
attached, and commands through a shell. Both are functions on a state of the machine.
-/

set_option autoImplicit false

namespace ScenarioRunner

/-- How a command ended. -/
inductive ExitStatus where
  | exited (code : Nat)
  | killed (signal : Nat)
  deriving DecidableEq

namespace ExitStatus

/-- The names of signals. -/
def signalNames : List (Nat × String) :=
  [(1, "SIGHUP"), (2, "SIGINT"), (3, "SIGQUIT"), (4, "SIGILL"), (5, "SIGTRAP"), (6, "SIGABRT"),
    (7, "SIGBUS"), (8, "SIGFPE"), (9, "SIGKILL"), (10, "SIGUSR1"), (11, "SIGSEGV"), (12, "SIGUSR2"),
    (13, "SIGPIPE"), (14, "SIGALRM"), (15, "SIGTERM"), (16, "SIGSTKFLT"), (17, "SIGCHLD"),
    (18, "SIGCONT"), (19, "SIGSTOP"), (20, "SIGTSTP"), (21, "SIGTTIN"), (22, "SIGTTOU"),
    (23, "SIGURG"), (24, "SIGXCPU"), (25, "SIGXFSZ"), (26, "SIGVTALRM"), (27, "SIGPROF"),
    (28, "SIGWINCH"), (29, "SIGIO"), (30, "SIGPWR"), (31, "SIGSYS")]

/-- How a message names a status. -/
def text : ExitStatus → String
  | exited code => s!"exit status: {code}"
  | killed signal =>
    match signalNames.lookup signal with
    | some name => s!"signal: {signal} ({name})"
    | none => s!"signal: {signal}"

/-- Whether a command ended well. -/
def isSuccess (status : ExitStatus) : Bool := status == exited 0

end ExitStatus

/-- What a finished command leaves behind. -/
structure Finished where
  status : ExitStatus
  /-- What the command wrote as errors. -/
  errors : Bytes

/-- What an action left behind: its outcome, the statements that it issued, and the new state. -/
structure Cleaned (σ : Type) where
  outcome : Except Error Unit
  statements : List String
  state : σ

/-- The parts of a machine that actions use. -/
structure Machine (σ : Type) where
  /-- Executes a statement and counts the rows that it changed. -/
  database : Option (String → σ → Except Error Nat × σ)
  /-- Runs a command, or says why it could not be started. -/
  shell : String → σ → Except String Finished × σ

namespace Machine

variable {σ : Type}

/-- Executes a statement for an action of a kind. -/
def runStatement (machine : Machine σ) (kind statement : String) (state : σ) : Cleaned σ :=
  match machine.database with
  | none => ⟨.error (.cleanup kind "no database configured"), [], state⟩
  | some execute =>
    match execute statement state with
    | (.ok _, state) => ⟨.ok (), [statement], state⟩
    | (.error e, state) => ⟨.error (.cleanup kind e.message), [statement], state⟩

/-- The outcome of a command, given how it ended. -/
def commandOutcome (command : String) : Except String Finished → Except Error Unit
  | .error reason => .error (.cleanup "shell" s!"failed to run '{command}': {reason}")
  | .ok finished =>
    if finished.status.isSuccess then .ok ()
    else .error (.cleanup "shell"
      s!"'{command}' exited with {finished.status.text}: {trimText (Utf8.decodeLossy finished.errors)}")

/-- Runs a command. -/
def runCommand (machine : Machine σ) (command : String) (state : σ) : Cleaned σ :=
  let (ended, state) := machine.shell command state
  ⟨commandOutcome command ended, [], state⟩

/-- Runs an action. Requests are none of its business. -/
def execute (machine : Machine σ) (action : Action) (state : σ) : Cleaned σ :=
  match action with
  | .softDeleteCleanup table condition | .cleanup table condition =>
    match SoftDelete.statement table condition with
    | .error e => ⟨.error (.cleanup action.kind e.message), [], state⟩
    | .ok statement => machine.runStatement action.kind statement state
  | .sql statement => machine.runStatement action.kind statement state
  | .shell command => machine.runCommand command state
  | .apiCall _ =>
    ⟨.error (.cleanup action.kind "api_call actions are executed by the runner"), [], state⟩

end Machine

end ScenarioRunner

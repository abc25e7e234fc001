import ScenarioRunner.Action.Local
import ScenarioRunner.Files.Tree
import ScenarioRunner.Run.World
import ScenarioRunner.Settings
import ScenarioRunner.Shell.Run

/-!
# Commands

What the tool can be asked to do, and what it needs for it: files, and a transport for requests.
-/

set_option autoImplicit false

namespace ScenarioRunner

/-- What a run is asked for. -/
structure RunOptions where
  /-- The file of the suite. -/
  path : String
  /-- What stands before the path of every request, instead of what the suite says. -/
  baseUrl : Option String := none
  /-- The file to write the results to. -/
  exportPath : Option String := none
  /-- Seconds in which the cases have to end, instead of what the settings say; zero is no limit. -/
  deadlineSecs : Option Nat := none
  /-- The file of the settings. -/
  settingsPath : Option String := none
  /-- Whether the responses of the cases that have not passed are printed. -/
  verbose : Bool := false
  deriving DecidableEq

/-- What the tool can be asked to do. -/
inductive Command where
  /-- Runs a suite. -/
  | run (options : RunOptions)
  /-- Checks a suite without running it. -/
  | validate (path : String)
  deriving DecidableEq

/-- The state of what a command works on: files, and the other end of the transport. -/
structure Site (τ : Type) where
  files : FileTree
  network : τ

/-- What a command finds around it. -/
structure Surroundings (τ : Type) where
  /-- The place of the current directory. -/
  directory : List String
  /-- Where the settings are if no file is asked for. -/
  settingsPath : Option String
  /-- The environment variables. -/
  environment : List (String × String)
  /-- Sends a request. -/
  send : Settings → Request → τ → Reply × τ

namespace RunOptions

/-- Seconds in which the cases have to end, unless there is no limit. -/
def deadline (options : RunOptions) (settings : Settings) : Option Nat :=
  match options.deadlineSecs with
  | some 0 => none
  | some seconds => some seconds
  | none => settings.deadline

end RunOptions

namespace Site

variable {τ : Type}

/-- The local machine: it has no database, and its commands run in an environment and a directory. -/
def machine (environment : List (String × String)) (directory : List String) (path : String) :
    Machine (Site τ) :=
  { database := none
    shell := fun command site =>
      let (ended, files) := Shell.start environment directory path command site.files
      (ended, { site with files }) }

end Site

end ScenarioRunner

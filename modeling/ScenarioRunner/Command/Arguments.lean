import ScenarioRunner.Command.Basic
import ScenarioRunner.Decimal.Literal

/-!
# The command line

Arguments name a command, the file of a suite and options. An option with a value is followed by it,
or has it behind an equals sign.
-/

set_option autoImplicit false

namespace ScenarioRunner

/-- Splits a text at its first equals sign. -/
def splitAtEquals (text : String) : Option (String × String) :=
  let chars := text.toList
  let name := chars.takeWhile (· ≠ '=')
  if name.length < chars.length then
    some (String.ofList name, String.ofList (chars.drop (name.length + 1)))
  else none

namespace RunOptions

/-- A number of seconds. -/
def seconds? (text : String) : Option Nat :=
  match Literal.integer? text.toList with
  | some (false, n) => if n < Value.unsignedBound then some n else none
  | _ => none

/-- Takes an option with its value. -/
def withOption? (options : RunOptions) (name value : String) : Option RunOptions :=
  match name with
  | "--base-url" => some { options with baseUrl := some value }
  | "--export" => some { options with exportPath := some value }
  | "--config" => some { options with settingsPath := some value }
  | "--deadline" =>
    (seconds? value).map fun seconds => { options with deadlineSecs := some seconds }
  | _ => none

/-- Takes arguments into options, of which the path may not be known yet. -/
def ofArguments? (options : RunOptions) (path : Option String) : List String → Option RunOptions
  | [] => path.map fun path => { options with path }
  | argument :: rest =>
    if argument = "--verbose" ∨ argument = "-v" then
      ofArguments? { options with verbose := true } path rest
    else if argument.startsWith "--" then
      match splitAtEquals argument, rest with
      | some (name, value), rest =>
        (options.withOption? name value).bind fun options => ofArguments? options path rest
      | none, value :: rest =>
        (options.withOption? argument value).bind fun options => ofArguments? options path rest
      | none, [] => none
    else if path.isSome then none
    else ofArguments? options (some argument) rest

end RunOptions

namespace Command

/-- The command that arguments name. -/
def ofArguments? : List String → Option Command
  | ["validate", path] => some (.validate path)
  | "run" :: arguments => (RunOptions.ofArguments? { path := "" } none arguments).map .run
  | _ => none

/-- How the command line is written. -/
def usage : String :=
  "usage: apitest run PATH [--base-url URL] [--export FILE] [--deadline SECONDS] [--config FILE] [--verbose]\n"
    ++ "       apitest validate PATH"

end Command

/-! ## The environment -/

/-- Cuts bytes at every zero byte. -/
def splitAtZeros : Bytes → List Bytes
  | [] => [[]]
  | b :: rest =>
    if b = 0 then [] :: splitAtZeros rest
    else match splitAtZeros rest with
      | piece :: pieces => (b :: piece) :: pieces
      | [] => [[b]]

/-- The variables of an environment block, in which each ends in a zero byte. Those that are no text
are left out. -/
def environmentOfBlock (block : Bytes) : List (String × String) :=
  (splitAtZeros block).filterMap fun entry =>
    (Utf8.decode? entry).bind splitAtEquals

/-- The standard file of the settings. -/
def standardSettingsPath (environment : String → Option String) : Option String :=
  let base :=
    match (environment "XDG_CONFIG_HOME").filter (·.startsWith "/") with
    | some directory => some directory
    | none => (environment "HOME").map (· ++ "/.config")
  base.map (· ++ "/apitest/config.toml")

end ScenarioRunner

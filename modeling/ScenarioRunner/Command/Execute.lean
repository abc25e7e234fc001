import ScenarioRunner.Command.Basic
import ScenarioRunner.Report.Console
import ScenarioRunner.Report.Export
import ScenarioRunner.Suite.Load

/-!
# Executing a command

A run first needs its settings, then its suite, then its transport; the suite is checked once more
with the base that it runs with, and only then does the run begin. Its shell actions run in the
directory of the suite. It has failed unless all cases have passed, whatever became of the teardown.
-/

set_option autoImplicit false

namespace ScenarioRunner

variable {τ : Type}

/-- What a command leaves behind. -/
structure Conclusion (τ : Type) where
  outcome : Except Error Unit
  /-- The lines that it has printed. -/
  lines : List String
  events : List Event
  world : World (Site τ)

/-- A suite that is ready to run, and what it runs with. -/
structure PreparedRun (τ : Type) where
  suite : Suite
  setting : Setting (Site τ)

namespace Suite

/-- The lines about a suite that is well-formed. -/
def validLines (colours : Bool) (suite : Suite) : List String :=
  let mark := Emphasis.green.paint colours "✓"
  let name := Emphasis.boldWhite.paint colours suite.name
  let scenarios := suite.scenarios.length
  let cases := suite.cases.length
  [s!"{mark} {name} is valid",
    s!"  {scenarios} scenarios, {cases} test cases, "
      ++ s!"{suite.setup.length} setup / {suite.teardown.length} teardown actions"]

/-- The suite with another base for the paths of its requests, if there is one. -/
def withBaseUrl (suite : Suite) : Option String → Suite
  | some baseUrl => { suite with baseUrl }
  | none => suite

end Suite

namespace RunOptions

/-- How a run meets its surroundings. -/
def setting (options : RunOptions) (settings : Settings) (around : Surroundings τ) :
    Setting (Site τ) :=
  { send := fun request site =>
      let (reply, network) := around.send settings request site.network
      (reply, { site with network })
    cleanup := some
      (Site.machine around.environment around.directory (FileTree.parentPath options.path)).execute
    environment := fun name => around.environment.lookup name
    limit := (options.deadline settings).map (· * millisPerSecond) }

/-- Prepares a run. A suite is checked when it is loaded, and again with the base that it runs with. -/
def prepare (options : RunOptions) (around : Surroundings τ) (files : FileTree) :
    Except Error (PreparedRun τ) := do
  let settings ← Settings.load files around.directory options.settingsPath around.settingsPath
  let suite ← Suite.load files around.directory options.path
  settings.checkUserAgent
  let suite ← (suite.withBaseUrl options.baseUrl).checked
  return ⟨suite, options.setting settings around⟩

/-- The lines of a report. -/
def reportLines (options : RunOptions) (colours : Bool) (suite : Suite) (report : Report) :
    List String :=
  let responses :=
    if options.verbose then
      (CaseResult.failures report.results).flatMap (CaseResult.responseLines colours)
    else []
  report.lines colours suite ++ responses ++ summaryLines colours suite.name report.results
    ++ report.teardownErrors.map (teardownErrorLine colours)

end RunOptions

/-- The outcome of a run with some results. -/
def runOutcome (results : List CaseResult) : Except Error Unit :=
  let summary := Summary.ofResults results
  let failed := summary.failed + summary.skipped
  if failed = 0 then .ok () else .error (.runFailed failed summary.total)

namespace PreparedRun

/-- Writes the results, if that is asked for, and ends the run. -/
def conclude (prepared : PreparedRun τ) (options : RunOptions) (around : Surroundings τ)
    (colours : Bool) (report : Report) (world : World (Site τ)) : Conclusion τ :=
  let lines := options.reportLines colours prepared.suite report
  let outcome := runOutcome report.results
  match options.exportPath with
  | none => ⟨outcome, lines, report.events, world⟩
  | some path =>
    let content := Utf8.encode (exportText report.results)
    match world.state.files.write around.directory path content with
    | .error e => ⟨.error (.io e.message), lines, report.events, world⟩
    | .ok files =>
      ⟨outcome, lines ++ ["", s!"Results written to {path}"], report.events,
        { world with state := { world.state with files } }⟩

/-- Runs a prepared suite. -/
def start (prepared : PreparedRun τ) (options : RunOptions) (around : Surroundings τ)
    (colours : Bool) (world : World (Site τ)) : Conclusion τ :=
  match prepared.suite.run prepared.setting world with
  | (.error failure, world) =>
    ⟨.error failure.error, failure.lines colours prepared.suite, failure.events, world⟩
  | (.ok report, world) => prepared.conclude options around colours report world

end PreparedRun

namespace Command

/-- Executes a command. -/
def execute (command : Command) (around : Surroundings τ) (colours : Bool)
    (world : World (Site τ)) : Conclusion τ :=
  match command with
  | .validate path =>
    match Suite.load world.state.files around.directory path with
    | .error e => ⟨.error e, [], [], world⟩
    | .ok suite => ⟨.ok (), suite.validLines colours, [], world⟩
  | .run options =>
    match options.prepare around world.state.files with
    | .error e => ⟨.error e, [], [], world⟩
    | .ok prepared => prepared.start options around colours world

end Command

end ScenarioRunner

import ScenarioRunner.Decimal.Style
import ScenarioRunner.Json.Writer
import ScenarioRunner.Report.Paint
import ScenarioRunner.Run.Suite

/-!
# What a run prints

The lines of a run follow its course: the setup, the cases of each scenario, the teardown. Behind
them stand the counts and the failures.
-/

set_option autoImplicit false

namespace ScenarioRunner

open Emphasis

/-- Lines as one text. -/
def unlines (lines : List String) : String := String.join (lines.map (· ++ "\n"))

/-- What stands before something that went well. -/
def passMark (colours : Bool) : String := "  " ++ green.paint colours "✓" ++ " "

/-- What stands before something that failed. -/
def failMark (colours : Bool) : String := "  " ++ red.paint colours "✗" ++ " "

/-- The line of an action. -/
def Attempted.line (colours : Bool) (attempted : Attempted) : String :=
  match attempted.error? with
  | none => passMark colours ++ dimmed.paint colours attempted.action.kind
  | some message => failMark colours ++ message

/-- The lines of some actions under a title; none if there are no actions. -/
def actionLines (colours : Bool) (title : String) (attempted : List Attempted) : List String :=
  if attempted.isEmpty then []
  else "" :: cyan.paint colours title :: attempted.map (Attempted.line colours)

/-- The line of a case. -/
def CaseResult.line (colours : Bool) (result : CaseResult) : String :=
  let message := result.error?.getD ""
  match result.outcome with
  | .passed => s!"{passMark colours}{result.name} ({result.duration}ms)"
  | .failed _ => s!"{failMark colours}{result.name} ({result.duration}ms): {message}"
  | .skipped _ =>
    let mark := yellow.paint colours "-"
    s!"  {mark} {result.name}: {dimmed.paint colours message}"

/-- The lines of scenarios, given the results of their cases. -/
def scenarioLines (colours : Bool) : List Scenario → List CaseResult → List String
  | [], _ => []
  | scenario :: rest, results =>
    let description := scenario.description.toList.map fun d => s!"  {dimmed.paint colours d}"
    let own := (results.take scenario.cases.length).map (CaseResult.line colours)
    "" :: (cyan.paint colours "Scenario:" ++ " " ++ scenario.name) :: (description ++ own)
      ++ scenarioLines colours rest (results.drop scenario.cases.length)

/-- The line that begins a run. -/
def titleLines (colours : Bool) (title name : String) : List String :=
  ["", s!"{boldBlue.paint colours title} {boldWhite.paint colours name}"]

/-- The lines of a run of a suite whose setup failed. -/
def SetupFailure.lines (colours : Bool) (suite : Suite) (failure : SetupFailure) : List String :=
  titleLines colours "Running Suite:" suite.name ++ actionLines colours "Setup:" failure.setup

/-- The lines of a completed run of a suite. -/
def Report.lines (colours : Bool) (suite : Suite) (report : Report) : List String :=
  titleLines colours "Running Suite:" suite.name
    ++ actionLines colours "Setup:" report.setup
    ++ scenarioLines colours suite.scenarios report.results
    ++ actionLines colours "Teardown:" report.teardown

/-- Milliseconds as seconds with two decimal places, through the nearest float. -/
def secondsText (millis : Nat) : String :=
  let seconds := Binary64.ofInt (millis / millisPerSecond : Nat)
  let rest := (Binary64.ofInt (millis % millisPerSecond * 1000000 : Nat)).div
    (Binary64.ofInt 1000000000)
  String.ofList ((seconds.add rest).fixed 2)

/-- The line of a case that has not passed. -/
def CaseResult.failureLine (colours : Bool) (result : CaseResult) : String :=
  let message := result.error?.getD "unknown error"
  s!"{failMark colours}{dimmed.paint colours result.scenario} / {result.name}: {message}"

/-- The line of the counts. -/
def Summary.line (colours : Bool) (summary : Summary) : String :=
  let passed := green.paint colours s!"Passed: {summary.passed}"
  let failed := red.paint colours s!"Failed: {summary.failed}"
  let skipped := yellow.paint colours s!"Skipped: {summary.skipped}"
  s!"  Total: {summary.total}  {passed}  {failed}  {skipped}  ({secondsText summary.duration}s)"

/-- The lines of the counts and the failures. -/
def summaryLines (colours : Bool) (name : String) (results : List CaseResult) : List String :=
  let failures := CaseResult.failures results
  let list :=
    if failures.isEmpty then []
    else "" :: boldRed.paint colours "Failures:" :: failures.map (CaseResult.failureLine colours)
  titleLines colours "Summary:" name ++ (Summary.ofResults results).line colours :: list

/-- The lines of the response of a case that has not passed, if there is one. -/
def CaseResult.responseLines (colours : Bool) (result : CaseResult) : List String :=
  match result.response with
  | none => []
  | some snapshot =>
    let title := dimmed.paint colours "Response:"
    ["", s!"{title} {result.name} (status {snapshot.status})", Json.prettyText snapshot.body]

/-- The line of a failure of the teardown. -/
def teardownErrorLine (colours : Bool) (message : String) : String :=
  "  " ++ yellow.paint colours "!" ++ " teardown: " ++ message

end ScenarioRunner

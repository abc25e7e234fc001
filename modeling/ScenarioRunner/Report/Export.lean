import ScenarioRunner.Json.Writer
import ScenarioRunner.Run.Result

/-!
# Exported results

Results are written as a JSON list with one object for each case, in the order of the run. The
error is there exactly if the case has not passed, and the response if there was one.
-/

set_option autoImplicit false

namespace ScenarioRunner

/-- A natural number as a value, at most the greatest unsigned 64-bit integer. -/
def Value.ofNat (n : Nat) : Value := .ofUInt64 (UInt64.ofNat (min n (Value.unsignedBound - 1)))

/-- A response as it is exported. -/
def Snapshot.exported (snapshot : Snapshot) : Value :=
  .map
    [("status_code", .ofNat snapshot.status), ("body", snapshot.body),
      ("headers", .map (snapshot.headers.map fun entry => (entry.1, .list (entry.2.map .str))))]

/-- A result as it is exported. -/
def CaseResult.exported (result : CaseResult) : Value :=
  .map
    ([("scenario", .str result.scenario), ("name", .str result.name),
        ("passed", .bool result.passed), ("duration", .ofNat result.duration)]
      ++ result.error?.toList.map (fun message => ("error", .str message))
      ++ result.response.toList.map fun snapshot => ("response", snapshot.exported))

/-- The text of exported results. -/
def exportText (results : List CaseResult) : String :=
  Json.prettyText (.list (results.map CaseResult.exported))

end ScenarioRunner

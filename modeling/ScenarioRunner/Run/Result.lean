import ScenarioRunner.Error
import ScenarioRunner.Value.Basic

/-!
# Results

Every case of a run has one result, which keeps the verdict on the case three times: as a flag, as
the message of an error, and as an outcome. There are three ways to build a result, and each reader
looks at the form that it needs.
-/

set_option autoImplicit false

namespace ScenarioRunner

/-- How a case ended. Unless it has passed, the error is kept as a whole, where a result keeps its
message. -/
inductive Outcome where
  | passed
  | failed (error : Error)
  /-- The case was not sent, since the one that it depends on has not passed. -/
  | skipped (error : Error)
  deriving DecidableEq

namespace Outcome

/-- Whether a case has passed. -/
def isPassed : Outcome → Bool
  | passed => true
  | _ => false

/-- Whether a case has failed. -/
def isFailed : Outcome → Bool
  | failed _ => true
  | _ => false

/-- Whether a case was skipped. -/
def isSkipped : Outcome → Bool
  | skipped _ => true
  | _ => false

end Outcome

/-- The response to the last attempt of a case, its body decoded if possible. -/
structure Snapshot where
  status : Nat
  headers : Fields (List String)
  body : Value

/-- The result of a case. -/
structure CaseResult where
  scenario : String
  name : String
  /-- Whether the case has passed. -/
  passed : Bool
  /-- Milliseconds over all attempts. -/
  duration : Nat
  /-- The message of the error, unless the case has passed. -/
  error? : Option String
  response : Option Snapshot
  outcome : Outcome

namespace CaseResult

/-- The result of a case that has passed. -/
def pass (scenario name : String) (duration : Nat) (response : Option Snapshot) : CaseResult :=
  { scenario, name, passed := true, duration, error? := none, response, outcome := .passed }

/-- The result of a case that has failed. -/
def fail (scenario name : String) (duration : Nat) (e : Error) (response : Option Snapshot) :
    CaseResult :=
  { scenario, name, passed := false, duration, error? := some e.message, response,
    outcome := .failed e }

/-- The result of a case that was skipped. -/
def skip (scenario name : String) (e : Error) : CaseResult :=
  { scenario, name, passed := false, duration := 0, error? := some e.message, response := none,
    outcome := .skipped e }

/-- The first result of a name. -/
def find? (results : List CaseResult) (name : String) : Option CaseResult :=
  results.find? (·.name == name)

/-- Whether the case of a name is among the results and has passed. -/
def hasPassed (results : List CaseResult) (name : String) : Bool := (find? results name).any passed

/-- The results of the cases that have not passed. -/
def failures (results : List CaseResult) : List CaseResult := results.filter (!·.passed)

end CaseResult

/-- The counts of a run. -/
structure Summary where
  total : Nat := 0
  passed : Nat := 0
  failed : Nat := 0
  skipped : Nat := 0
  /-- Milliseconds over all cases. -/
  duration : Nat := 0
  deriving DecidableEq

namespace Summary

/-- Counts a result by its outcome. -/
def add (summary : Summary) (result : CaseResult) : Summary :=
  let counted : Summary :=
    { summary with
      total := summary.total + 1
      duration := summary.duration + result.duration }
  match result.outcome with
  | .passed => { counted with passed := counted.passed + 1 }
  | .failed _ => { counted with failed := counted.failed + 1 }
  | .skipped _ => { counted with skipped := counted.skipped + 1 }

/-- The counts of some results. -/
def ofResults (results : List CaseResult) : Summary := results.foldl add {}

end Summary

end ScenarioRunner

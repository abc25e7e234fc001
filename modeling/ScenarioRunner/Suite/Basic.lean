import ScenarioRunner.Action.Basic
import ScenarioRunner.Expectation

/-!
# Suites

A suite declares scenarios, and a scenario cases. A case sends one request, checks the response and
saves values from it. All cases of a suite run in the order in which they are declared; the
scenarios only group them.
-/

set_option autoImplicit false

namespace ScenarioRunner

/-- How often a case is attempted, and how long it waits in between. -/
structure RetryPolicy where
  /-- All attempts, with the first one. -/
  attempts : Nat := 1
  /-- Milliseconds between two attempts. -/
  interval : Nat := 0
  deriving DecidableEq

instance : Inhabited RetryPolicy := ⟨{}⟩

/-- A request with what its response must satisfy. -/
structure Case where
  /-- The name, which other cases refer to. -/
  name : String
  /-- The case that must have passed before, as declared. -/
  dependsOn : Option String := none
  request : RequestTemplate := {}
  expect : Expectation := {}
  /-- The variables to save after a pass, with the paths of their values. -/
  save : Fields String := []
  retry : Option RetryPolicy := none

/-- A named group of cases. -/
structure Scenario where
  name : String
  description : Option String := none
  cases : List Case := []

/-- A suite of scenarios. -/
structure Suite where
  name : String
  /-- What stands before the path of every request. -/
  baseUrl : String := ""
  /-- The actions before the first case. -/
  setup : List Action := []
  /-- The actions after the last case. -/
  teardown : List Action := []
  /-- The variables at the start. -/
  bindings : Fields Value := []
  scenarios : List Scenario := []

namespace Case

/-- The case that must have passed before; an empty name is none. -/
def dependency (c : Case) : Option String := c.dependsOn.filter (!·.isEmpty)

/-- The retry policy; by default there is one attempt. -/
def retryPolicy (c : Case) : RetryPolicy := c.retry.getD {}

end Case

namespace Suite

/-- All cases in the order of a run. -/
def cases (suite : Suite) : List Case := suite.scenarios.flatMap Scenario.cases

end Suite

end ScenarioRunner

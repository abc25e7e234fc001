/-!
# Errors

Each error is a cause with what it concerns; `Error.message` is its one wording. Only a transport
error is worth another attempt: all others are certain to come back for the same request.
-/

set_option autoImplicit false

namespace ScenarioRunner

/-- Why something could not be done. -/
inductive Error where
  /-- The suite, the settings or a request is ill-formed. -/
  | config (reason : String)
  /-- A suite file could not be understood. -/
  | scenarioParse (path reason : String)
  /-- A case that another one needs has not passed. -/
  | dependency (name reason : String)
  /-- No response came back. -/
  | transport (reason : String)
  /-- A response body is no JSON object. -/
  | decode (reason : String)
  /-- A response does not meet an expectation. -/
  | assertion (reason : String)
  /-- The run deadline has passed. -/
  | timeout (reason : String)
  /-- A setup or teardown action failed. -/
  | cleanup (action reason : String)
  /-- Not all cases of a run passed. -/
  | runFailed (failed total : Nat)
  /-- A file could not be written. -/
  | io (reason : String)
  /-- A file could not be read. -/
  | fileRead (path reason : String)
  /-- A JSON document has the wrong shape. -/
  | json (reason : String)
  /-- A YAML document is malformed or has the wrong shape. -/
  | yaml (reason : String)
  deriving DecidableEq

namespace Error

/-- The wording of an error. -/
def message : Error → String
  | config reason => s!"Configuration error: {reason}"
  | scenarioParse path reason => s!"Invalid scenario file '{path}': {reason}"
  | dependency name reason => s!"dependency '{name}' {reason}"
  | transport reason => s!"request failed: {reason}"
  | decode reason => s!"parse response failed: {reason}"
  | assertion reason => reason
  | timeout reason => s!"Timed out: {reason}"
  | cleanup action reason => s!"{action} action failed: {reason}"
  | runFailed failed total => s!"{failed} of {total} test cases failed"
  | io reason => s!"IO error: {reason}"
  | fileRead path reason => s!"Failed to read file '{path}': {reason}"
  | json reason => s!"JSON error: {reason}"
  | yaml reason => s!"YAML error: {reason}"

/-- Whether another attempt may succeed. -/
def isRetryable : Error → Bool
  | transport _ => true
  | _ => false

end Error

end ScenarioRunner

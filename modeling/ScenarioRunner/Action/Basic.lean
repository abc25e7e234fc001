import ScenarioRunner.Action.SoftDelete
import ScenarioRunner.Request

/-!
# Setup and teardown actions

Actions are declared in the header of a suite. They run once, before the first scenario or after
the last one.
-/

set_option autoImplicit false

namespace ScenarioRunner

/-- A step of the setup or the teardown. -/
inductive Action where
  /-- Marks rows of a table as deleted. -/
  | softDeleteCleanup (table : String) (condition : Option String)
  /-- The same under another name. -/
  | cleanup (table : String) (condition : Option String)
  /-- One SQL statement. -/
  | sql (statement : String)
  /-- A request through the transport of the run. -/
  | apiCall (request : RequestTemplate)
  /-- A shell command. -/
  | shell (command : String)

namespace Action

/-- The name of a kind of action in a suite. -/
def kind : Action → String
  | softDeleteCleanup .. => "soft_delete_cleanup"
  | cleanup .. => "cleanup"
  | sql _ => "sql"
  | apiCall _ => "api_call"
  | shell _ => "shell"

/-- Checks what can be checked before a run. -/
def validate : Action → Except Error Unit
  | softDeleteCleanup table _ | cleanup table _ => SoftDelete.checkTable table
  | sql statement =>
    if isBlankText statement then .error (.config "sql action requires a statement") else .ok ()
  | apiCall request => request.validate
  | shell command =>
    if isBlankText command then .error (.config "shell action requires a command") else .ok ()

end Action

end ScenarioRunner

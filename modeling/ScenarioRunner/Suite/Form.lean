import ScenarioRunner.Schema.Basic
import ScenarioRunner.Schema.Form
import ScenarioRunner.Suite.Basic

/-!
# The written form of a suite

The schemas of a suite and its parts, and the reading of each from a document in normal form. The
order of the fields in a schema is the one in which a list gives them.
-/

set_option autoImplicit false

namespace ScenarioRunner

namespace RequestTemplate

/-- The form of a request template. -/
def formFields : List (String × Presence × Schema) :=
  [("method", .defaulted, .text), ("path", .defaulted, .text),
    ("headers", .defaulted, .table .text), ("query", .defaulted, .table .text),
    ("body", .defaulted, .optional (.table .any))]

/-- Reads a request template. -/
def ofForm (form : Value) : RequestTemplate :=
  { method := (form.textAt? "method").getD "GET", path := form.textAt "path"
    headers := form.textsAt "headers", query := form.textsAt "query"
    body := form.fieldsAt? "body" }

end RequestTemplate

namespace Assertion

/-- The form of an assertion. -/
def formFields : List (String × Presence × Schema) :=
  [("path", .required, .text), ("operator", .required, .choice (Operator.all.map Operator.name)),
    ("value", .defaulted, .any)]

/-- Reads an assertion. -/
def ofForm (form : Value) : Assertion :=
  { path := form.textAt "path"
    operator := (Operator.ofName? (form.textAt "operator")).getD .equals
    operand := (form.get? "value").getD .null }

end Assertion

namespace Expectation

/-- The least number that is no status. -/
def statusBound : Nat := 0x10000

/-- The form of an expectation. -/
def formFields : List (String × Presence × Schema) :=
  [("status_code", .defaulted, .natural statusBound),
    ("response_body", .defaulted, .optional (.table .any)),
    ("assertions", .defaulted, .list (.record Assertion.formFields))]

/-- Reads an expectation. -/
def ofForm (form : Value) : Expectation :=
  { status := form.naturalAt "status_code", fields := form.fieldsAt? "response_body"
    assertions := (form.itemsAt "assertions").map Assertion.ofForm }

end Expectation

namespace RetryPolicy

/-- The least number that is no count of attempts. -/
def attemptsBound : Nat := 0x100000000

/-- The form of a retry policy. -/
def formFields : List (String × Presence × Schema) :=
  [("times", .required, .natural attemptsBound),
    ("interval", .defaulted, .natural Value.unsignedBound)]

/-- Reads a retry policy. -/
def ofForm (form : Value) : RetryPolicy :=
  { attempts := form.naturalAt "times", interval := form.naturalAt "interval" }

end RetryPolicy

namespace Case

/-- The form of a case. -/
def formFields : List (String × Presence × Schema) :=
  [("name", .required, .text), ("depends_on", .defaulted, .optional .text),
    ("request", .required, .record RequestTemplate.formFields),
    ("expect", .defaulted, .record Expectation.formFields),
    ("save", .defaulted, .table .text),
    ("retry", .defaulted, .optional (.record RetryPolicy.formFields))]

/-- Reads a case. -/
def ofForm (form : Value) : Case :=
  { name := form.textAt "name", dependsOn := form.textAt? "depends_on"
    request := .ofForm ((form.get? "request").getD .null)
    expect := .ofForm ((form.get? "expect").getD .null)
    save := form.textsAt "save"
    retry := (form.fieldsAt? "retry").map fun retry => .ofForm (.map retry) }

end Case

namespace Scenario

/-- The form of a scenario. -/
def formFields : List (String × Presence × Schema) :=
  [("name", .required, .text), ("description", .omissible, .optional .text),
    ("testcases", .defaulted, .list (.record Case.formFields))]

/-- Reads a scenario. -/
def ofForm (form : Value) : Scenario :=
  { name := form.textAt "name", description := form.textAt? "description"
    cases := (form.itemsAt "testcases").map Case.ofForm }

end Scenario

namespace Action

/-- The form of a soft deletion. -/
def softDeleteFields : List (String × Presence × Schema) :=
  [("table", .required, .text), ("condition", .defaulted, .optional .text)]

/-- The form of an action. -/
def schema : Schema :=
  .tagged "type"
    [("soft_delete_cleanup", softDeleteFields), ("cleanup", softDeleteFields),
      ("sql", [("sql", .required, .text)]),
      ("api_call", [("request", .required, .record RequestTemplate.formFields)]),
      ("shell", [("command", .required, .text)])]

/-- Reads an action. -/
def ofForm (form : Value) : Action :=
  match form.textAt "type" with
  | "soft_delete_cleanup" => softDeleteCleanup (form.textAt "table") (form.textAt? "condition")
  | "cleanup" => cleanup (form.textAt "table") (form.textAt? "condition")
  | "sql" => sql (form.textAt "sql")
  | "api_call" => apiCall (.ofForm ((form.get? "request").getD .null))
  | _ => shell (form.textAt "command")

end Action

namespace Suite

/-- The form of the header of a suite. -/
def headerFields : List (String × Presence × Schema) :=
  [("name", .required, .text), ("base_url", .defaulted, .text),
    ("setup", .defaulted, .list Action.schema), ("teardown", .defaulted, .list Action.schema)]

/-- The form of a suite. -/
def schema : Schema :=
  .record
    [("suite", .required, .record headerFields), ("variables", .defaulted, .table .any),
      ("scenarios", .defaulted, .list (.record Scenario.formFields))]

/-- Reads a suite. -/
def ofForm (form : Value) : Suite :=
  let header := (form.get? "suite").getD .null
  { name := header.textAt "name", baseUrl := header.textAt "base_url"
    setup := (header.itemsAt "setup").map Action.ofForm
    teardown := (header.itemsAt "teardown").map Action.ofForm
    bindings := form.fieldsAt "variables"
    scenarios := (form.itemsAt "scenarios").map Scenario.ofForm }

end Suite

end ScenarioRunner

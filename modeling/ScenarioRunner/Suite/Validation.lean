import ScenarioRunner.Suite.Basic

/-!
# Well-formed suites

`Suite.validate` checks all that can be checked before a run and reports the first violation: the
suite's name, the setup, the teardown, then the cases in the order of a run. Dependencies are not
checked, since a case whose dependency is unknown is skipped.
-/

set_option autoImplicit false

namespace ScenarioRunner

/-- Checks every item in order, up to the first violation. -/
def checkEach {α : Type} (check : α → Except Error Unit) : List α → Except Error Unit
  | [] => .ok ()
  | a :: rest =>
    match check a with
    | .ok _ => checkEach check rest
    | .error e => .error e

/-- Says which case a configuration error is about. -/
def Error.inCase (name : String) : Error → Error
  | .config reason => .config s!"test case '{name}': {reason}"
  | e => e

namespace Case

/-- Checks that a declared retry policy has an attempt. -/
def checkRetry (c : Case) : Except Error Unit :=
  if c.retry.any (·.attempts == 0) then .error (.config "retry.times must be at least 1") else .ok ()

/-- Checks that a variable to save has a name and a path. -/
def checkSaved (entry : String × String) : Except Error Unit :=
  if entry.1.isEmpty || entry.2.isEmpty then
    .error (.config s!"save entry '{entry.1}' needs a variable name and a path")
  else .ok ()

/-- Checks what a case declares, its name apart. -/
def checkParts (c : Case) : Except Error Unit :=
  match c.request.validate with
  | .error e => .error e
  | .ok _ =>
    match c.checkRetry with
    | .error e => .error e
    | .ok _ => checkEach checkSaved c.save

/-- Checks a case behind others of some names. -/
def check (earlier : List String) (c : Case) : Except Error Unit :=
  if isBlankText c.name then .error (.config "test case name is required")
  else if earlier.contains c.name then .error (.config s!"duplicate test case name '{c.name}'")
  else c.checkParts.mapError (Error.inCase c.name)

/-- Checks cases in order, behind others of some names. -/
def checkAll (earlier : List String) : List Case → Except Error Unit
  | [] => .ok ()
  | c :: rest =>
    match c.check earlier with
    | .ok _ => checkAll (c.name :: earlier) rest
    | .error e => .error e

end Case

namespace Suite

/-- Checks all that can be checked before a run. -/
def validate (suite : Suite) : Except Error Unit :=
  if isBlankText suite.name then .error (.config "suite name is required")
  else
    match checkEach Action.validate (suite.setup ++ suite.teardown) with
    | .error e => .error e
    | .ok _ => Case.checkAll [] suite.cases

end Suite

end ScenarioRunner

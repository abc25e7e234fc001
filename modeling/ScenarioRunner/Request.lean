import ScenarioRunner.Error
import ScenarioRunner.Template.Resolve
import ScenarioRunner.Text.UpperCase

/-!
# Requests

A request template is declared with slots; `build` resolves them into a request. Templates are
built anew for each attempt.
-/

set_option autoImplicit false

namespace ScenarioRunner

/-- A request as declared, its slots unresolved. -/
structure RequestTemplate where
  method : String := "GET"
  path : String := ""
  headers : Fields String := []
  query : Fields String := []
  /-- The body, if one is sent. -/
  body : Option (Fields Value) := none

instance : Inhabited RequestTemplate := ⟨{}⟩

/-- A resolved request. -/
structure Request where
  method : String
  /-- The address without the query. -/
  url : String
  headers : Fields String
  query : Fields String
  /-- The body as JSON text. -/
  body : Option String
  deriving DecidableEq

/-- The characters of an HTTP token. -/
def isTokenChar (c : Char) : Bool :=
  c.isAlphanum || ['!', '#', '$', '%', '&', '\'', '*', '+', '-', '.', '^', '_', '\x60', '|', '~'].contains c

/-- Whether a text is a valid HTTP method. -/
def isHttpToken (method : String) : Bool := !method.isEmpty && method.toList.all isTokenChar

namespace RequestTemplate

/-- Checks what can be checked before any variable is known. -/
def validate (template : RequestTemplate) : Except Error Unit :=
  if isHttpToken template.method then .ok ()
  else .error (.config s!"invalid HTTP method '{template.method}'")

/-- Resolves the body and writes it. -/
def buildBody (scope : Scope) (supply : Nat) : Option (Fields Value) → Option String × Nat
  | none => (none, supply)
  | some fields =>
    let (fields, supply) := scope.resolveFields supply fields
    (some (Json.compactText (.map fields)), supply)

/-- Resolves a template into a request. -/
def build (template : RequestTemplate) (baseUrl : String) (scope : Scope) (supply : Nat) :
    Request × Nat :=
  let (path, supply) := scope.resolveText supply template.path
  let (headers, supply) := scope.resolveTexts supply template.headers
  let (query, supply) := scope.resolveTexts supply template.query
  let (body, supply) := buildBody scope supply template.body
  ({ method := UpperCase.ofText template.method, url := baseUrl ++ path, headers, query, body }, supply)

end RequestTemplate

end ScenarioRunner

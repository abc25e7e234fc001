import ScenarioRunner.Error
import ScenarioRunner.Template.Resolve
import ScenarioRunner.Text.Quoted
import ScenarioRunner.Value.Equality
import ScenarioRunner.Value.Path

/-!
# Expectations

What a response must satisfy: a status, some top-level fields, and assertions about values at
paths. They are checked in this order, and the first failure is the one that is reported.
-/

set_option autoImplicit false

namespace ScenarioRunner

/-- How an assertion compares the value at its path with its operand. -/
inductive Operator where
  | equals
  | notEquals
  | contains
  | startsWith
  | notEmpty
  | isArray
  | greaterThan
  | greaterThanOrEqual
  | lessThan
  deriving DecidableEq

namespace Operator

/-- The name of an operator in a suite. -/
def name : Operator → String
  | equals => "equals"
  | notEquals => "notEquals"
  | contains => "contains"
  | startsWith => "startsWith"
  | notEmpty => "notEmpty"
  | isArray => "isArray"
  | greaterThan => "greaterThan"
  | greaterThanOrEqual => "greaterThanOrEqual"
  | lessThan => "lessThan"

/-- All operators. -/
def all : List Operator :=
  [equals, notEquals, contains, startsWith, notEmpty, isArray, greaterThan, greaterThanOrEqual, lessThan]

/-- The operator of a name. -/
def ofName? (name : String) : Option Operator := all.find? (·.name == name)

end Operator

/-- A check of the value at a path. -/
structure Assertion where
  path : String
  operator : Operator
  /-- The operand; `notEmpty` and `isArray` have no use for it. -/
  operand : Value

/-- What a response must satisfy. -/
structure Expectation where
  /-- The status; zero leaves it unchecked. -/
  status : Nat := 0
  /-- Top-level fields that must be present, with their values. -/
  fields : Option (Fields Value) := none
  assertions : List Assertion := []

instance : Inhabited Expectation := ⟨{}⟩

/-- How a message shows a value that may be absent. -/
def describe : Option Value → String
  | none => "nothing (path not found)"
  | some (.str s) => s!"{quote s} (string)"
  | some v => s!"{v.text} ({v.kind})"

/-- Whether a text occurs in another. -/
def occursIn (part : List Char) : List Char → Bool
  | [] => part.isEmpty
  | c :: rest => part.isPrefixOf (c :: rest) || occursIn part rest

namespace Assertion

/-- The order of the actual value against the expected one, both numbers. -/
def order (assertion : Assertion) (actual : Option Value) (expected : Value) : Except Error Ordering :=
  match actual.bind Value.number? with
  | none => .error (.assertion
      s!"assertion failed: {assertion.path} should be a number, got {describe actual}")
  | some a =>
    match expected.number?.bind a.compare? with
    | none =>
      let place := s!"{assertion.operator.name} on {assertion.path}"
      .error (.assertion
        s!"assertion failed: expected operand of {place} should be a number, got {describe (some expected)}")
    | some ordering => .ok ordering

/-- Whether the actual value meets the assertion with a resolved operand. -/
def holds (assertion : Assertion) (actual : Option Value) (expected : Value) : Except Error Bool :=
  match assertion.operator with
  | .equals => .ok (actual.any (·.same expected))
  | .notEquals => .ok (!actual.any (·.same expected))
  | .contains => .ok (actual.any fun a => occursIn expected.textChars a.textChars)
  | .startsWith => .ok (actual.any fun a => expected.textChars.isPrefixOf a.textChars)
  | .notEmpty => .ok (actual.any fun
      | .null => false
      | .str s => !s.isEmpty
      | _ => true)
  | .isArray => .ok (actual.any Value.isList)
  | .greaterThan => (assertion.order actual expected).map (· == .gt)
  | .greaterThanOrEqual => (assertion.order actual expected).map (· != .lt)
  | .lessThan => (assertion.order actual expected).map (· == .lt)

/-- What a message says of an assertion that does not hold. -/
def failure (assertion : Assertion) (actual : Option Value) (expected : Value) : Error :=
  let requirement := match assertion.operator with
    | .notEmpty => "should not be empty"
    | .isArray => "should be an array"
    | operator => s!"{operator.name} {describe (some expected)}"
  .assertion s!"assertion failed: {assertion.path} {requirement}, got {describe actual}"

/-- Evaluates an assertion on a response body. -/
def evaluate (assertion : Assertion) (body : Value) (scope : Scope) (supply : Nat) :
    Except Error Unit × Nat :=
  let actual := body.lookup? assertion.path
  let (expected, supply) := scope.resolveOperand supply assertion.operand
  let outcome := match assertion.holds actual expected with
    | .ok true => .ok ()
    | .ok false => .error (assertion.failure actual expected)
    | .error e => .error e
  (outcome, supply)

end Assertion

namespace Expectation

/-- Compares one top-level field with its resolved expected value. -/
def checkField (key : String) (actual : Option Value) (expected : Value) : Except Error Unit :=
  match actual with
  | none => .error (.assertion s!"field '{key}' not found in response")
  | some actual =>
    if expected.isNull then
      if actual.isNull then .ok ()
      else .error (.assertion s!"field '{key}' expected null, got {describe (some actual)}")
    else if actual.same expected then .ok ()
    else .error (.assertion
      s!"field '{key}' mismatch: expected {describe (some expected)}, got {describe (some actual)}")

/-- Checks top-level fields in key order, up to the first failure. -/
def checkFields (body : Value) (scope : Scope) (supply : Nat) : Fields Value → Except Error Unit × Nat
  | [] => (.ok (), supply)
  | (key, operand) :: rest =>
    let actual := body.get? key
    let (expected, after) :=
      if actual.isSome then scope.resolveOperand supply operand else (operand, supply)
    match checkField key actual expected with
    | .ok _ => checkFields body scope after rest
    | .error e => (.error e, after)

/-- Evaluates assertions in order, up to the first failure. -/
def checkAssertions (body : Value) (scope : Scope) (supply : Nat) :
    List Assertion → Except Error Unit × Nat
  | [] => (.ok (), supply)
  | assertion :: rest =>
    match assertion.evaluate body scope supply with
    | (.ok _, supply) => checkAssertions body scope supply rest
    | (.error e, supply) => (.error e, supply)

/-- Checks a response. -/
def check (expectation : Expectation) (status : Nat) (body : Value) (scope : Scope) (supply : Nat) :
    Except Error Unit × Nat :=
  if expectation.status != 0 && expectation.status != status then
    (.error (.assertion s!"status code mismatch: expected {expectation.status}, got {status}"), supply)
  else
    match checkFields body scope supply (expectation.fields.getD []) with
    | (.ok _, supply) => checkAssertions body scope supply expectation.assertions
    | (.error e, supply) => (.error e, supply)

end Expectation

end ScenarioRunner

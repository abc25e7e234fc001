import ScenarioRunner.Template.Basic
import ScenarioRunner.Template.Identifier
import ScenarioRunner.Value.Text

/-!
# Resolving templates

Paths, headers, query values and operands are resolved as text. A string in a request body is
resolved as a field: exactly one slot that names a stored variable becomes that variable's value,
kind included; exactly one other slot becomes a number if its text is one; and all else is text.
Inserted text is not scanned again, and slots that refer to nothing stay as written.

Every function takes the place in the supply of identifiers and gives the place after it.
-/

set_option autoImplicit false

namespace ScenarioRunner

/-- What slots can refer to. -/
structure Scope where
  /-- The stored variables. -/
  store : Fields Value
  /-- The environment variables. -/
  environment : String → Option String

namespace Scope

open Template

/-- The text of a reference. -/
def read (scope : Scope) (supply : Nat) : Reference → Option (List Char) × Nat
  | .fresh => (some (identifierAt supply), supply + 1)
  | .environment name => ((scope.environment name).map String.toList, supply)
  | .stored name => ((Fields.get? scope.store name).map Value.textChars, supply)

/-- The text of one piece. -/
def fillPiece (scope : Scope) (supply : Nat) : Piece → List Char × Nat
  | .text content => (content, supply)
  | .slot inner =>
    let (found, supply) := scope.read supply (.ofName (trimBlanks inner))
    (found.getD (Piece.source (.slot inner)), supply)

/-- The text of some pieces. -/
def fill (scope : Scope) (supply : Nat) : List Piece → List Char × Nat
  | [] => ([], supply)
  | piece :: rest =>
    let (first, supply) := scope.fillPiece supply piece
    let (others, supply) := scope.fill supply rest
    (first ++ others, supply)

/-- Resolves a template as text. -/
def resolveChars (scope : Scope) (supply : Nat) (template : List Char) : List Char × Nat :=
  scope.fill supply (scan template)

/-- Resolves a template as text. -/
def resolveText (scope : Scope) (supply : Nat) (template : String) : String × Nat :=
  let (text, supply) := scope.resolveChars supply template.toList
  (String.ofList text, supply)

/-- The stored value that a template stands for, if it is exactly one slot that names one. -/
def storedValue? (scope : Scope) (template : List Char) : Option Value :=
  (wholeSlot? template).bind fun name =>
    match Reference.ofName name with
    | .stored name => Fields.get? scope.store name
    | _ => none

/-- Resolves a string of a request body. -/
def resolveField (scope : Scope) (supply : Nat) (field : String) : Value × Nat :=
  match scope.storedValue? field.toList with
  | some v => (v, supply)
  | none =>
    let (text, supply) := scope.resolveChars supply field.toList
    let numeric :=
      if (wholeSlot? field.toList).isSome && text != field.toList && looksNumeric text then
        Value.ofNumericText? text
      else none
    (numeric.getD (.str (String.ofList text)), supply)

mutual

/-- Resolves every string of a request body. Keys stay as they are. -/
def resolveValue (scope : Scope) (supply : Nat) : Value → Value × Nat
  | .str s => scope.resolveField supply s
  | .list items =>
    let (items, supply) := scope.resolveItems supply items
    (.list items, supply)
  | .map fields =>
    let (fields, supply) := scope.resolveFields supply fields
    (.map fields, supply)
  | v => (v, supply)

/-- Resolves the items of a list. -/
def resolveItems (scope : Scope) (supply : Nat) : List Value → List Value × Nat
  | [] => ([], supply)
  | v :: rest =>
    let (v, supply) := scope.resolveValue supply v
    let (rest, supply) := scope.resolveItems supply rest
    (v :: rest, supply)

/-- Resolves the entries of a map. -/
def resolveFields (scope : Scope) (supply : Nat) :
    List (String × Value) → List (String × Value) × Nat
  | [] => ([], supply)
  | (key, v) :: rest =>
    let (v, supply) := scope.resolveValue supply v
    let (rest, supply) := scope.resolveFields supply rest
    ((key, v) :: rest, supply)

end

mutual

/-- Resolves every string of an operand, as text. -/
def resolveOperand (scope : Scope) (supply : Nat) : Value → Value × Nat
  | .str s =>
    let (text, supply) := scope.resolveText supply s
    (.str text, supply)
  | .list items =>
    let (items, supply) := scope.resolveOperandItems supply items
    (.list items, supply)
  | .map fields =>
    let (fields, supply) := scope.resolveOperandFields supply fields
    (.map fields, supply)
  | v => (v, supply)

/-- Resolves the items of an operand. -/
def resolveOperandItems (scope : Scope) (supply : Nat) : List Value → List Value × Nat
  | [] => ([], supply)
  | v :: rest =>
    let (v, supply) := scope.resolveOperand supply v
    let (rest, supply) := scope.resolveOperandItems supply rest
    (v :: rest, supply)

/-- Resolves the entries of an operand. -/
def resolveOperandFields (scope : Scope) (supply : Nat) :
    List (String × Value) → List (String × Value) × Nat
  | [] => ([], supply)
  | (key, v) :: rest =>
    let (v, supply) := scope.resolveOperand supply v
    let (rest, supply) := scope.resolveOperandFields supply rest
    ((key, v) :: rest, supply)

end

/-- Resolves the values of text entries one after another. -/
def resolveTexts (scope : Scope) (supply : Nat) : Fields String → Fields String × Nat
  | [] => ([], supply)
  | (key, template) :: rest =>
    let (text, supply) := scope.resolveText supply template
    let (rest, supply) := scope.resolveTexts supply rest
    ((key, text) :: rest, supply)

end Scope

end ScenarioRunner

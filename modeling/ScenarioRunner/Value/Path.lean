import ScenarioRunner.Decimal.Literal
import ScenarioRunner.Value.Basic

/-!
# Paths into a value

A path is a sequence of segments joined by points. A segment is a key, an index in square
brackets, or a key followed by one index. The empty path is the value itself.
-/

set_option autoImplicit false

namespace ScenarioRunner

/-- One segment of a path: a key (empty for none), then an index. -/
structure Segment where
  /-- The key to select in a map; no key is selected when it is empty. -/
  key : List Char
  /-- The index to select in a list. -/
  index : Option Nat
  deriving DecidableEq

namespace Segment

/-- The least index that is refused. -/
def indexBound : Nat := 0x10000000000000000

/-- Reads an index: digits after at most one plus sign. -/
def index? (text : List Char) : Option Nat :=
  let digits := match text with
    | '+' :: rest => rest
    | _ => text
  if !digits.isEmpty && digits.all Char.isDigit then
    let n := Literal.natOfDigits digits
    if n < indexBound then some n else none
  else none

/-- Reads one segment. -/
def parse? (text : List Char) : Option Segment :=
  let key := text.takeWhile (· != '[')
  match text.dropWhile (· != '[') with
  | [] => if key.isEmpty then none else some ⟨key, none⟩
  | _ :: rest =>
    if rest.getLast? = some ']' then (index? rest.dropLast).map fun i => ⟨key, some i⟩ else none

/-- Takes one step from a value. -/
def select? (segment : Segment) (value : Value) : Option Value := do
  let inner ← if segment.key.isEmpty then some value else value.get? (String.ofList segment.key)
  match segment.index with
  | none => some inner
  | some i => match inner with
    | .list items => items[i]?
    | _ => none

end Segment

/-- Cuts a text at every point. -/
def splitAtPoints (text : List Char) : List (List Char) :=
  match text with
  | [] => [[]]
  | c :: rest =>
    if c = '.' then [] :: splitAtPoints rest
    else match splitAtPoints rest with
      | [] => [[c]]
      | part :: parts => (c :: part) :: parts

namespace Value

/-- Follows segments from a value. -/
def follow? (value : Value) : List (List Char) → Option Value
  | [] => some value
  | text :: rest => do
    let segment ← Segment.parse? text
    (← segment.select? value).follow? rest

/-- The value at a path; `none` where the path does not fit. -/
def lookup? (root : Value) (path : String) : Option Value :=
  if path.isEmpty then some root else root.follow? (splitAtPoints path.toList)

end Value

end ScenarioRunner

import ScenarioRunner.Text.Utf8

/-!
# Faults in JSON text

What is wrong with a text, and where. A fault keeps the number of bytes that were left when it
was found; line and column follow from the text.
-/

set_option autoImplicit false

namespace ScenarioRunner.Json

/-- What is wrong with a JSON text. -/
inductive Cause where
  | endInValue
  | endInList
  | endInObject
  | endInString
  | expectedColon
  | expectedItemEnd
  | expectedEntryEnd
  | expectedWord
  | expectedValue
  | invalidEscape
  | invalidNumber
  | numberOutOfRange
  | invalidText
  | controlCharacter
  | keyNotString
  | unpairedSurrogate
  | endOfSurrogatePair
  | trailingComma
  | trailingText
  | tooDeep
  deriving DecidableEq

/-- The wording of a cause. -/
def Cause.message : Cause → String
  | endInValue => "EOF while parsing a value"
  | endInList => "EOF while parsing a list"
  | endInObject => "EOF while parsing an object"
  | endInString => "EOF while parsing a string"
  | expectedColon => "expected `:`"
  | expectedItemEnd => "expected `,` or `]`"
  | expectedEntryEnd => "expected `,` or `\x7d`"
  | expectedWord => "expected ident"
  | expectedValue => "expected value"
  | invalidEscape => "invalid escape"
  | invalidNumber => "invalid number"
  | numberOutOfRange => "number out of range"
  | invalidText => "invalid unicode code point"
  | controlCharacter => "control character (\\u0000-\\u001F) found while parsing a string"
  | keyNotString => "key must be a string"
  | unpairedSurrogate => "lone leading surrogate in hex escape"
  | endOfSurrogatePair => "unexpected end of hex escape"
  | trailingComma => "trailing comma"
  | trailingText => "trailing characters"
  | tooDeep => "recursion limit exceeded"

/-- A cause, and how many bytes were left when it was found. -/
structure Fault where
  cause : Cause
  left : Nat
  deriving DecidableEq

namespace Fault

/-- The bytes before the fault. -/
def before (fault : Fault) (text : Bytes) : Bytes := text.take (text.length - fault.left)

/-- The line of the fault, from one. -/
def line (fault : Fault) (text : Bytes) : Nat := (fault.before text).count 0x0A + 1

/-- The number of bytes between the last line break and the fault. -/
def column (fault : Fault) (text : Bytes) : Nat :=
  ((fault.before text).reverse.takeWhile (· != 0x0A)).length

/-- The cause and its place in a text. -/
def message (fault : Fault) (text : Bytes) : String :=
  s!"{fault.cause.message} at line {fault.line text} column {fault.column text}"

end Fault

end ScenarioRunner.Json

import ScenarioRunner.Error
import ScenarioRunner.Json.Reader

/-!
# Responses

A response as it arrives, and the reading of its body. A body is a JSON object; one without
content counts as the empty object.
-/

set_option autoImplicit false

namespace ScenarioRunner

/-- A response as received. -/
structure Response where
  status : Nat
  /-- All values of each header. -/
  headers : Fields (List String)
  body : Bytes
  deriving DecidableEq

/-- The ASCII characters that leave a body without content. -/
def isBlankByte (b : UInt8) : Bool := b == 0x20 || b == 0x09 || b == 0x0A || b == 0x0C || b == 0x0D

/-- Reads a response body. -/
def decodeBody (body : Bytes) : Except Error Value :=
  if body.all isBlankByte then .ok (.map [])
  else match Json.read body with
    | .error fault => .error (.decode (fault.message body))
    | .ok (.map fields) => .ok (.map fields)
    | .ok other => .error (.decode s!"expected a JSON object, got {other.kind}")

end ScenarioRunner

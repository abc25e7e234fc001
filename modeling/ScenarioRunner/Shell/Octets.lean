import ScenarioRunner.Text.Utf8

/-!
# Texts of octets

Shells work on octets, which need not make up characters. Here every octet of such a text is a
character of its own, below 256, so that the parts of commands can be read and compared as text.
-/

set_option autoImplicit false

namespace ScenarioRunner.Shell

namespace Octets

/-- The characters that stand for some bytes. -/
def ofBytes (bytes : Bytes) : List Char := bytes.map fun b => Char.ofNat b.toNat

/-- The bytes that some characters stand for. -/
def toBytes (text : List Char) : Bytes := text.map fun c => UInt8.ofNat c.toNat

/-- The octets of a text. -/
def ofText (text : String) : String := String.ofList (ofBytes (Utf8.encode text))

/-- The text that some octets are, with a replacement for those that are ill-formed. -/
def toText (text : String) : String := Utf8.decodeLossy (toBytes text.toList)

end Octets

end ScenarioRunner.Shell

/-!
# Text as bytes

Texts are encoded in UTF-8. `Utf8.next` takes one character off a sequence of bytes, or the
longest ill-formed start of one; `fromIllFormed` finds the first of those, `decode?` refuses
ill-formed bytes, and `decodeLossy` writes the replacement character for each ill-formed piece.
-/

set_option autoImplicit false

namespace ScenarioRunner

/-- A sequence of bytes. -/
abbrev Bytes := List UInt8

namespace Utf8

/-- The bytes of some characters. -/
def encodeChars (text : List Char) : Bytes := text.flatMap String.utf8EncodeChar

/-- The bytes of a text. -/
def encode (text : String) : Bytes := encodeChars text.toList

/-- Reads `count` continuation bytes after the bits `acc`, the first of them between `low` and
`high`. Gives the code point, if complete, and the bytes that follow. -/
def continuation : Nat → Nat → Nat → Nat → Bytes → Option Nat × Bytes
  | 0, _, _, acc, bytes => (some acc, bytes)
  | _ + 1, _, _, _, [] => (none, [])
  | count + 1, low, high, acc, b :: rest =>
    if low ≤ b.toNat ∧ b.toNat ≤ high then
      continuation count 0x80 0xBF (acc * 64 + (b.toNat - 0x80)) rest
    else (none, b :: rest)

/-- What a first byte announces. -/
structure Lead where
  /-- The number of continuation bytes. -/
  count : Nat
  /-- The least first continuation byte. -/
  low : Nat
  /-- The greatest first continuation byte. -/
  high : Nat
  /-- The bits that mark the first byte. -/
  mark : Nat

/-- What a byte announces as the first of a character. -/
def lead? (n : Nat) : Option Lead :=
  if n < 0x80 then some ⟨0, 0x80, 0xBF, 0⟩
  else if n < 0xC2 then none
  else if n < 0xE0 then some ⟨1, 0x80, 0xBF, 0xC0⟩
  else if n = 0xE0 then some ⟨2, 0xA0, 0xBF, 0xE0⟩
  else if n = 0xED then some ⟨2, 0x80, 0x9F, 0xE0⟩
  else if n < 0xF0 then some ⟨2, 0x80, 0xBF, 0xE0⟩
  else if n = 0xF0 then some ⟨3, 0x90, 0xBF, 0xF0⟩
  else if n < 0xF4 then some ⟨3, 0x80, 0xBF, 0xF0⟩
  else if n = 0xF4 then some ⟨3, 0x80, 0x8F, 0xF0⟩
  else none

/-- Takes one character off, given its first byte; `none` for an ill-formed start, which ends
before the byte that breaks it. -/
def next (b : UInt8) (rest : Bytes) : Option Char × Bytes :=
  match lead? b.toNat with
  | none => (none, rest)
  | some lead =>
    let read := continuation lead.count lead.low lead.high (b.toNat - lead.mark) rest
    (read.1.map Char.ofNat, read.2)

theorem length_continuation_le (count low high acc : Nat) (bytes : Bytes) :
    (continuation count low high acc bytes).2.length ≤ bytes.length := by
  induction count generalizing low high acc bytes with
  | zero => simp [continuation]
  | succ count ih =>
    cases bytes with
    | nil => simp [continuation]
    | cons b rest =>
      rw [continuation]
      split
      · exact Nat.le_succ_of_le (ih ..)
      · exact Nat.le_refl _

theorem length_next_le (b : UInt8) (rest : Bytes) : (next b rest).2.length ≤ rest.length := by
  unfold next
  split
  · exact Nat.le_refl _
  · exact length_continuation_le ..

/-- The pieces of a sequence of bytes: characters, and `none` for each ill-formed start. -/
def pieces : Bytes → List (Option Char)
  | [] => []
  | b :: rest => (next b rest).1 :: pieces (next b rest).2
termination_by bytes => bytes.length
decreasing_by exact Nat.lt_succ_of_le (length_next_le b rest)

/-- The bytes from the first ill-formed one on. -/
def fromIllFormed : Bytes → Bytes
  | [] => []
  | b :: rest => if (next b rest).1.isSome then fromIllFormed (next b rest).2 else b :: rest
termination_by bytes => bytes.length
decreasing_by exact Nat.lt_succ_of_le (length_next_le b rest)

/-- The text of well-formed bytes. -/
def decode? (bytes : Bytes) : Option String :=
  let found := pieces bytes
  if found.all Option.isSome then some (String.ofList (found.filterMap id)) else none

/-- The text of any bytes, with U+FFFD for each ill-formed piece. -/
def decodeLossy (bytes : Bytes) : String :=
  String.ofList ((pieces bytes).map fun c => c.getD '\uFFFD')

end Utf8

end ScenarioRunner

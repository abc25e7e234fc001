import ScenarioRunner.Proofs.Json.Container
import ScenarioRunner.Request
import ScenarioRunner.Response

/-!
# Written values are read back

Every value is read back that holds no float, has the unsigned form only above the signed range, and
nests no deeper than the reader goes (`reads_value`). A body that is such a value survives the wire
(`values_survive_wire`): it is decoded to the same value, with the kinds of its numbers, the
characters of its texts, the order of its items and all of its keys.
-/

set_option autoImplicit false

namespace ScenarioRunner

namespace Value

mutual

/-- Whether JSON text keeps the kinds of all numbers inside: no floats, and the unsigned form only
above the signed range. -/
def Portable : Value → Prop
  | uint n => signedBound ≤ n.toNat
  | float _ => False
  | list items => PortableItems items
  | map fields => PortableFields fields
  | _ => True

/-- Whether all items are portable. -/
def PortableItems : List Value → Prop
  | [] => True
  | v :: rest => v.Portable ∧ PortableItems rest

/-- Whether the values of all entries are portable. -/
def PortableFields : List (String × Value) → Prop
  | [] => True
  | (_, v) :: rest => v.Portable ∧ PortableFields rest

end

mutual

/-- How deep containers nest in a value, itself counted. -/
def nesting : Value → Nat
  | list items => nestingItems items + 1
  | map fields => nestingFields fields + 1
  | _ => 0

/-- How deep containers nest in items. -/
def nestingItems : List Value → Nat
  | [] => 0
  | v :: rest => max v.nesting (nestingItems rest)

/-- How deep containers nest in the values of entries. -/
def nestingFields : List (String × Value) → Nat
  | [] => 0
  | (_, v) :: rest => max v.nesting (nestingFields rest)

end

end Value

namespace Json

open Utf8 (encodeChars encodeChars_cons encodeChars_append)

/-! ## Integers -/

theorem begins_toDigits (n : Nat) :
    ∃ b tail, encodeChars (Nat.toDigits 10 n) = b :: tail ∧ isSpace b = false ∧ b ≠ 0x5D := by
  obtain ⟨b, tail, hbytes, hdigit⟩ := encodeChars_toDigits n
  exact ⟨b, tail, hbytes, isSpace_of_isDigitByte hdigit, ne_of_isDigitByte hdigit rfl⟩

/-- The digits of an integer without a sign are read in the form that can hold it. -/
theorem value_toDigits {depth n : Nat} {rest : Bytes} (hrest : Delimited rest)
    (hfits : n < significandBound) :
    value depth (encodeChars (Nat.toDigits 10 n) ++ rest) =
      .ok (.ofUInt64 (UInt64.ofNat n), rest) := by
  obtain ⟨b, tail, hbytes, hdigit⟩ := encodeChars_toDigits n
  have hread := number_toDigits false hrest hfits
  rw [hbytes] at hread ⊢
  rw [List.cons_append, value_digit hdigit]
  exact hread

theorem reads_int (depth : Nat) (n : Int64) : Reads (value depth) (.int n) := by
  have hlow := n.le_toInt
  have hhigh := n.toInt_lt
  by_cases hneg : n.toInt < 0
  · have hbytes : encodeChars (compact (.int n)) =
        0x2D :: encodeChars (Nat.toDigits 10 n.toInt.natAbs) := by
      rw [compact, integer, if_pos hneg]
      rfl
    have hvalue : wholeValue true n.toInt.natAbs = .int n := by
      have hself : -(n.toInt.natAbs : Int) = n.toInt := by omega
      rw [wholeValue, if_neg (by decide), if_neg (by unfold Value.signedBound; omega), hself,
        Int64.ofInt_toInt]
    refine ⟨⟨_, _, hbytes, by decide, by decide⟩, fun rest hrest => ?_⟩
    rw [hbytes, List.cons_append, value_minus,
      number_toDigits true hrest (by unfold significandBound; omega), hvalue]
  · have hbytes : compact (.int n) = Nat.toDigits 10 n.toInt.natAbs := by
      rw [compact, integer, if_neg hneg]
    have hvalue : Value.ofUInt64 (UInt64.ofNat n.toInt.natAbs) = .int n := by
      have hself : (n.toInt.natAbs : Int) = n.toInt := by omega
      have hfits : n.toInt.natAbs < Value.signedBound := by unfold Value.signedBound; omega
      rw [Value.ofUInt64, UInt64.toNat_ofNat_of_lt' (Nat.lt_trans hfits (by decide)), if_pos hfits,
        ← Int64.ofInt_eq_ofNat, hself, Int64.ofInt_toInt]
    refine ⟨?_, fun rest hrest => ?_⟩
    · rw [hbytes]
      exact begins_toDigits _
    · rw [hbytes, value_toDigits hrest (by unfold significandBound; omega), hvalue]

theorem reads_uint (depth : Nat) {n : UInt64} (hn : Value.signedBound ≤ n.toNat) :
    Reads (value depth) (.uint n) := by
  have hhigh := n.toNat_lt
  have hbytes : compact (.uint n) = Nat.toDigits 10 n.toNat := by
    rw [compact, integer, if_neg (by omega), Int.natAbs_natCast]
  have hvalue : Value.ofUInt64 (UInt64.ofNat n.toNat) = .uint n := by
    rw [UInt64.ofNat_toNat, Value.ofUInt64, if_neg (Nat.not_lt.2 hn)]
  refine ⟨?_, fun rest hrest => ?_⟩
  · rw [hbytes]
    exact begins_toDigits _
  · rw [hbytes, value_toDigits hrest (by unfold significandBound; omega), hvalue]

/-! ## Words and strings -/

theorem reads_null (depth : Nat) : Reads (value depth) .null :=
  ⟨⟨0x6E, _, rfl, rfl, by decide⟩, fun _ _ => by
    rw [value]
    rfl⟩

theorem reads_bool (depth : Nat) (b : Bool) : Reads (value depth) (.bool b) := by
  cases b with
  | true =>
      refine ⟨⟨0x74, _, rfl, rfl, by decide⟩, fun _ _ => ?_⟩
      rw [value]
      rfl
  | false =>
      refine ⟨⟨0x66, _, rfl, rfl, by decide⟩, fun _ _ => ?_⟩
      rw [value]
      rfl

theorem reads_str (depth : Nat) (s : String) : Reads (value depth) (.str s) := by
  constructor
  · obtain ⟨tail, hbytes, -⟩ := string_quoted s []
    rw [List.append_nil] at hbytes
    exact ⟨0x22, tail, hbytes, rfl, by decide⟩
  · intro rest _
    obtain ⟨tail, hbytes, hread⟩ := string_quoted s rest
    rw [compact, hbytes, value_quote, hread]
    rfl

/-! ## Values -/

mutual

/-- **Every portable value is read back**, by a reader that goes as deep as its containers nest. -/
theorem reads_value {v : Value} (hportable : v.Portable) (hcanonical : v.Canonical) {depth : Nat}
    (hdepth : v.nesting ≤ depth) : Reads (value depth) v := by
  cases v with
  | null => exact reads_null depth
  | bool b => exact reads_bool depth b
  | int n => exact reads_int depth n
  | uint n => exact reads_uint depth hportable
  | float x => exact absurd hportable id
  | str s => exact reads_str depth s
  | list items =>
      rw [Value.nesting] at hdepth
      rw [Value.Portable] at hportable
      rw [Value.Canonical] at hcanonical
      obtain ⟨depth, rfl⟩ : ∃ k, depth = k + 1 := ⟨depth - 1, by omega⟩
      exact reads_list (reads_items hportable hcanonical (Nat.le_of_succ_le_succ hdepth))
  | map fields =>
      rw [Value.nesting] at hdepth
      rw [Value.Portable] at hportable
      rw [Value.Canonical] at hcanonical
      obtain ⟨depth, rfl⟩ : ∃ k, depth = k + 1 := ⟨depth - 1, by omega⟩
      exact reads_map (reads_fields hportable hcanonical.2 (Nat.le_of_succ_le_succ hdepth))
        hcanonical.1

/-- Every one of some portable items is read back. -/
theorem reads_items {items : List Value} (hportable : Value.PortableItems items)
    (hcanonical : Value.CanonicalItems items) {depth : Nat}
    (hdepth : Value.nestingItems items ≤ depth) : ∀ v ∈ items, Reads (value depth) v := by
  cases items with
  | nil => exact fun _ h => absurd h List.not_mem_nil
  | cons v items =>
      obtain ⟨hfirst, hrest⟩ := Nat.max_le.1 hdepth
      rw [List.forall_mem_cons]
      exact ⟨reads_value hportable.1 hcanonical.1 hfirst,
        reads_items hportable.2 hcanonical.2 hrest⟩

/-- The value of every one of some portable entries is read back. -/
theorem reads_fields {fields : List (String × Value)} (hportable : Value.PortableFields fields)
    (hcanonical : Value.CanonicalFields fields) {depth : Nat}
    (hdepth : Value.nestingFields fields ≤ depth) :
    ∀ entry ∈ fields, Reads (value depth) entry.2 := by
  cases fields with
  | nil => exact fun _ h => absurd h List.not_mem_nil
  | cons entry fields =>
      obtain ⟨key, v⟩ := entry
      obtain ⟨hfirst, hrest⟩ := Nat.max_le.1 hdepth
      rw [List.forall_mem_cons]
      exact ⟨reads_value hportable.1 hcanonical.1 hfirst,
        reads_fields hportable.2 hcanonical.2 hrest⟩

end

end Json

/-! ## Bodies -/

theorem Json.read_compactText {v : Value} (hportable : v.Portable) (hcanonical : v.Canonical)
    (hnesting : v.nesting ≤ Json.nestingLimit) :
    Json.read (Utf8.encode (Json.compactText v)) = .ok v := by
  have hread := (Json.reads_value hportable hcanonical hnesting).reads [] trivial
  rw [List.append_nil] at hread
  rw [Json.compactText, Utf8.encode, String.toList_ofList, Json.read, hread]
  rfl

/-- The text of an object begins with a brace. -/
theorem Json.encode_compactText_map (fields : Fields Value) :
    Utf8.encode (Json.compactText (.map fields)) =
      0x7B :: Utf8.encodeChars (Json.compactFields fields ++ ['\x7d']) := by
  rw [Json.compactText, Utf8.encode, String.toList_ofList, Json.compact]
  rfl

/-- A body that holds an object is not blank, and is decoded to this object. -/
theorem decodeBody_of_read {body : Bytes} {fields : Fields Value} {tail : Bytes}
    (hbrace : body = 0x7B :: tail) (hread : Json.read body = .ok (.map fields)) :
    decodeBody body = .ok (.map fields) := by
  have hblank : body.all isBlankByte = false := by
    rw [hbrace, List.all_cons]
    rfl
  rw [decodeBody, hblank, hread]
  rfl

/-- **Values survive the wire.** A map without floats, whose unsigned integers are above the signed
range and whose containers nest fewer than 128 deep, is decoded from its JSON text as it was, also
when it is the resolved body of a request. -/
theorem values_survive_wire {fields : Fields Value} (hportable : (Value.map fields).Portable)
    (hcanonical : (Value.map fields).Canonical) (hnesting : (Value.map fields).nesting < 128) :
    decodeBody (Utf8.encode (Json.compactText (.map fields))) = .ok (.map fields) ∧
      ∀ (scope : Scope) (supply : Nat) (declared : Fields Value),
        (scope.resolveFields supply declared).1 = fields →
          ∃ text, (RequestTemplate.buildBody scope supply (some declared)).1 = some text ∧
            decodeBody (Utf8.encode text) = .ok (.map fields) := by
  have hread := Json.read_compactText hportable hcanonical (Nat.le_of_lt_succ hnesting)
  have hbrace : Utf8.encode (Json.compactText (.map fields)) =
      0x7B :: Utf8.encodeChars (Json.compactFields fields ++ ['\x7d']) := by
    rw [Json.compactText, Utf8.encode, String.toList_ofList, Json.compact]
    rfl
  have hdecode := decodeBody_of_read hbrace hread
  refine ⟨hdecode, fun scope supply declared hresolved => ⟨_, rfl, ?_⟩⟩
  rw [hresolved]
  exact hdecode

/-- A body with the ends of both 64-bit ranges, nested containers and characters of all lengths. -/
def boundaryFields : Fields Value :=
  [("\"\\\n", .list [.int (-9223372036854775808), .int 9223372036854775807,
      .uint 9223372036854775808, .uint 18446744073709551615]),
    ("id", .map [("", .list []), ("\u0001", .map [])]), ("é€😀", .str "\t/\"é€😀\\")]

theorem boundaryFields_survive_wire :
    (Value.map boundaryFields).Portable ∧ (Value.map boundaryFields).Canonical ∧
      (Value.map boundaryFields).nesting < 128 ∧
      decodeBody (Utf8.encode (Json.compactText (.map boundaryFields))) =
        .ok (.map boundaryFields) := by
  have hportable : (Value.map boundaryFields).Portable := by
    simp only [boundaryFields, Value.Portable, Value.PortableItems, Value.PortableFields]
    decide
  have hcanonical : (Value.map boundaryFields).Canonical := by
    simp only [boundaryFields, Value.Canonical, Value.CanonicalItems, Value.CanonicalFields,
      Fields.Ordered]
    decide
  have hnesting : (Value.map boundaryFields).nesting < 128 := by decide
  exact ⟨hportable, hcanonical, hnesting, (values_survive_wire hportable hcanonical hnesting).1⟩

end ScenarioRunner

import ScenarioRunner.Proofs.Json.Elements

/-!
# Written containers are read back

A reader that reads some values back also reads back a list or an object of them
(`itemsFrom_compactItems`, `entriesFrom_compactFields`). The items are read in their order; the
entries are put in one by one, and since their keys ascend each one comes behind those before it.
-/

set_option autoImplicit false

namespace ScenarioRunner.Json

open Utf8 (encodeChars encodeChars_cons encodeChars_append)

/-! ## First bytes -/

section FirstByte

variable {depth : Nat} {b : UInt8} {rest : Bytes}

theorem value_minus : value depth (0x2D :: rest) = number true rest := by
  rw [value]
  rfl

theorem ne_of_isDigitByte (h : isDigitByte b = true) {d : UInt8} (hd : isDigitByte d = false) :
    b ≠ d := by
  rintro rfl
  rw [h] at hd
  cases hd

theorem isSpace_of_isDigitByte (h : isDigitByte b = true) : isSpace b = false := by
  have hne : ∀ d : UInt8, isDigitByte d = false → b ≠ d := fun _ => ne_of_isDigitByte h
  simp [isSpace, hne 0x20 rfl, hne 0x0A rfl, hne 0x09 rfl, hne 0x0D rfl]

theorem value_digit (h : isDigitByte b = true) :
    value depth (b :: rest) = number false (b :: rest) := by
  have hne : ∀ d : UInt8, isDigitByte d = false → b ≠ d := fun _ => ne_of_isDigitByte h
  rw [value, skipSpace_cons (isSpace_of_isDigitByte h)]
  dsimp only
  rw [if_neg (hne 0x6E rfl), if_neg (hne 0x74 rfl), if_neg (hne 0x66 rfl), if_neg (hne 0x2D rfl),
    if_pos h]

theorem value_quote : value depth (0x22 :: rest) =
    (string rest).bind fun read => .ok (.str read.1, read.2) := by
  rw [value]
  rfl

theorem value_list : value (depth + 1) (0x5B :: rest) =
    (itemsFrom (value depth) (rest.length + 1) true rest).bind fun read =>
      .ok (.list read.1, read.2) := by
  rw [value]
  rfl

theorem value_map : value (depth + 1) (0x7B :: rest) =
    (entriesFrom (value depth) (rest.length + 1) true [] rest).bind fun read =>
      .ok (.map read.1, read.2) := by
  rw [value]
  rfl

end FirstByte

/-- A reader of items reads a value back, from a first byte that begins one, up to what ends it. -/
structure Reads (item : Bytes → Except Fault (Value × Bytes)) (v : Value) : Prop where
  begins : ∃ b tail, encodeChars (compact v) = b :: tail ∧ isSpace b = false ∧ b ≠ 0x5D
  reads : ∀ rest, Delimited rest → item (encodeChars (compact v) ++ rest) = .ok (v, rest)

/-! ## Lists -/

/-- The bytes of one item. -/
def itemBytes (v : Value) : Bytes := encodeChars (compact v)

theorem encodeChars_compactItems (v : Value) (items : List Value) :
    encodeChars (compactItems (v :: items)) = itemBytes v ++ further itemBytes items := by
  induction items generalizing v with
  | nil => rw [compactItems, further, List.append_nil, itemBytes]
  | cons w items ih =>
      rw [compactItems, encodeChars_append, encodeChars_cons, ih w, further]
      rfl

theorem Reads.findsItem {item : Bytes → Except Fault (Value × Bytes)} {v : Value}
    (h : Reads item v) : FindsItem item (itemBytes v) v := by
  obtain ⟨⟨b, tail, hbytes, hspace, hend⟩, hread⟩ := h
  intro rest hrest
  have hitem := hread rest hrest
  rw [hbytes, List.cons_append] at hitem
  refine ⟨b, tail ++ rest, ?_, hend, hitem⟩
  rw [itemBytes, hbytes, List.cons_append, skipSpace_cons hspace]

/-- **Items that are read back one by one are read back as a list.** -/
theorem itemsFrom_compactItems {item : Bytes → Except Fault (Value × Bytes)} {items : List Value}
    {fuel : Nat} (hitems : ∀ v ∈ items, Reads item v) (rest : Bytes) (hfuel : items.length < fuel) :
    itemsFrom item fuel true (encodeChars (compactItems items) ++ 0x5D :: rest) =
      .ok (items, rest) := by
  cases items with
  | nil =>
      obtain ⟨fuel, rfl⟩ := Nat.exists_eq_add_one_of_ne_zero (Nat.ne_zero_of_lt hfuel)
      rfl
  | cons v items =>
      have hclosing : Delimited (0x5D :: rest) := .inr (.inl rfl)
      have hread := itemsFrom_elements (fun w hw => (hitems w hw).findsItem) hclosing
        (skipSpace_cons rfl) hfuel
      rw [List.map_id'] at hread
      rw [encodeChars_compactItems, List.append_assoc, hread]

theorem reads_list {depth : Nat} {items : List Value}
    (hitems : ∀ v ∈ items, Reads (value depth) v) : Reads (value (depth + 1)) (.list items) := by
  have hbytes : encodeChars (compact (.list items)) =
      0x5B :: (encodeChars (compactItems items) ++ [0x5D]) := by
    rw [compact, encodeChars_cons, encodeChars_append]
    rfl
  have hlength : items.length ≤ (encodeChars (compactItems items)).length + 1 := by
    cases items with
    | nil => exact Nat.zero_le _
    | cons v items =>
        have hfurther := length_further itemBytes items
        rw [encodeChars_compactItems, List.length_append, List.length_cons]
        omega
  refine ⟨⟨_, _, hbytes, rfl, by decide⟩, fun rest _ => ?_⟩
  rw [hbytes, List.cons_append, List.append_assoc, value_list, List.cons_append, List.nil_append,
    itemsFrom_compactItems hitems rest (by simp only [List.length_append, List.length_cons]; omega)]
  rfl

/-! ## Objects -/

/-- The bytes of one entry. -/
def entryBytes (entry : String × Value) : Bytes :=
  encodeChars (quoted entry.1) ++ 0x3A :: encodeChars (compact entry.2)

theorem encodeChars_compactFields (entry : String × Value) (fields : List (String × Value)) :
    encodeChars (compactFields (entry :: fields)) = entryBytes entry ++ further entryBytes fields := by
  induction fields generalizing entry with
  | nil =>
      rw [compactFields, further, List.append_nil, encodeChars_append, encodeChars_cons]
      rfl
  | cons next fields ih =>
      rw [compactFields]
      simp only [encodeChars_append, encodeChars_cons, ih next, further, entryBytes]
      simp only [List.append_assoc, List.cons_append]
      rfl

theorem Reads.findsEntry {item : Bytes → Except Fault (Value × Bytes)} {entry : String × Value}
    (h : Reads item entry.2) : FindsEntry item (entryBytes entry) entry := by
  intro rest hrest
  obtain ⟨tail, hbytes, hread⟩ :=
    string_quoted entry.1 (0x3A :: (encodeChars (compact entry.2) ++ rest))
  refine ⟨tail, _, ?_, hread, h.reads rest hrest⟩
  rw [entryBytes, List.append_assoc, List.cons_append, hbytes, skipSpace_cons rfl]

/-- **Entries in key order that are read back one by one are read back as an object.** -/
theorem entriesFrom_compactFields {item : Bytes → Except Fault (Value × Bytes)}
    {fields : List (String × Value)} {fuel : Nat} (hfields : ∀ entry ∈ fields, Reads item entry.2)
    (hordered : Fields.Ordered fields) (rest : Bytes) (hfuel : fields.length < fuel) :
    entriesFrom item fuel true [] (encodeChars (compactFields fields) ++ 0x7D :: rest) =
      .ok (fields, rest) := by
  cases fields with
  | nil =>
      obtain ⟨fuel, rfl⟩ := Nat.exists_eq_add_one_of_ne_zero (Nat.ne_zero_of_lt hfuel)
      rfl
  | cons entry fields =>
      have hclosing : Delimited (0x7D :: rest) := .inr (.inr (.inl rfl))
      have hread := entriesFrom_elements (fun other hother => (hfields other hother).findsEntry)
        hclosing (skipSpace_cons rfl) hfuel
      rw [List.map_id', Fields.ofList_of_ordered hordered] at hread
      rw [encodeChars_compactFields, List.append_assoc, hread]

theorem reads_map {depth : Nat} {fields : List (String × Value)}
    (hfields : ∀ entry ∈ fields, Reads (value depth) entry.2) (hordered : Fields.Ordered fields) :
    Reads (value (depth + 1)) (.map fields) := by
  have hbytes : encodeChars (compact (.map fields)) =
      0x7B :: (encodeChars (compactFields fields) ++ [0x7D]) := by
    rw [compact, encodeChars_cons, encodeChars_append]
    rfl
  have hlength : fields.length ≤ (encodeChars (compactFields fields)).length + 1 := by
    cases fields with
    | nil => exact Nat.zero_le _
    | cons entry fields =>
        have hfurther := length_further entryBytes fields
        rw [encodeChars_compactFields, List.length_append, List.length_cons]
        omega
  refine ⟨⟨_, _, hbytes, rfl, by decide⟩, fun rest _ => ?_⟩
  rw [hbytes, List.cons_append, List.append_assoc, value_map, List.cons_append, List.nil_append,
    entriesFrom_compactFields hfields hordered rest
      (by simp only [List.length_append, List.length_cons]; omega)]
  rfl

end ScenarioRunner.Json

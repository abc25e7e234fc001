import ScenarioRunner.Proofs.Json.Normal

/-!
# Values on several lines are read back

A value with one entry a line differs from the value on one line by white space alone, and the
reader skips it. So a portable value is read back from either text. In the text that is read the
entries of a map may stand in any order: the reader collects them, so that what is read is the value
with all of its maps in key order (`readsAs_prettyAt`, `read_prettyText`).
-/

set_option autoImplicit false

namespace ScenarioRunner

namespace Value

mutual

/-- The value with the entries of all maps collected in key order. -/
def arranged : Value → Value
  | list items => list (arrangedItems items)
  | map fields => map (Fields.ofList (arrangedFields fields))
  | v => v

/-- All items arranged. -/
def arrangedItems : List Value → List Value
  | [] => []
  | v :: rest => v.arranged :: arrangedItems rest

/-- The values of all entries arranged. -/
def arrangedFields : List (String × Value) → List (String × Value)
  | [] => []
  | (key, v) :: rest => (key, v.arranged) :: arrangedFields rest

end

theorem IsLeaf.arranged_eq {v : Value} (h : v.IsLeaf) : v.arranged = v := by
  cases v with
  | list items => exact absurd h id
  | map fields => exact absurd h id
  | null | bool _ | int _ | uint _ | float _ | str _ => rfl

theorem arranged_list (items : List Value) : (list items).arranged = list (items.map arranged) := by
  rw [arranged]
  congr
  induction items with
  | nil => rfl
  | cons v rest ih => rw [arrangedItems, ih, List.map_cons]

theorem arranged_map (fields : List (String × Value)) :
    (map fields).arranged =
      map (Fields.ofList (fields.map fun entry => (entry.1, entry.2.arranged))) := by
  rw [arranged]
  congr
  induction fields with
  | nil => rfl
  | cons entry rest ih => rw [arrangedFields, ih, List.map_cons]

/-- Nothing has to be arranged in a value whose maps are in key order. -/
theorem arranged_of_canonical {v : Value} (h : v.Canonical) : v.arranged = v := by
  induction v using treeInduction with
  | leaf v hv => exact hv.arranged_eq
  | list items ih =>
      have hitems : ∀ v ∈ items, v.arranged = v := fun v hv => ih v hv (canonical_list_iff.1 h v hv)
      rw [arranged_list, List.map_congr_left hitems, List.map_id']
  | map fields ih =>
      obtain ⟨hordered, hfields⟩ := canonical_map_iff.1 h
      have hentries : ∀ entry ∈ fields, (entry.1, entry.2.arranged) = entry := by
        intro entry hentry
        rw [ih entry hentry (hfields entry hentry)]
      rw [arranged_map, List.map_congr_left hentries, List.map_id',
        Fields.ofList_of_ordered hordered]

end Value

namespace Json

open Utf8 (encodeChars encodeChars_cons encodeChars_append)

/-- A text is read as a value, from a first byte that begins one, up to what ends it. -/
structure ReadsAs (depth : Nat) (text : List Char) (v : Value) : Prop where
  begins : ∃ b tail, encodeChars text = b :: tail ∧ isSpace b = false ∧ b ≠ 0x5D
  reads : ∀ rest, Delimited rest → value depth (encodeChars text ++ rest) = .ok (v, rest)

/-! ## White space -/

theorem encodeChars_newLine (level : Nat) :
    encodeChars (newLine level) = 0x0A :: List.replicate (2 * level) 0x20 := by
  have hblanks : ∀ n, encodeChars (List.replicate n ' ') = List.replicate n 0x20 := by
    intro n
    induction n with
    | zero => rfl
    | succ n ih =>
        rw [List.replicate_succ, encodeChars_cons, ih]
        rfl
  rw [newLine, encodeChars_cons, hblanks]
  rfl

/-- A line break and the indentation behind it are skipped. -/
theorem skipSpace_newLine (level : Nat) (bytes : Bytes) :
    skipSpace (encodeChars (newLine level) ++ bytes) = skipSpace bytes := by
  refine List.dropWhile_append_of_pos fun b hb => ?_
  rw [encodeChars_newLine] at hb
  rcases List.mem_cons.1 hb with rfl | hb
  · rfl
  · rw [List.eq_of_mem_replicate hb]
    rfl

/-- A value ends before a line break. -/
theorem delimited_newLine (level : Nat) (bytes : Bytes) :
    Delimited (encodeChars (newLine level) ++ bytes) := by
  rw [encodeChars_newLine]
  exact .inr (.inr (.inr rfl))

/-- A blank in front of a value is skipped. -/
theorem value_blank (depth : Nat) (bytes : Bytes) :
    value depth (0x20 :: bytes) = value depth bytes := by
  rw [value, value]
  rfl

/-! ## Lists -/

/-- The bytes of an item on its own line. -/
def itemLine (level : Nat) (v : Value) : Bytes := encodeChars (newLine level ++ prettyAt level v)

theorem encodeChars_prettyItems (level : Nat) (v : Value) (items : List Value) :
    encodeChars (prettyItems level (v :: items)) =
      itemLine level v ++ further (itemLine level) items := by
  induction items generalizing v with
  | nil => rw [prettyItems, further, List.append_nil, itemLine]
  | cons w items ih =>
      rw [prettyItems, encodeChars_append, encodeChars_cons, ih w, further]
      rfl

section

variable {depth level : Nat}

theorem ReadsAs.findsItem {v w : Value} (h : ReadsAs depth (prettyAt level v) w) :
    FindsItem (value depth) (itemLine level v) w := by
  obtain ⟨⟨b, tail, hbytes, hspace, hend⟩, hread⟩ := h
  intro rest hrest
  have hvalue := hread rest hrest
  rw [hbytes, List.cons_append] at hvalue
  refine ⟨b, tail ++ rest, ?_, hend, hvalue⟩
  rw [itemLine, encodeChars_append, List.append_assoc, skipSpace_newLine, hbytes, List.cons_append,
    skipSpace_cons hspace]

/-- Items that are read one by one are read as a list. -/
theorem readsAs_list {v : Value} {items : List Value}
    (hitems : ∀ w ∈ v :: items, ReadsAs depth (prettyAt (level + 1) w) w.arranged) :
    ReadsAs (depth + 1) (prettyAt level (.list (v :: items)))
      (Value.list (v :: items)).arranged := by
  have hbytes : encodeChars (prettyAt level (.list (v :: items))) =
      0x5B :: (itemLine (level + 1) v ++ (further (itemLine (level + 1)) items ++
        (encodeChars (newLine level) ++ [0x5D]))) := by
    rw [prettyAt, encodeChars_cons, encodeChars_append, encodeChars_append, encodeChars_prettyItems,
      List.append_assoc, List.append_assoc]
    · rfl
    · rintro ⟨⟩
  refine ⟨⟨_, _, hbytes, rfl, by decide⟩, fun rest _ => ?_⟩
  have hclosing := delimited_newLine level (0x5D :: rest)
  have hclose : skipSpace (encodeChars (newLine level) ++ 0x5D :: rest) = 0x5D :: rest := by
    rw [skipSpace_newLine, skipSpace_cons rfl]
  -- the reader has fuel for every byte, and each item takes one at least
  have hlength := length_further (itemLine (level + 1)) items
  rw [hbytes]
  simp only [List.cons_append, List.append_assoc, List.nil_append]
  rw [value_list, itemsFrom_elements (fun w hw => (hitems w hw).findsItem) hclosing hclose
    (by simp only [List.length_append, List.length_cons]; omega), Value.arranged_list]
  rfl

/-! ## Objects -/

/-- The bytes of an entry on its own line. -/
def entryLine (level : Nat) (entry : String × Value) : Bytes :=
  encodeChars (newLine level ++ quoted entry.1 ++ ':' :: ' ' :: prettyAt level entry.2)

theorem encodeChars_prettyFields (level : Nat) (entry : String × Value)
    (fields : List (String × Value)) :
    encodeChars (prettyFields level (entry :: fields)) =
      entryLine level entry ++ further (entryLine level) fields := by
  induction fields generalizing entry with
  | nil => rw [prettyFields, further, List.append_nil, entryLine]
  | cons next fields ih =>
      rw [prettyFields, encodeChars_append, encodeChars_cons, ih next, further]
      rfl

theorem ReadsAs.findsEntry {entry : String × Value} {w : Value}
    (h : ReadsAs depth (prettyAt level entry.2) w) :
    FindsEntry (value depth) (entryLine level entry) (entry.1, w) := by
  intro rest hrest
  obtain ⟨tail, hbytes, hkey⟩ := string_quoted entry.1
    (0x3A :: 0x20 :: (encodeChars (prettyAt level entry.2) ++ rest))
  refine ⟨tail, _, ?_, hkey, ?_⟩
  · rw [entryLine, encodeChars_append, encodeChars_append, encodeChars_cons, encodeChars_cons]
    simp only [List.append_assoc]
    rw [skipSpace_newLine]
    change skipSpace (encodeChars (quoted entry.1) ++
      (0x3A :: 0x20 :: (encodeChars (prettyAt level entry.2) ++ rest))) = _
    rw [hbytes, skipSpace_cons rfl]
  · change value depth (0x20 :: (encodeChars (prettyAt level entry.2) ++ rest)) = _
    rw [value_blank, h.reads rest hrest]

/-- Entries that are read one by one are read as an object, in key order. -/
theorem readsAs_map {entry : String × Value} {fields : List (String × Value)}
    (hfields : ∀ other ∈ entry :: fields,
      ReadsAs depth (prettyAt (level + 1) other.2) other.2.arranged) :
    ReadsAs (depth + 1) (prettyAt level (.map (entry :: fields)))
      (Value.map (entry :: fields)).arranged := by
  have hbytes : encodeChars (prettyAt level (.map (entry :: fields))) =
      0x7B :: (entryLine (level + 1) entry ++ (further (entryLine (level + 1)) fields ++
        (encodeChars (newLine level) ++ [0x7D]))) := by
    rw [prettyAt, encodeChars_cons, encodeChars_append, encodeChars_append,
      encodeChars_prettyFields, List.append_assoc, List.append_assoc]
    · rfl
    · rintro ⟨⟩
  refine ⟨⟨_, _, hbytes, rfl, by decide⟩, fun rest _ => ?_⟩
  have hclosing := delimited_newLine level (0x7D :: rest)
  have hclose : skipSpace (encodeChars (newLine level) ++ 0x7D :: rest) = 0x7D :: rest := by
    rw [skipSpace_newLine, skipSpace_cons rfl]
  have hlength := length_further (entryLine (level + 1)) fields
  have hfinds : ∀ other ∈ entry :: fields, FindsEntry (value depth) (entryLine (level + 1) other)
      (other.1, other.2.arranged) := fun other hother => (hfields other hother).findsEntry
  rw [hbytes]
  simp only [List.cons_append, List.append_assoc, List.nil_append]
  rw [value_map, entriesFrom_elements hfinds hclosing hclose
    (by simp only [List.length_append, List.length_cons]; omega), Value.arranged_map]
  rfl

end

/-! ## Values -/

/-- What is written without white space is read from its text on several lines as well. -/
theorem ReadsAs.of_reads {depth level : Nat} {v : Value} (h : Reads (value depth) v)
    (hbytes : prettyAt level v = compact v) (harranged : v.arranged = v) :
    ReadsAs depth (prettyAt level v) v.arranged := by
  rw [hbytes, harranged]
  exact ⟨h.begins, h.reads⟩

theorem prettyAt_of_isLeaf {v : Value} (h : v.IsLeaf) (level : Nat) :
    prettyAt level v = compact v := by
  cases v with
  | list items => exact absurd h id
  | map fields => exact absurd h id
  | bool b => cases b <;> rfl
  | null | int _ | uint _ | float _ | str _ => rfl

/-- **Every portable value on several lines is read as the value with its maps in key order**, by a
reader that goes as deep as its containers nest. -/
theorem readsAs_prettyAt {v : Value} (hportable : v.Portable) {depth : Nat}
    (hdepth : v.nesting ≤ depth) (level : Nat) :
    ReadsAs depth (prettyAt level v) v.arranged := by
  induction v using Value.treeInduction generalizing depth level with
  | leaf v hv =>
      exact .of_reads (reads_value hportable hv.canonical hdepth) (prettyAt_of_isLeaf hv level)
        hv.arranged_eq
  | list items ih =>
      obtain ⟨depth, rfl⟩ : ∃ k, depth = k + 1 :=
        ⟨depth - 1, by rw [Value.nesting] at hdepth; omega⟩
      cases items with
      | nil =>
          have hempty : ∀ v ∈ ([] : List Value), Reads (value depth) v := by simp
          exact .of_reads (reads_list hempty) rfl rfl
      | cons v items =>
          rw [Value.portable_list_iff] at hportable
          rw [Value.nesting_list_le_iff] at hdepth
          exact readsAs_list fun w hw => ih w hw (hportable w hw) (hdepth w hw) _
  | map fields ih =>
      obtain ⟨depth, rfl⟩ : ∃ k, depth = k + 1 :=
        ⟨depth - 1, by rw [Value.nesting] at hdepth; omega⟩
      cases fields with
      | nil =>
          have hempty : ∀ entry ∈ ([] : List (String × Value)), Reads (value depth) entry.2 := by
            simp
          exact .of_reads (reads_map hempty .nil) rfl rfl
      | cons entry fields =>
          rw [Value.portable_map_iff] at hportable
          rw [Value.nesting_map_le_iff] at hdepth
          exact readsAs_map fun other hother =>
            ih other hother (hportable other hother) (hdepth other hother) _

/-- **The text of a portable value on several lines is read back with all maps in key order.** -/
theorem read_prettyText {v : Value} (hportable : v.Portable) {depth : Nat}
    (hdepth : v.nesting ≤ depth) : read (Utf8.encode (prettyText v)) depth = .ok v.arranged := by
  have hread := (readsAs_prettyAt hportable hdepth 0).reads [] trivial
  rw [List.append_nil] at hread
  rw [prettyText, Utf8.encode, String.toList_ofList, read, hread]
  rfl

end Json

end ScenarioRunner

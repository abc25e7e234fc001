import ScenarioRunner.Proofs.Json.RoundTrip
import ScenarioRunner.Proofs.Value.Leaves

/-!
# Values as they are read back

JSON text does not say in which 64-bit form an integer was. A value is normalized when each of its
integers has the form that a reader gives it. Normalizing changes neither the text of a value nor the
nesting of its containers (`compact_normalized`, `nesting_normalized`), so every value without floats
is read back normalized (`decodeBody_compactText`).
-/

set_option autoImplicit false

namespace ScenarioRunner

namespace Value

/-- An integer in the form in which a reader gives it. -/
def narrowed : Value → Value
  | uint n => ofUInt64 n
  | v => v

/-- A value whose integers have the forms in which a reader gives them. -/
def normalized (v : Value) : Value := v.mapLeaves narrowed

/-- What readers make: maps in key order, and integers in the form in which a reader gives them. -/
structure Normal (v : Value) : Prop where
  canonical : v.Canonical
  narrow : ∀ leaf ∈ v.leaves, leaf.narrowed = leaf

variable {v : Value}

/-! ## Integers -/

theorem IsLeaf.narrowed (h : v.IsLeaf) : v.narrowed.IsLeaf := by
  cases v with
  | uint n =>
      rw [Value.narrowed, ofUInt64]
      split <;> trivial
  | null | bool _ | int _ | float _ | str _ | list _ | map _ => exact h

theorem portable_narrowed (h : v.IsLeaf) (hfloat : ∀ x, v ≠ float x) : v.narrowed.Portable := by
  cases v with
  | uint n =>
      rw [Value.narrowed, ofUInt64]
      split
      · trivial
      · next hbound => exact Nat.not_lt.1 hbound
  | float x => exact absurd rfl (hfloat x)
  | list items => exact absurd h id
  | map fields => exact absurd h id
  | null | bool _ | int _ | str _ => trivial

theorem compact_narrowed (v : Value) : Json.compact v.narrowed = Json.compact v := by
  cases v with
  | uint n =>
      rw [narrowed, ofUInt64]
      split
      · next hbound =>
          rw [Json.compact, Json.compact, Int64.toInt_ofNat_of_lt hbound]
      · rfl
  | null | bool _ | int _ | float _ | str _ | list _ | map _ => rfl

/-! ## Whole values -/

/-- Values that are normalized have no leaves that are not. -/
theorem Normal.normalized_eq (h : v.Normal) : v.normalized = v := mapLeaves_eq_self h.narrow

theorem canonical_normalized (h : v.Canonical) : v.normalized.Canonical := by
  refine canonical_mapLeaves h fun leaf hleaf => ?_
  exact (isLeaf_of_mem_leaves v leaf hleaf).narrowed.canonical

theorem portable_list_iff {items : List Value} :
    (list items).Portable ↔ ∀ v ∈ items, v.Portable := by
  rw [Portable]
  exact itemwise_iff trivial (fun _ _ => Iff.rfl) items

theorem portable_map_iff {fields : Fields Value} :
    (map fields).Portable ↔ ∀ entry ∈ fields, entry.2.Portable := by
  rw [Portable]
  exact itemwise_iff trivial (fun _ _ => Iff.rfl) fields

theorem portable_normalized (h : v.FloatFree) : v.normalized.Portable := by
  unfold FloatFree at h
  unfold normalized
  induction v using treeInduction with
  | leaf v hv =>
      rw [hv.leaves_eq] at h
      rw [hv.mapLeaves_eq]
      refine portable_narrowed hv fun x heq => h x ?_
      rw [heq]
      exact List.mem_singleton_self _
  | list items ih =>
      rw [mapLeaves_list, portable_list_iff, List.forall_mem_map]
      exact fun v hv => ih v hv fun x hx => h x (mem_leaves_list.2 ⟨v, hv, hx⟩)
  | map fields ih =>
      rw [mapLeaves_map, portable_map_iff, List.forall_mem_map]
      exact fun entry hentry =>
        ih entry hentry fun x hx => h x (mem_leaves_map.2 ⟨entry, hentry, hx⟩)

theorem IsLeaf.nesting_eq {v : Value} (h : v.IsLeaf) : v.nesting = 0 := by
  cases v with
  | list items => exact absurd h id
  | map fields => exact absurd h id
  | null | bool _ | int _ | uint _ | float _ | str _ => rfl

theorem nesting_list_le_iff {items : List Value} {depth : Nat} :
    (list items).nesting ≤ depth + 1 ↔ ∀ v ∈ items, v.nesting ≤ depth := by
  rw [nesting, Nat.add_le_add_iff_right]
  induction items with
  | nil => simp [nestingItems]
  | cons v rest ih => rw [nestingItems, Nat.max_le, ih, List.forall_mem_cons]

theorem nesting_map_le_iff {fields : Fields Value} {depth : Nat} :
    (map fields).nesting ≤ depth + 1 ↔ ∀ entry ∈ fields, entry.2.nesting ≤ depth := by
  rw [nesting, Nat.add_le_add_iff_right]
  induction fields with
  | nil => simp [nestingFields]
  | cons entry rest ih => rw [nestingFields, Nat.max_le, ih, List.forall_mem_cons]

theorem nesting_normalized (v : Value) : v.normalized.nesting = v.nesting := by
  unfold normalized
  induction v using treeInduction with
  | leaf v hv => rw [hv.mapLeaves_eq, hv.nesting_eq, hv.narrowed.nesting_eq]
  | list items ih =>
      rw [mapLeaves_list, nesting, nesting]
      congr 1
      induction items with
      | nil => rfl
      | cons v rest ihrest =>
          rw [List.forall_mem_cons] at ih
          rw [List.map_cons, nestingItems, nestingItems, ih.1, ihrest ih.2]
  | map fields ih =>
      rw [mapLeaves_map, nesting, nesting]
      congr 1
      induction fields with
      | nil => rfl
      | cons entry rest ihrest =>
          rw [List.forall_mem_cons] at ih
          rw [List.map_cons, nestingFields, nestingFields, ih.1, ihrest ih.2]

end Value

namespace Json

open Value

/-- Items of the same text are written alike. -/
theorem compactItems_map {f : Value → Value} {items : List Value}
    (h : ∀ v ∈ items, compact (f v) = compact v) : compactItems (items.map f) = compactItems items := by
  induction items with
  | nil => rfl
  | cons v rest ih =>
      rw [List.forall_mem_cons] at h
      cases rest with
      | nil => exact h.1
      | cons w rest =>
          rw [List.map_cons, List.map_cons, compactItems, compactItems, h.1, ← List.map_cons, ih h.2]

/-- Entries of the same keys and texts are written alike. -/
theorem compactFields_map {f : Value → Value} {fields : List (String × Value)}
    (h : ∀ entry ∈ fields, compact (f entry.2) = compact entry.2) :
    compactFields (fields.map fun entry => (entry.1, f entry.2)) = compactFields fields := by
  induction fields with
  | nil => rfl
  | cons entry rest ih =>
      rw [List.forall_mem_cons] at h
      cases rest with
      | nil => rw [List.map_singleton, compactFields, compactFields, h.1]
      | cons other rest =>
          have hrest := ih h.2
          rw [List.map_cons] at hrest
          rw [List.map_cons, List.map_cons, compactFields, compactFields, h.1, hrest]

theorem compact_normalized (v : Value) : compact v.normalized = compact v := by
  unfold normalized
  induction v using treeInduction with
  | leaf v hv => rw [hv.mapLeaves_eq, compact_narrowed]
  | list items ih => rw [mapLeaves_list, compact, compact, compactItems_map ih]
  | map fields ih => rw [mapLeaves_map, compact, compact, compactFields_map ih]

end Json

/-- **A body without floats is read back normalized.** -/
theorem decodeBody_compactText {fields : Fields Value} (hfree : (Value.map fields).FloatFree)
    (hcanonical : (Value.map fields).Canonical) (hnesting : (Value.map fields).nesting < 128) :
    decodeBody (Utf8.encode (Json.compactText (.map fields))) =
      .ok (Value.map fields).normalized := by
  -- the text is that of the normalized value as well, and this one is portable
  have hread := Json.read_compactText (Value.portable_normalized hfree)
    (Value.canonical_normalized hcanonical)
    (by rw [Value.nesting_normalized]; exact Nat.le_of_lt_succ hnesting)
  rw [Json.compactText, Json.compact_normalized] at hread
  rw [Value.normalized, Value.mapLeaves_map] at hread ⊢
  exact decodeBody_of_read (Json.encode_compactText_map fields) hread

end ScenarioRunner

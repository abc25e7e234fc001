import Mathlib.Data.List.Basic
import ScenarioRunner.Value.Basic

/-!
# The leaves of a value

The leaves of a value are the values inside it that are neither lists nor maps, in order. What is
said about all strings or all numbers inside a value is said about its leaves. `mapLeaves` exchanges
the leaves and keeps the rest: the order of the items, the keys, and with them the key order
(`canonical_mapLeaves`). Proofs about whole values go by `treeInduction`, which has one case for
leaves of all kinds.
-/

set_option autoImplicit false

namespace ScenarioRunner.Value

/-- Whether a value is neither a list nor a map. -/
def IsLeaf : Value → Prop
  | list _ => False
  | map _ => False
  | _ => True

/-- What holds of leaves, of lists of whose items it holds and of maps of whose entries it holds, holds
of all values. -/
@[elab_as_elim]
theorem treeInduction {motive : Value → Prop} (leaf : ∀ v, v.IsLeaf → motive v)
    (list : ∀ items, (∀ v ∈ items, motive v) → motive (list items))
    (map : ∀ fields, (∀ entry ∈ fields, motive entry.2) → motive (map fields)) : ∀ v, motive v
  | .list items => list items fun v _ => treeInduction leaf list map v
  | .map fields => map fields fun entry _ => treeInduction leaf list map entry.2
  | .null => leaf null trivial
  | .bool b => leaf (bool b) trivial
  | .int n => leaf (int n) trivial
  | .uint n => leaf (uint n) trivial
  | .float x => leaf (float x) trivial
  | .str s => leaf (str s) trivial
termination_by v => sizeOf v
decreasing_by
  -- an item is smaller than its list, and a value than its entry and so than its map
  · next hv =>
      have hsize := List.sizeOf_lt_of_mem hv
      rw [Value.list.sizeOf_spec]
      omega
  · next hentry =>
      have hsize := List.sizeOf_lt_of_mem hentry
      rw [Value.map.sizeOf_spec]
      cases entry
      rw [Prod.mk.sizeOf_spec] at hsize
      dsimp only
      omega

/-! ## Leaves -/

mutual

/-- The values inside that are no containers. -/
def leaves : Value → List Value
  | list items => leavesOfItems items
  | map fields => leavesOfFields fields
  | v => [v]

/-- The leaves of all items. -/
def leavesOfItems : List Value → List Value
  | [] => []
  | v :: rest => v.leaves ++ leavesOfItems rest

/-- The leaves of the values of all entries. -/
def leavesOfFields : List (String × Value) → List Value
  | [] => []
  | (_, v) :: rest => v.leaves ++ leavesOfFields rest

end

/-- A value without floats inside. -/
def FloatFree (v : Value) : Prop := ∀ x, .float x ∉ v.leaves

theorem IsLeaf.leaves_eq {v : Value} (h : v.IsLeaf) : v.leaves = [v] := by
  cases v with
  | list items => exact absurd h id
  | map fields => exact absurd h id
  | null | bool _ | int _ | uint _ | float _ | str _ => rfl

theorem leavesOfItems_eq (items : List Value) : leavesOfItems items = items.flatMap leaves := by
  induction items with
  | nil => rfl
  | cons v rest ih => rw [leavesOfItems, ih, List.flatMap_cons]

theorem leavesOfFields_eq (fields : List (String × Value)) :
    leavesOfFields fields = fields.flatMap fun entry => entry.2.leaves := by
  induction fields with
  | nil => rfl
  | cons entry rest ih => rw [leavesOfFields, ih, List.flatMap_cons]

theorem mem_leaves_list {leaf : Value} {items : List Value} :
    leaf ∈ (list items).leaves ↔ ∃ v ∈ items, leaf ∈ v.leaves := by
  rw [leaves, leavesOfItems_eq, List.mem_flatMap]

theorem mem_leaves_map {leaf : Value} {fields : List (String × Value)} :
    leaf ∈ (map fields).leaves ↔ ∃ entry ∈ fields, leaf ∈ entry.2.leaves := by
  rw [leaves, leavesOfFields_eq, List.mem_flatMap]

section ForAll

variable {p : Value → Prop}

theorem IsLeaf.forall_mem_leaves {v : Value} (h : v.IsLeaf) : (∀ leaf ∈ v.leaves, p leaf) ↔ p v := by
  rw [h.leaves_eq, List.forall_mem_singleton]

theorem forall_mem_leaves_list {items : List Value} :
    (∀ leaf ∈ (list items).leaves, p leaf) ↔ ∀ v ∈ items, ∀ leaf ∈ v.leaves, p leaf := by
  simp only [mem_leaves_list, forall_exists_index, and_imp]
  exact ⟨fun h v hv leaf hleaf => h leaf v hv hleaf, fun h leaf v hv hleaf => h v hv leaf hleaf⟩

theorem forall_mem_leaves_map {fields : List (String × Value)} :
    (∀ leaf ∈ (map fields).leaves, p leaf) ↔
      ∀ entry ∈ fields, ∀ leaf ∈ entry.2.leaves, p leaf := by
  simp only [mem_leaves_map, forall_exists_index, and_imp]
  exact ⟨fun h entry hentry leaf hleaf => h leaf entry hentry hleaf,
    fun h leaf entry hentry hleaf => h entry hentry leaf hleaf⟩

end ForAll

theorem isLeaf_of_mem_leaves (v : Value) : ∀ leaf ∈ v.leaves, leaf.IsLeaf := by
  induction v using treeInduction with
  | leaf v hv => exact hv.forall_mem_leaves.2 hv
  | list items ih => exact forall_mem_leaves_list.2 ih
  | map fields ih => exact forall_mem_leaves_map.2 ih

/-! ## Key order -/

/-- What is said of a list item by item is said of all its items. -/
theorem itemwise_iff {α : Type} {p : α → Prop} {q : List α → Prop} (hnil : q [])
    (hcons : ∀ a rest, q (a :: rest) ↔ p a ∧ q rest) (items : List α) :
    q items ↔ ∀ a ∈ items, p a := by
  induction items with
  | nil => exact iff_of_true hnil fun _ h => absurd h List.not_mem_nil
  | cons a rest ih => rw [hcons, ih, List.forall_mem_cons]

theorem IsLeaf.canonical {v : Value} (h : v.IsLeaf) : v.Canonical := by
  cases v with
  | list items => exact absurd h id
  | map fields => exact absurd h id
  | null | bool _ | int _ | uint _ | float _ | str _ => trivial

theorem canonical_list_iff {items : List Value} :
    (list items).Canonical ↔ ∀ v ∈ items, v.Canonical := by
  rw [Canonical]
  exact itemwise_iff trivial (fun _ _ => Iff.rfl) items

theorem canonical_map_iff {fields : Fields Value} :
    (map fields).Canonical ↔ fields.Ordered ∧ ∀ entry ∈ fields, entry.2.Canonical := by
  rw [Canonical]
  exact and_congr_right' (itemwise_iff trivial (fun _ _ => Iff.rfl) fields)

/-! ## Exchanging leaves -/

mutual

/-- Puts other values in the places of the leaves. -/
def mapLeaves (f : Value → Value) : Value → Value
  | list items => list (mapLeavesOfItems f items)
  | map fields => map (mapLeavesOfFields f fields)
  | v => f v

/-- Puts other values in the places of the leaves of all items. -/
def mapLeavesOfItems (f : Value → Value) : List Value → List Value
  | [] => []
  | v :: rest => v.mapLeaves f :: mapLeavesOfItems f rest

/-- Puts other values in the places of the leaves of all entries. -/
def mapLeavesOfFields (f : Value → Value) : List (String × Value) → List (String × Value)
  | [] => []
  | (key, v) :: rest => (key, v.mapLeaves f) :: mapLeavesOfFields f rest

end

variable {f : Value → Value}

theorem IsLeaf.mapLeaves_eq {v : Value} (h : v.IsLeaf) : v.mapLeaves f = f v := by
  cases v with
  | list items => exact absurd h id
  | map fields => exact absurd h id
  | null | bool _ | int _ | uint _ | float _ | str _ => rw [mapLeaves] <;> simp

theorem mapLeaves_list (items : List Value) :
    (list items).mapLeaves f = list (items.map (mapLeaves f)) := by
  rw [mapLeaves]
  congr
  induction items with
  | nil => rfl
  | cons v rest ih => rw [mapLeavesOfItems, ih, List.map_cons]

theorem mapLeaves_map (fields : List (String × Value)) :
    (map fields).mapLeaves f = map (fields.map fun entry => (entry.1, entry.2.mapLeaves f)) := by
  rw [mapLeaves]
  congr
  induction fields with
  | nil => rfl
  | cons entry rest ih => rw [mapLeavesOfFields, ih, List.map_cons]

/-- The leaves of the values that are put in take the places of the leaves. -/
theorem leaves_mapLeaves (v : Value) :
    (v.mapLeaves f).leaves = v.leaves.flatMap fun leaf => (f leaf).leaves := by
  induction v using treeInduction with
  | leaf v hv => rw [hv.mapLeaves_eq, hv.leaves_eq, List.flatMap_singleton]
  | list items ih =>
      rw [mapLeaves_list, leaves, leaves, leavesOfItems_eq, leavesOfItems_eq, List.flatMap_map,
        List.flatMap_assoc]
      exact List.flatMap_congr fun v hv => ih v hv
  | map fields ih =>
      rw [mapLeaves_map, leaves, leaves, leavesOfFields_eq, leavesOfFields_eq, List.flatMap_map,
        List.flatMap_assoc]
      exact List.flatMap_congr fun entry hentry => ih entry hentry

theorem mapLeaves_eq_self {v : Value} (h : ∀ leaf ∈ v.leaves, f leaf = leaf) :
    v.mapLeaves f = v := by
  induction v using treeInduction with
  | leaf v hv =>
      rw [hv.forall_mem_leaves] at h
      rw [hv.mapLeaves_eq, h]
  | list items ih =>
      rw [forall_mem_leaves_list] at h
      have hitems : ∀ v ∈ items, v.mapLeaves f = v := fun v hv => ih v hv (h v hv)
      rw [mapLeaves_list, List.map_congr_left hitems, List.map_id']
  | map fields ih =>
      rw [forall_mem_leaves_map] at h
      have hfields : ∀ entry ∈ fields, (entry.1, entry.2.mapLeaves f) = entry := by
        intro entry hentry
        rw [ih entry hentry (h entry hentry)]
      rw [mapLeaves_map, List.map_congr_left hfields, List.map_id']

/-- Exchanging leaves keeps the key order. -/
theorem canonical_mapLeaves {v : Value} (h : v.Canonical)
    (hleaves : ∀ leaf ∈ v.leaves, (f leaf).Canonical) : (v.mapLeaves f).Canonical := by
  induction v using treeInduction with
  | leaf v hv =>
      rw [hv.mapLeaves_eq]
      exact hv.forall_mem_leaves.1 hleaves
  | list items ih =>
      rw [canonical_list_iff] at h
      rw [forall_mem_leaves_list] at hleaves
      rw [mapLeaves_list, canonical_list_iff, List.forall_mem_map]
      exact fun v hv => ih v hv (h v hv) (hleaves v hv)
  | map fields ih =>
      rw [canonical_map_iff] at h
      rw [forall_mem_leaves_map] at hleaves
      rw [mapLeaves_map, canonical_map_iff, List.forall_mem_map]
      exact ⟨List.pairwise_map.2 h.1,
        fun entry hentry => ih entry hentry (h.2 entry hentry) (hleaves entry hentry)⟩

end ScenarioRunner.Value

import ScenarioRunner.Proofs.Json.Normal
import ScenarioRunner.Proofs.Template.Field
import ScenarioRunner.Proofs.Template.Steady
import ScenarioRunner.Proofs.Template.Tree
import ScenarioRunner.Proofs.Value.Place

/-!
# Resolving a body

A steady body is resolved leaf by leaf (`resolveValue_of_steady_eq`): what stands at a place of the
resolved body is what results from the leaf at this place of the declared one, and a string that is one
slot of a stored variable becomes the value of the variable (`filled_slotOf`). A body is portable if
resolving it brings no floats in and nests its containers no deeper than a reader goes. A portable
body is written and decoded again without loss (`decodeBody_of_portable`).
-/

set_option autoImplicit false

namespace ScenarioRunner

namespace Template

/-- Whether a piece is a slot for an environment variable. -/
def Piece.asksEnvironment : Piece → Bool
  | .text _ => false
  | .slot inner =>
    match Reference.ofName (trimBlanks inner) with
    | .environment _ => true
    | _ => false

/-- What is neither for a fresh identifier nor for an environment variable is for a stored one. -/
theorem unreserved_of_steady {template : List Char} (hsteady : Steady template)
    (henv : ∀ piece ∈ scan template, piece.asksEnvironment = false) : Unreserved template := by
  intro inner hinner
  have hfresh := of_decide_eq_false (hsteady _ hinner)
  have henvironment := henv _ hinner
  unfold Piece.asksEnvironment at henvironment
  cases href : Reference.ofName (trimBlanks inner) with
  | fresh => exact absurd href hfresh
  | environment name =>
      simp only [href] at henvironment
      cases henvironment
  | stored name => rw [Reference.eq_of_ofName href]

end Template

open Template

namespace Value

theorem steady_list_iff {items : List Value} : (list items).Steady ↔ ∀ v ∈ items, v.Steady := by
  rw [Steady]
  exact itemwise_iff trivial (fun _ _ => Iff.rfl) items

theorem steady_map_iff {fields : Fields Value} :
    (map fields).Steady ↔ ∀ entry ∈ fields, entry.2.Steady := by
  rw [Steady]
  exact itemwise_iff trivial (fun _ _ => Iff.rfl) fields

/-- A value is steady when all strings inside are. -/
theorem steady_iff {v : Value} :
    v.Steady ↔ ∀ s, .str s ∈ v.leaves → Template.Steady s.toList := by
  induction v using treeInduction with
  | leaf v hv =>
      rw [hv.leaves_eq]
      cases v with
      | str s => simp [Steady]
      | list items => exact absurd hv id
      | map fields => exact absurd hv id
      | null | bool _ | int _ | uint _ | float _ => simp [Steady]
  | list items ih =>
      rw [steady_list_iff]
      constructor
      · intro h s hs
        obtain ⟨v, hv, hleaf⟩ := mem_leaves_list.1 hs
        exact (ih v hv).1 (h v hv) s hleaf
      · intro h v hv
        exact (ih v hv).2 fun s hs => h s (mem_leaves_list.2 ⟨v, hv, hs⟩)
  | map fields ih =>
      rw [steady_map_iff]
      constructor
      · intro h s hs
        obtain ⟨entry, hentry, hleaf⟩ := mem_leaves_map.1 hs
        exact (ih entry hentry).1 (h entry hentry) s hleaf
      · intro h entry hentry
        exact (ih entry hentry).2 fun s hs => h s (mem_leaves_map.2 ⟨entry, hentry, hs⟩)

end Value

namespace Scope

variable {scope : Scope} {v : Value} {fields : Fields Value}

/-! ## Leaf by leaf -/

/-- What a leaf of a steady body resolves to. -/
def filled (scope : Scope) : Value → Value
  | .str s => (scope.resolveField 0 s).1
  | v => v

/-- **A steady body is resolved leaf by leaf**, whatever the place in the supply of identifiers. -/
theorem resolveValue_eq_mapLeaves (h : v.Steady) (supply : Nat) :
    scope.resolveValue supply v = (v.mapLeaves scope.filled, supply) := by
  -- the items are resolved at later places in the supply, so the place is general
  induction v using Value.treeInduction generalizing supply with
  | leaf v hv =>
      rw [hv.mapLeaves_eq]
      cases v with
      | str s =>
          rw [Value.Steady] at h
          obtain ⟨w, hw⟩ := scope.resolveField_of_steady h
          rw [resolveValue, filled, hw, hw]
      | list items => exact absurd hv id
      | map fields => exact absurd hv id
      | null | bool _ | int _ | uint _ | float _ => rw [resolveValue] <;> simp [filled]
  | list items ih =>
      rw [Value.steady_list_iff] at h
      rw [resolveValue, resolveItems_of_each fun v hv => ih v hv (h v hv), Value.mapLeaves_list]
  | map fields ih =>
      rw [Value.steady_map_iff] at h
      rw [resolveValue, resolveFields_of_each fun entry hentry => ih entry hentry (h entry hentry),
        Value.mapLeaves_map]

/-- The body that is sent is the resolved one. -/
theorem buildBody_of_steady (h : (Value.map fields).Steady) (supply : Nat) :
    RequestTemplate.buildBody scope supply (some fields) =
      (some (Json.compactText ((Value.map fields).mapLeaves scope.filled)), supply) := by
  rw [Value.steady_map_iff] at h
  rw [RequestTemplate.buildBody, resolveFields_of_each fun entry hentry =>
    resolveValue_eq_mapLeaves (h entry hentry), Value.mapLeaves_map]

/-- One slot of a stored variable stands for the value of the variable. -/
theorem storedValue?_slotOf {name : String} (hname : PlainName name)
    (hbound : Fields.get? scope.store name = some v) :
    scope.storedValue? (slotOf name).toList = some v := by
  rw [slotOf, String.toList_ofList, storedValue?_eq_some_iff]
  refine ⟨name.toList, rfl, not_doubled_of_not_mem hname.braceless.1,
    not_doubled_of_not_mem hname.braceless.2, ?_, ?_⟩
  · rw [hname.trimmed, hname.ofName_eq, String.ofList_toList]
  · rw [hname.trimmed, String.ofList_toList, hbound]

/-- A string that is one slot of a stored variable becomes the value of the variable. -/
theorem filled_slotOf {name : String} (hname : PlainName name)
    (hbound : Fields.get? scope.store name = some v) : scope.filled (.str (slotOf name)) = v := by
  rw [filled, resolveField, storedValue?_slotOf hname hbound]

/-! ## Portable bodies -/

/-- A body that JSON text can keep once it has been resolved: neither it nor a stored value that a whole
string of it stands for has floats inside, no slot is for an environment variable, and containers
nest no deeper than a reader goes. -/
structure PortableBody (scope : Scope) (fields : Fields Value) : Prop where
  floatFree : (Value.map fields).FloatFree
  environmentFree : ∀ s, .str s ∈ (Value.map fields).leaves →
    ∀ piece ∈ scan s.toList, piece.asksEnvironment = false
  stored : ∀ s v, .str s ∈ (Value.map fields).leaves → scope.storedValue? s.toList = some v →
    v.FloatFree
  nesting : (scope.resolveValue 0 (.map fields)).1.nesting < 128

theorem PortableBody.unreserved (h : scope.PortableBody fields) (hsteady : (Value.map fields).Steady)
    {s : String} (hs : .str s ∈ (Value.map fields).leaves) : Unreserved s.toList :=
  unreserved_of_steady (Value.steady_iff.1 hsteady s hs) (h.environmentFree s hs)

/-- A string without reserved names becomes a stored value or a text. -/
theorem filled_str {s : String} (h : Unreserved s.toList) :
    (∃ v, scope.storedValue? s.toList = some v ∧ scope.filled (.str s) = v) ∨
      ∃ text, scope.filled (.str s) = .str text := by
  rw [filled, resolveField_of_unreserved h]
  cases hstored : scope.storedValue? s.toList with
  | some v => exact .inl ⟨v, rfl, rfl⟩
  | none => exact .inr ⟨_, rfl⟩

/-- Resolving a portable body brings no floats in. -/
theorem floatFree_filled (hsteady : (Value.map fields).Steady) (h : scope.PortableBody fields) :
    ((Value.map fields).mapLeaves scope.filled).FloatFree := by
  intro x hx
  rw [Value.leaves_mapLeaves] at hx
  obtain ⟨leaf, hleaf, hx⟩ := List.mem_flatMap.1 hx
  -- only strings are exchanged, so a new float can only come out of one
  cases leaf with
  | str s =>
      rcases filled_str (h.unreserved hsteady hleaf) with ⟨v, hstored, hv⟩ | ⟨text, htext⟩
      · rw [hv] at hx
        exact h.stored s v hleaf hstored x hx
      · rw [htext] at hx
        cases List.mem_singleton.1 hx
  | float y => exact h.floatFree y hleaf
  | list items => exact absurd (Value.isLeaf_of_mem_leaves _ _ hleaf) id
  | map entries => exact absurd (Value.isLeaf_of_mem_leaves _ _ hleaf) id
  | null | bool _ | int _ | uint _ => cases List.mem_singleton.1 hx

/-- Resolving a portable body keeps the key order, if the stored values have it. -/
theorem canonical_filled (hsteady : (Value.map fields).Steady)
    (hcanonical : (Value.map fields).Canonical)
    (hstore : ∀ name v, Fields.get? scope.store name = some v → v.Canonical)
    (h : scope.PortableBody fields) : ((Value.map fields).mapLeaves scope.filled).Canonical := by
  refine Value.canonical_mapLeaves hcanonical fun leaf hleaf => ?_
  cases leaf with
  | str s =>
      rcases filled_str (h.unreserved hsteady hleaf) with ⟨v, hstored, hv⟩ | ⟨text, htext⟩
      · obtain ⟨inner, -, -, -, -, hbound⟩ := storedValue?_eq_some_iff.1 hstored
        rw [hv]
        exact hstore _ v hbound
      · rw [htext]
        trivial
  | list items => exact absurd (Value.isLeaf_of_mem_leaves _ _ hleaf) id
  | map entries => exact absurd (Value.isLeaf_of_mem_leaves _ _ hleaf) id
  | null | bool _ | int _ | uint _ | float _ => trivial

/-- **A portable body is decoded as it was resolved**: where its template has one slot of a stored
variable, the value of the variable is found. -/
theorem decodeBody_of_portable (hsteady : (Value.map fields).Steady)
    (hcanonical : (Value.map fields).Canonical)
    (hstore : ∀ name v, Fields.get? scope.store name = some v → v.Canonical)
    (h : scope.PortableBody fields) (supply : Nat) :
    ∃ text decoded,
      (RequestTemplate.buildBody scope supply (some fields)).1 = some text ∧
      decodeBody (Utf8.encode text) = .ok decoded ∧
      ∀ name v place, PlainName name → Fields.get? scope.store name = some v → v.Normal →
        (Value.map fields).at? place = some (.str (slotOf name)) → decoded.at? place = some v := by
  have hnesting := h.nesting
  rw [resolveValue_eq_mapLeaves hsteady] at hnesting
  have hfree := floatFree_filled hsteady h
  have hordered := canonical_filled hsteady hcanonical hstore h
  rw [buildBody_of_steady hsteady]
  refine ⟨_, ((Value.map fields).mapLeaves scope.filled).normalized, rfl, ?_, ?_⟩
  · rw [Value.mapLeaves_map] at hfree hordered hnesting ⊢
    exact decodeBody_compactText hfree hordered hnesting
  · intro name v place hname hbound hnormal hplace
    -- resolving and reading both exchange leaves, so the place stays the same
    have hresolved := Value.at?_mapLeaves scope.filled hplace
    have hleaf : (Value.str (slotOf name)).IsLeaf := trivial
    rw [hleaf.mapLeaves_eq, filled_slotOf hname hbound] at hresolved
    have hread := Value.at?_mapLeaves Value.narrowed hresolved
    rwa [show v.mapLeaves Value.narrowed = v from hnormal.normalized_eq] at hread

end Scope

end ScenarioRunner

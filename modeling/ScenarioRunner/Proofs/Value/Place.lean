import ScenarioRunner.Proofs.Value.Fields
import ScenarioRunner.Proofs.Value.Leaves
import ScenarioRunner.Value.Path

/-!
# Places in a value

A place is a sequence of steps into lists and maps. A value and the one that results from exchanging
its leaves have the same places, and what stands at a place of the latter is what results from the
value at this place of the former (`at?_mapLeaves`). What stands at a place has no other leaves than
the whole, and its maps are in key order too. Whatever a path leads to stands at a place
(`exists_place_of_lookup?`).
-/

set_option autoImplicit false

namespace ScenarioRunner.Value

/-- A step into a container. -/
inductive Step where
  /-- To an item of a list. -/
  | item (i : Nat)
  /-- To the value of an entry of a map. -/
  | entry (key : String)

/-- What a step leads to. -/
def child? : Value → Step → Option Value
  | list items, .item i => items[i]?
  | map fields, .entry key => Fields.get? fields key
  | _, _ => none

/-- What stands at a place; `none` where the place does not exist. -/
def at? (v : Value) : List Step → Option Value
  | [] => some v
  | step :: rest => (v.child? step).bind fun child => child.at? rest

variable {v w : Value} {step : Step} {place : List Step}

theorem at?_append (v : Value) (place further : List Step) :
    v.at? (place ++ further) = (v.at? place).bind fun w => w.at? further := by
  induction place generalizing v with
  | nil => rfl
  | cons step place ih =>
      rw [List.cons_append, at?, at?, Option.bind_assoc]
      congr
      funext child
      exact ih child

/-! ## Exchanged leaves -/

theorem child?_mapLeaves (f : Value → Value) (h : v.child? step = some w) :
    (v.mapLeaves f).child? step = some (w.mapLeaves f) := by
  cases v with
  | list items =>
      cases step with
      | item i =>
          rw [child?] at h
          rw [mapLeaves_list, child?, List.getElem?_map, h, Option.map_some]
      | entry key => cases h
  | map fields =>
      cases step with
      | item i => cases h
      | entry key =>
          rw [child?] at h
          rw [mapLeaves_map, child?, Fields.get?_map, h, Option.map_some]
  | null | bool _ | int _ | uint _ | float _ | str _ => cases h

/-- **Exchanging leaves changes what stands at a place, and no places.** -/
theorem at?_mapLeaves (f : Value → Value) (h : v.at? place = some w) :
    (v.mapLeaves f).at? place = some (w.mapLeaves f) := by
  induction place generalizing v with
  | nil =>
      cases h
      rfl
  | cons step place ih =>
      obtain ⟨child, hchild, hrest⟩ := Option.bind_eq_some_iff.1 h
      rw [at?, child?_mapLeaves f hchild, Option.bind_some, ih hrest]

/-! ## Parts and the whole -/

theorem leaves_subset_of_child? (h : v.child? step = some w) : w.leaves ⊆ v.leaves := by
  intro leaf hleaf
  cases v with
  | list items =>
      cases step with
      | item i => exact mem_leaves_list.2 ⟨w, List.mem_of_getElem? h, hleaf⟩
      | entry key => cases h
  | map fields =>
      cases step with
      | item i => cases h
      | entry key => exact mem_leaves_map.2 ⟨(key, w), Fields.mem_of_get? h, hleaf⟩
  | null | bool _ | int _ | uint _ | float _ | str _ => cases h

/-- What stands at a place has no leaves of its own. -/
theorem leaves_subset_of_at? (h : v.at? place = some w) : w.leaves ⊆ v.leaves := by
  induction place generalizing v with
  | nil =>
      cases h
      exact List.Subset.refl _
  | cons step place ih =>
      obtain ⟨child, hchild, hrest⟩ := Option.bind_eq_some_iff.1 h
      exact List.Subset.trans (ih hrest) (leaves_subset_of_child? hchild)

theorem canonical_of_child? (hv : v.Canonical) (h : v.child? step = some w) : w.Canonical := by
  cases v with
  | list items =>
      cases step with
      | item i => exact canonical_list_iff.1 hv w (List.mem_of_getElem? h)
      | entry key => cases h
  | map fields =>
      cases step with
      | item i => cases h
      | entry key => exact (canonical_map_iff.1 hv).2 (key, w) (Fields.mem_of_get? h)
  | null | bool _ | int _ | uint _ | float _ | str _ => cases h

theorem canonical_of_at? (hv : v.Canonical) (h : v.at? place = some w) : w.Canonical := by
  induction place generalizing v with
  | nil =>
      cases h
      exact hv
  | cons step place ih =>
      obtain ⟨child, hchild, hrest⟩ := Option.bind_eq_some_iff.1 h
      exact ih (canonical_of_child? hv hchild) hrest

/-! ## Paths -/

/-- The steps of a segment: to the entry of its key, if it has one, and then to the item of its index,
if it has one. -/
def placeOf (segment : Segment) : List Step :=
  (if segment.key.isEmpty then [] else [.entry (String.ofList segment.key)]) ++
    segment.index.toList.map .item

/-- A segment leads to the end of its steps. -/
theorem select?_eq_at? (segment : Segment) (v : Value) :
    segment.select? v = v.at? (placeOf segment) := by
  have hentry : ∀ key, v.get? key = v.child? (.entry key) := by
    intro key
    cases v <;> rfl
  have hitem : ∀ (inner : Value) (i : Nat),
      Segment.select? ⟨[], some i⟩ inner = inner.child? (.item i) := by
    intro inner i
    cases inner <;> rfl
  obtain ⟨key, index⟩ := segment
  unfold Segment.select? placeOf
  rw [at?_append]
  -- without a key the index is taken in the value itself, otherwise in what the key leads to
  cases index with
  | none => cases hkey : key.isEmpty <;> simp [at?, hentry]
  | some i =>
      cases hkey : key.isEmpty with
      | true =>
          simp only [↓reduceIte, Option.bind_eq_bind, Option.bind_some, at?, Option.toList_some,
            List.map_cons, List.map_nil, Option.bind_fun_some]
          exact hitem v i
      | false =>
          simp only [Bool.false_eq_true, ↓reduceIte, hentry, Option.bind_eq_bind, at?,
            Option.bind_fun_some, Option.toList_some, List.map_cons, List.map_nil]
          exact congrArg (v.child? (.entry (String.ofList key))).bind
            (funext fun inner => hitem inner i)

theorem exists_place_of_follow? {segments : List (List Char)} (h : v.follow? segments = some w) :
    ∃ place, v.at? place = some w := by
  induction segments generalizing v with
  | nil =>
      cases h
      exact ⟨[], rfl⟩
  | cons text rest ih =>
      obtain ⟨segment, -, hsegment⟩ := Option.bind_eq_some_iff.1 h
      obtain ⟨inner, hinner, hrest⟩ := Option.bind_eq_some_iff.1 hsegment
      rw [select?_eq_at?] at hinner
      obtain ⟨further, hfurther⟩ := ih hrest
      exact ⟨placeOf segment ++ further, by rw [at?_append, hinner, Option.bind_some, hfurther]⟩

/-- **What a path leads to stands at a place.** -/
theorem exists_place_of_lookup? {path : String} (h : v.lookup? path = some w) :
    ∃ place, v.at? place = some w := by
  unfold lookup? at h
  split at h
  · cases h
    exact ⟨[], rfl⟩
  · exact exists_place_of_follow? h

end ScenarioRunner.Value

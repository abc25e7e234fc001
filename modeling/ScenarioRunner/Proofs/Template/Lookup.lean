import ScenarioRunner.Proofs.Template.Body
import ScenarioRunner.Proofs.Value.Path

/-!
# Resolving a body and looking up a path

Resolving exchanges strings inside a body and leaves everything around them in its place. So a path that
leads somewhere in a template leads to the resolved part in the resolved body
(`resolution_commutes_with_lookup`): lists keep their lengths, maps keep their keys, and a string that is
one slot of a stored variable is replaced by the variable's value, of whatever kind.
-/

set_option autoImplicit false

namespace ScenarioRunner

namespace Value

/-- **Exchanging leaves commutes with looking up a path.** -/
theorem lookup?_mapLeaves (f : Value → Value) {v w : Value} {path : String}
    (h : v.lookup? path = some w) : (v.mapLeaves f).lookup? path = some (w.mapLeaves f) := by
  rw [lookup?_eq_some_iff] at h ⊢
  rcases h with ⟨hempty, rfl⟩ | ⟨segments, hspells, hplace⟩
  · exact .inl ⟨hempty, rfl⟩
  · exact .inr ⟨segments, hspells, at?_mapLeaves f hplace⟩

/-- What a path leads to in a steady value is steady. -/
theorem Steady.lookup? {v w : Value} {path : String} (hv : v.Steady)
    (h : v.lookup? path = some w) : w.Steady := by
  obtain ⟨place, hplace⟩ := exists_place_of_lookup? h
  rw [steady_iff] at hv ⊢
  intro s hs
  exact hv s (leaves_subset_of_at? hplace hs)

end Value

namespace Scope

open Template Value

variable (scope : Scope) {v w : Value} {path : String}

/-- **Resolving commutes with looking up a path.** What a path leads to in the resolved body is what
results from resolving the part that it leads to in the template, whatever the places in the supply of
identifiers. In particular a list is replaced by one of its length and a map by one with its keys, and a
string that is one slot of a stored variable by the stored value. -/
theorem resolution_commutes_with_lookup (hsteady : v.Steady) (h : v.lookup? path = some w)
    (supply supply' : Nat) :
    (scope.resolveValue supply v).1.lookup? path = some (scope.resolveValue supply' w).1 ∧
      (∀ items, w = .list items → ∃ resolved,
        (scope.resolveValue supply v).1.lookup? path = some (.list resolved) ∧
          resolved.length = items.length) ∧
      (∀ fields, w = .map fields → ∃ resolved,
        (scope.resolveValue supply v).1.lookup? path = some (.map resolved) ∧
          resolved.map Prod.fst = fields.map Prod.fst) ∧
      (∀ name stored, w = .str (slotOf name) → PlainName name →
        Fields.get? scope.store name = some stored →
        (scope.resolveValue supply v).1.lookup? path = some stored) := by
  have hresolved := lookup?_mapLeaves scope.filled h
  rw [resolveValue_eq_mapLeaves hsteady, resolveValue_eq_mapLeaves (hsteady.lookup? h)]
  refine ⟨hresolved, ?_, ?_, ?_⟩
  · rintro items rfl
    rw [mapLeaves_list] at hresolved
    exact ⟨_, hresolved, List.length_map _⟩
  · rintro fields rfl
    rw [mapLeaves_map] at hresolved
    refine ⟨_, hresolved, ?_⟩
    rw [List.map_map]
    rfl
  · rintro name stored rfl hname hbound
    have hleaf : (Value.str (slotOf name)).IsLeaf := trivial
    rw [hleaf.mapLeaves_eq, filled_slotOf hname hbound] at hresolved
    exact hresolved

/-- An order with two lines, one of them a slot and the other one with a slot in it. -/
def orderTemplate : Value :=
  .map [("lines", .list [.str "\x7b\x7bline\x7d\x7d", .str "not \x7b\x7bline\x7d\x7d"])]

/-- A line is stored as a list. -/
def lineScope : Scope := ⟨[("line", .list [.int 1, .int 2])], fun _ => none⟩

/-- The stored list takes the place of the slot. The order still has two lines, under its only key. -/
theorem line_put_in_place :
    orderTemplate.Steady ∧
      orderTemplate.lookup? "lines[0]" = some (.str "\x7b\x7bline\x7d\x7d") ∧
      (lineScope.resolveValue 0 orderTemplate).1.lookup? "lines[0]" =
        some (.list [.int 1, .int 2]) ∧
      (∃ lines, (lineScope.resolveValue 0 orderTemplate).1.lookup? "lines" = some (.list lines) ∧
        lines.length = 2) ∧
      ∃ fields, (lineScope.resolveValue 0 orderTemplate).1.lookup? "" = some (.map fields) ∧
        fields.map Prod.fst = ["lines"] := by
  have hsteady : orderTemplate.Steady := by decide +kernel
  have hslot : orderTemplate.lookup? "lines[0]" = some (.str "\x7b\x7bline\x7d\x7d") := rfl
  have hlines : orderTemplate.lookup? "lines" =
      some (.list [.str "\x7b\x7bline\x7d\x7d", .str "not \x7b\x7bline\x7d\x7d"]) := rfl
  have hname : PlainName "line" := ⟨by decide, by decide, by decide, by decide⟩
  have hwritten : slotOf "line" = "\x7b\x7bline\x7d\x7d" := by decide +kernel
  obtain ⟨-, -, -, hstored⟩ :=
    resolution_commutes_with_lookup lineScope hsteady hslot 0 0
  obtain ⟨-, hlength, -⟩ :=
    resolution_commutes_with_lookup lineScope hsteady hlines 0 0
  obtain ⟨-, -, hkeys, -⟩ :=
    resolution_commutes_with_lookup lineScope hsteady (lookup?_empty orderTemplate) 0 0
  refine ⟨hsteady, hslot, ?_, hlength _ rfl, hkeys _ rfl⟩
  exact hstored "line" _ (congrArg Value.str hwritten.symm) hname rfl

end Scope

end ScenarioRunner

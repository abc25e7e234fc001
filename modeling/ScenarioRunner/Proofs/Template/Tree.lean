import ScenarioRunner.Template.Resolve

/-!
# Resolving lists and maps

The items of a list are resolved one after another, and so are the values of the entries of a map. Where
each of them is resolved to some value and leaves the supply as it is, so is the whole, in bodies
(`resolveItems_of_each`, `resolveFields_of_each`) and in operands (`resolveOperandItems_of_each`,
`resolveOperandFields_of_each`).
-/

set_option autoImplicit false

namespace ScenarioRunner.Scope

variable {scope : Scope} {f : Value → Value} {items : List Value} {fields : Fields Value}

/-! ## Bodies -/

theorem resolveItems_of_each
    (h : ∀ v ∈ items, ∀ supply, scope.resolveValue supply v = (f v, supply)) (supply : Nat) :
    scope.resolveItems supply items = (items.map f, supply) := by
  induction items with
  | nil => rfl
  | cons v rest ih =>
      rw [List.forall_mem_cons] at h
      simp only [resolveItems, h.1, ih h.2, List.map_cons]

theorem resolveFields_of_each
    (h : ∀ entry ∈ fields, ∀ supply, scope.resolveValue supply entry.2 = (f entry.2, supply))
    (supply : Nat) :
    scope.resolveFields supply fields =
      (fields.map fun entry => (entry.1, f entry.2), supply) := by
  induction fields with
  | nil => rfl
  | cons entry rest ih =>
      rw [List.forall_mem_cons] at h
      simp only [resolveFields, h.1, ih h.2, List.map_cons]

/-! ## Operands -/

theorem resolveOperandItems_of_each
    (h : ∀ v ∈ items, ∀ supply, scope.resolveOperand supply v = (f v, supply)) (supply : Nat) :
    scope.resolveOperandItems supply items = (items.map f, supply) := by
  induction items with
  | nil => rfl
  | cons v rest ih =>
      rw [List.forall_mem_cons] at h
      simp only [resolveOperandItems, h.1, ih h.2, List.map_cons]

theorem resolveOperandFields_of_each
    (h : ∀ entry ∈ fields, ∀ supply, scope.resolveOperand supply entry.2 = (f entry.2, supply))
    (supply : Nat) :
    scope.resolveOperandFields supply fields =
      (fields.map fun entry => (entry.1, f entry.2), supply) := by
  induction fields with
  | nil => rfl
  | cons entry rest ih =>
      rw [List.forall_mem_cons] at h
      simp only [resolveOperandFields, h.1, ih h.2, List.map_cons]

end ScenarioRunner.Scope

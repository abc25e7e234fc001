import ScenarioRunner.Proofs.Expectation.Verdict
import ScenarioRunner.Proofs.Value.NumericForm

/-!
# Assertions about integers in several numeric forms

A decoder may give an integer of the signed range as a signed integer, as an unsigned one or as a float. No
assertion tells these forms from each other (`verdict_same_for_all_forms`): all nine operators look at the
text, the value or the kind of what they find, and the three forms have one text, one value, and no kind
that an operator asks for.
-/

set_option autoImplicit false

namespace ScenarioRunner.Assertion

variable {assertion : Assertion} {v w expected : Value} {z : Int}

/-- An assertion orders a value as values are ordered. -/
theorem order_eq_ok_iff {ordering : Ordering} :
    assertion.order (some v) expected = .ok ordering ↔ v.compare? expected = some ordering := by
  unfold order Value.compare?
  rw [Option.bind_some]
  cases v.number? with
  | none => simp
  | some a =>
      cases expected.number? with
      | none => simp
      | some b =>
          dsimp only [Option.bind_some]
          cases a.compare? b <;> simp

/-- A mapped result is that of an order. -/
theorem map_eq_ok_iff {x : Except Error Ordering} {f : Ordering → Bool} {b : Bool} :
    x.map f = .ok b ↔ ∃ ordering, x = .ok ordering ∧ f ordering = b := by
  cases x <;> simp [Except.map]

/-- **An assertion holds of an integer in all its forms or in none.** -/
theorem holds_integral_iff (hz : -2 ^ 63 ≤ z ∧ z < 2 ^ 63) (hv : v.rational? = some (z : ℚ))
    (hw : w.rational? = some (z : ℚ)) :
    assertion.holds (some v) expected = .ok true ↔
      assertion.holds (some w) expected = .ok true := by
  have hsame : v.same expected = w.same expected := by
    rw [Bool.eq_iff_iff, Value.same_integral_iff hv hz, Value.same_integral_iff hw hz]
  have htext : v.textChars = w.textChars := by
    rw [Value.textChars_of_integral hv hz, Value.textChars_of_integral hw hz]
  have horder : ∀ ordering, assertion.order (some v) expected = .ok ordering ↔
      assertion.order (some w) expected = .ok ordering := by
    intro ordering
    rw [order_eq_ok_iff, order_eq_ok_iff, Value.compare_integral hv, Value.compare_integral hw]
  -- beyond equality, text and order, an operator asks for the kinds of the strings and lists only
  unfold holds
  cases assertion.operator with
  | equals => simp only [Option.any_some, hsame]
  | notEquals => simp only [Option.any_some, hsame]
  | contains => simp only [Option.any_some, htext]
  | startsWith => simp only [Option.any_some, htext]
  | notEmpty =>
      obtain ⟨a, rfl, -⟩ := Value.exists_number_of_integral hv
      obtain ⟨b, rfl, -⟩ := Value.exists_number_of_integral hw
      cases a <;> cases b <;> exact Iff.rfl
  | isArray =>
      obtain ⟨a, rfl, -⟩ := Value.exists_number_of_integral hv
      obtain ⟨b, rfl, -⟩ := Value.exists_number_of_integral hw
      cases a <;> cases b <;> exact Iff.rfl
  | greaterThan => simp only [map_eq_ok_iff, horder]
  | greaterThanOrEqual => simp only [map_eq_ok_iff, horder]
  | lessThan => simp only [map_eq_ok_iff, horder]

/-- **No assertion tells the numeric forms of an integer from each other.** On two bodies that have an
integer of the signed range at a path, each in a form of its own, an assertion about this path succeeds on
both or on none. -/
theorem verdict_same_for_all_forms (hz : -2 ^ 63 ≤ z ∧ z < 2 ^ 63)
    (hv : v.rational? = some (z : ℚ)) (hw : w.rational? = some (z : ℚ)) {body body' : Value}
    {path : String} (hbody : body.lookup? path = some v) (hbody' : body'.lookup? path = some w)
    (operator : Operator) {operand : Value} (hsteady : operand.Steady) (scope : Scope)
    (supply supply' : Nat) :
    ((Assertion.mk path operator operand).evaluate body scope supply).1 = .ok () ↔
      ((Assertion.mk path operator operand).evaluate body' scope supply').1 = .ok () := by
  obtain ⟨expected, hexpected⟩ := scope.resolveOperand_of_steady hsteady
  rw [evaluate_eq_ok_iff, evaluate_eq_ok_iff, hexpected, hexpected]
  change (Assertion.mk path operator operand).holds (body.lookup? path) expected = .ok true ↔
    (Assertion.mk path operator operand).holds (body'.lookup? path) expected = .ok true
  rw [hbody, hbody']
  exact holds_integral_iff hz hv hw

/-- An account with its balance. -/
def account (balance : Value) : Value := .map [("balance", balance)]

/-- The store of a limit. -/
def limitScope : Scope := ⟨[("limit", .float ⟨0x8000000000000000⟩)], fun _ => none⟩

/-- The balance starts with the limit and is not below it, also where the decoder found an unsigned
zero. -/
theorem balance_judged_in_both_forms :
    (-2 ^ 63 ≤ (0 : Int) ∧ (0 : Int) < 2 ^ 63) ∧
      (Value.float ⟨0x8000000000000000⟩).rational? = some ((0 : Int) : ℚ) ∧
      (Value.uint 0).rational? = some ((0 : Int) : ℚ) ∧
      (Value.str "\x7b\x7blimit\x7d\x7d").Steady ∧
      ((Assertion.mk "balance" .startsWith (.str "\x7b\x7blimit\x7d\x7d")).evaluate
        (account (.uint 0)) limitScope 0).1 = .ok () ∧
      ((Assertion.mk "balance" .lessThan (.str "\x7b\x7blimit\x7d\x7d")).evaluate
        (account (.uint 0)) limitScope 0).1 ≠ .ok () := by
  have hz : -2 ^ 63 ≤ (0 : Int) ∧ (0 : Int) < 2 ^ 63 := by decide
  have hnegative : (Value.float ⟨0x8000000000000000⟩).rational? = some ((0 : Int) : ℚ) := by
    decide +kernel
  have hunsigned : (Value.uint 0).rational? = some ((0 : Int) : ℚ) := by decide +kernel
  have hsteady : (Value.str "\x7b\x7blimit\x7d\x7d").Steady := by decide +kernel
  have hfound : ∀ balance, (account balance).lookup? "balance" = some balance := fun _ => rfl
  have hverdict := fun operator => verdict_same_for_all_forms hz hnegative hunsigned
    (hfound _) (hfound _) operator hsteady limitScope 0 0
  refine ⟨hz, hnegative, hunsigned, hsteady, ?_, ?_⟩
  · rw [← hverdict]
    decide +kernel
  · rw [Ne, ← hverdict]
    decide +kernel

end ScenarioRunner.Assertion

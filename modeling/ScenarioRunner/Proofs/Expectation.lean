import ScenarioRunner.Expectation
import ScenarioRunner.Proofs.Template.Slot
import ScenarioRunner.Proofs.Value.Text

/-!
# A captured value against its own variable

An assertion whose operand is one slot of a variable compares the value at its path with the text of
the variable's value. A value that was captured from the body equals this text
(`captured_value_equals_itself`), except for `null` and for a float whose text writes another
integer; the first such float is `2 ^ 63` (`captured_two_pow_63_differs`).
-/

set_option autoImplicit false

namespace ScenarioRunner.Assertion

variable {scope : Scope} {body v : Value} {path name : String}

/-- An assertion of equality evaluates to what its resolved operand says. -/
theorem evaluate_equals_iff {operand expected : Value} {supply after : Nat}
    (hfound : body.lookup? path = some v)
    (hoperand : scope.resolveOperand supply operand = (expected, after)) :
    ((Assertion.mk path .equals operand).evaluate body scope supply).1 = .ok () ↔
      v.same expected = true := by
  unfold evaluate
  simp only [hfound, hoperand, holds, Option.any_some]
  cases v.same expected <;> simp

/-- An assertion of difference evaluates to the opposite. -/
theorem evaluate_notEquals_iff {operand expected : Value} {supply after : Nat}
    (hfound : body.lookup? path = some v)
    (hoperand : scope.resolveOperand supply operand = (expected, after)) :
    ((Assertion.mk path .notEquals operand).evaluate body scope supply).1 = .ok () ↔
      ¬v.same expected = true := by
  unfold evaluate
  simp only [hfound, hoperand, holds, Option.any_some]
  cases v.same expected <;> simp

/-- **A captured value equals itself when it is asserted through its variable**, unless it is a float
whose text writes another integer. The operand is resolved to the text of the value. -/
theorem captured_value_equals_itself (hnull : v ≠ .null) (hfound : body.lookup? path = some v)
    (hname : Template.PlainName name) (hbound : Fields.get? scope.store name = some v)
    (supply : Nat) :
    scope.resolveOperand supply (.str (Template.slotOf name)) = (.str v.text, supply) ∧
      (((Assertion.mk path .equals (.str (Template.slotOf name))).evaluate body scope supply).1 =
          .ok () ↔ ¬v.WritesOtherInteger) ∧
      (((Assertion.mk path .notEquals (.str (Template.slotOf name))).evaluate body scope supply).1 =
          .ok () ↔ v.WritesOtherInteger) := by
  have hoperand := Scope.resolveOperand_slotOf hname hbound supply
  rw [← Value.text_eq] at hoperand
  refine ⟨hoperand, ?_, ?_⟩
  · rw [evaluate_equals_iff hfound hoperand, Value.same_text_iff hnull]
  · rw [evaluate_notEquals_iff hfound hoperand, Value.same_text_iff hnull, not_not]

/-- A store that holds what was captured from a field of a body with one field. -/
def capturedScope (v : Value) : Scope := ⟨[("total", v)], fun _ => none⟩

/-- The float `2 ^ 63` is written as `9223372036854776000`, so it differs from its own variable. -/
theorem captured_two_pow_63_differs :
    (Value.map [("sum", .float ⟨0x43E0000000000000⟩)]).lookup? "sum" =
        some (.float ⟨0x43E0000000000000⟩) ∧
      (capturedScope (.float ⟨0x43E0000000000000⟩)).resolveOperand 0 (.str "\x7b\x7btotal\x7d\x7d") =
        (.str "9223372036854776000", 0) ∧
      ((Assertion.mk "sum" .equals (.str "\x7b\x7btotal\x7d\x7d")).evaluate
        (.map [("sum", .float ⟨0x43E0000000000000⟩)])
        (capturedScope (.float ⟨0x43E0000000000000⟩)) 0).1 ≠ .ok () ∧
      ((Assertion.mk "sum" .notEquals (.str "\x7b\x7btotal\x7d\x7d")).evaluate
        (.map [("sum", .float ⟨0x43E0000000000000⟩)])
        (capturedScope (.float ⟨0x43E0000000000000⟩)) 0).1 = .ok () := by
  have hslot : Template.slotOf "total" = "\x7b\x7btotal\x7d\x7d" := by decide +kernel
  have hname : Template.PlainName "total" := ⟨by decide, by decide, by decide, by decide⟩
  have hfound : (Value.map [("sum", .float ⟨0x43E0000000000000⟩)]).lookup? "sum" =
      some (.float ⟨0x43E0000000000000⟩) := rfl
  have hwrites : (Value.float ⟨0x43E0000000000000⟩).WritesOtherInteger :=
    ⟨9223372036854775808, 9223372036854776000, by decide +kernel, by decide, by decide,
      by decide +kernel, by decide⟩
  have htext : (Value.float ⟨0x43E0000000000000⟩).text = "9223372036854776000" := by decide +kernel
  have hbound : Fields.get? (capturedScope (.float ⟨0x43E0000000000000⟩)).store "total" =
      some (.float ⟨0x43E0000000000000⟩) := rfl
  obtain ⟨hoperand, hequals, hdiffers⟩ :=
    captured_value_equals_itself (by simp) hfound hname hbound 0
  rw [hslot] at hoperand hequals hdiffers
  rw [htext] at hoperand
  exact ⟨hfound, hoperand, fun hok => hequals.1 hok hwrites, hdiffers.2 hwrites⟩

end ScenarioRunner.Assertion

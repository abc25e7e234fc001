import ScenarioRunner.Proofs.Template.Body
import ScenarioRunner.Proofs.Value.Equality
import ScenarioRunner.Proofs.Value.Path

/-!
# When an expectation is met

Checking stops at the first failure, so it succeeds exactly when nothing fails: the status fits, every
field is found with its value, and every assertion holds (`check_eq_ok_iff`). A field is found with its
value exactly when the assertion of equality at the path of its key holds, also where one of the two is
`null` or missing. So an expectation may state its fields as assertions instead
(`fields_agree_with_assertions`), in any order.
-/

set_option autoImplicit false

namespace ScenarioRunner

/-! ## Assertions -/

namespace Assertion

variable {assertion : Assertion} {body : Value} {scope : Scope} {supply : Nat}

/-- An assertion succeeds when it holds of what stands at its path. -/
theorem evaluate_eq_ok_iff : (assertion.evaluate body scope supply).1 = .ok () ↔
    assertion.holds (body.lookup? assertion.path)
      (scope.resolveOperand supply assertion.operand).1 = .ok true := by
  unfold evaluate
  dsimp only
  rcases assertion.holds (body.lookup? assertion.path)
    (scope.resolveOperand supply assertion.operand).1 with e | b
  · simp
  · cases b <;> simp

/-- The assertion that says the same as a field: equality at the path of its key. -/
def ofField (field : String × Value) : Assertion := ⟨field.1, .equals, field.2⟩

/-- A key that a path can name is a path of one step. -/
theorem lookup?_of_isKey {key : String} (hkey : Segment.IsKey key.toList) (body : Value) :
    body.lookup? key = body.get? key := by
  have hnamed : ∀ step ∈ [Value.Step.entry key], step.Named := by
    intro step hstep
    obtain rfl := List.mem_singleton.1 hstep
    exact hkey
  have hpath : Value.pathTo [.entry key] = key := by
    simp [Value.pathTo, Value.textsTo]
  have hplace := Value.lookup?_pathTo hnamed body
  rw [hpath] at hplace
  rw [hplace]
  cases body with
  | map fields => exact Option.bind_fun_some _
  | null | bool _ | int _ | uint _ | float _ | str _ | list _ => rfl

/-- The assertion of a field succeeds when its key has a value that equals its operand. -/
theorem evaluate_ofField {field : String × Value} (hkey : Segment.IsKey field.1.toList) :
    ((ofField field).evaluate body scope supply).1 = .ok () ↔
      ∃ actual, body.get? field.1 = some actual ∧
        actual.same (scope.resolveOperand supply field.2).1 = true := by
  have hlookup : body.lookup? (ofField field).path = body.get? field.1 :=
    lookup?_of_isKey hkey body
  rw [evaluate_eq_ok_iff, hlookup]
  change Except.ok ((body.get? field.1).any fun actual =>
    actual.same (scope.resolveOperand supply field.2).1) = Except.ok true ↔ _
  rw [Except.ok.injEq, Option.any_eq_true]

end Assertion

/-! ## Expectations -/

namespace Expectation

variable {body : Value} {scope : Scope} {supply : Nat}

/-- A field is as expected when it is found and equals the expected value; only `null` equals
`null`. -/
theorem checkField_eq_ok_iff {key : String} {actual? : Option Value} {expected : Value} :
    checkField key actual? expected = .ok () ↔
      ∃ actual, actual? = some actual ∧ actual.same expected = true := by
  cases actual? with
  | none => simp [checkField]
  | some actual =>
      simp only [checkField, Option.some.injEq, exists_eq_left']
      cases hnull : expected.isNull with
      | true =>
          obtain rfl := Value.isNull_iff.1 hnull
          rw [Value.same_null]
          cases actual.isNull <;> simp
      | false => cases actual.same expected <;> simp

/-- Fields with steady operands are checked with success when each of them is as expected. -/
theorem checkFields_eq_ok_iff {fields : Fields Value} (h : ∀ field ∈ fields, field.2.Steady) :
    (checkFields body scope supply fields).1 = .ok () ↔
      ∀ field ∈ fields, ∃ actual, body.get? field.1 = some actual ∧
        actual.same (scope.resolveOperand supply field.2).1 = true := by
  induction fields with
  | nil => simp [checkFields]
  | cons field rest ih =>
      obtain ⟨key, operand⟩ := field
      rw [List.forall_mem_cons] at h ⊢
      obtain ⟨expected, hexpected⟩ := scope.resolveOperand_of_steady h.1
      -- an operand is resolved only where there is a value to compare it with
      cases hactual : body.get? key with
      | none =>
          apply iff_of_false
          · simp [checkFields, hactual, checkField]
          · rintro ⟨⟨actual, hfound, -⟩, -⟩
            cases hfound
      | some actual =>
          rw [hexpected, ← checkField_eq_ok_iff]
          simp only [checkFields, hactual, Option.isSome_some, if_true, hexpected]
          cases checkField key (some actual) expected with
          | ok _ => simpa using ih h.2
          | error e => simp

/-- Assertions with steady operands are checked with success when each of them succeeds. -/
theorem checkAssertions_eq_ok_iff {assertions : List Assertion}
    (h : ∀ assertion ∈ assertions, assertion.operand.Steady) :
    (checkAssertions body scope supply assertions).1 = .ok () ↔
      ∀ assertion ∈ assertions, (assertion.evaluate body scope supply).1 = .ok () := by
  induction assertions with
  | nil => simp [checkAssertions]
  | cons assertion rest ih =>
      rw [List.forall_mem_cons] at h ⊢
      obtain ⟨outcome, houtcome⟩ := evaluate_of_steady body scope h.1
      cases outcome with
      | ok _ => simpa [checkAssertions, houtcome] using ih h.2
      | error e => simp [checkAssertions, houtcome]

/-- The operands of the fields of a steady expectation are steady. -/
theorem Steady.operands {expectation : Expectation} (h : expectation.Steady) :
    Value.SteadyFields (expectation.fields.getD []) := by
  cases hfields : expectation.fields with
  | none => trivial
  | some fields => exact h.fields fields hfields

theorem steady_of_mem {fields : Fields Value} (h : Value.SteadyFields fields) :
    ∀ field ∈ fields, field.2.Steady := by
  rw [← Value.Steady] at h
  exact Value.steady_map_iff.1 h

/-- **An expectation with steady operands is met when nothing of it fails.** -/
theorem check_eq_ok_iff {expectation : Expectation} (h : expectation.Steady) {status : Nat} :
    (expectation.check status body scope supply).1 = .ok () ↔
      (expectation.status = 0 ∨ expectation.status = status) ∧
        (∀ field ∈ expectation.fields.getD [], ∃ actual, body.get? field.1 = some actual ∧
          actual.same (scope.resolveOperand supply field.2).1 = true) ∧
        ∀ assertion ∈ expectation.assertions,
          (assertion.evaluate body scope supply).1 = .ok () := by
  -- fields with steady operands leave the supply of identifiers to the assertions as it is
  obtain ⟨outcome, houtcome⟩ := checkFields_of_steady body scope h.operands
  rw [← checkFields_eq_ok_iff (steady_of_mem h.operands), houtcome,
    ← checkAssertions_eq_ok_iff h.assertions]
  unfold check
  cases hstatus : (expectation.status != 0 && expectation.status != status) with
  | true =>
      rw [Bool.and_eq_true, bne_iff_ne, bne_iff_ne] at hstatus
      simp [hstatus.1, hstatus.2]
  | false =>
      have hfits : expectation.status = 0 ∨ expectation.status = status := by
        simpa [Decidable.or_iff_not_imp_left] using hstatus
      rw [houtcome, and_iff_right hfits]
      cases outcome with
      | ok _ => simp
      | error e => simp

/-! ## Fields as assertions -/

/-- The same expectation with assertions instead of fields, before the other assertions. -/
def withAssertions (expectation : Expectation) (leading : List Assertion) : Expectation :=
  { expectation with fields := none, assertions := leading ++ expectation.assertions }

/-- **Fields may be stated as assertions of equality.** An expectation is met exactly when it is with one
assertion instead of each field, in whatever order these assertions stand. The keys have to be such
that a path can name them. -/
theorem fields_agree_with_assertions {expectation : Expectation} (hsteady : expectation.Steady)
    (hkeys : ∀ field ∈ expectation.fields.getD [], Segment.IsKey field.1.toList)
    {leading : List Assertion}
    (hleading : leading.Perm ((expectation.fields.getD []).map Assertion.ofField)) (status : Nat)
    (body : Value) (scope : Scope) (supply : Nat) :
    (expectation.check status body scope supply).1 = .ok () ↔
      ((expectation.withAssertions leading).check status body scope supply).1 = .ok () := by
  have hall : ∀ p : Assertion → Prop, (∀ assertion ∈ leading, p assertion) ↔
      ∀ field ∈ expectation.fields.getD [], p (Assertion.ofField field) := by
    intro p
    simp only [hleading.mem_iff, List.forall_mem_map]
  have hfields : (∀ assertion ∈ leading, (assertion.evaluate body scope supply).1 = .ok ()) ↔
      ∀ field ∈ expectation.fields.getD [], ∃ actual, body.get? field.1 = some actual ∧
        actual.same (scope.resolveOperand supply field.2).1 = true := by
    rw [hall]
    exact forall₂_congr fun field hfield => Assertion.evaluate_ofField (hkeys field hfield)
  have hsteady' : (expectation.withAssertions leading).Steady := by
    refine ⟨fun fields hnone => absurd hnone (by simp [withAssertions]), ?_⟩
    change ∀ assertion ∈ leading ++ expectation.assertions, assertion.operand.Steady
    rw [List.forall_mem_append]
    exact ⟨(hall _).2 (steady_of_mem hsteady.operands), hsteady.assertions⟩
  rw [check_eq_ok_iff hsteady, check_eq_ok_iff hsteady']
  simp only [withAssertions, Option.getD_none, List.forall_mem_append, hfields, List.not_mem_nil,
    false_implies, implies_true, true_and]

/-- An expectation of three fields: a list with a slot in it, `null`, and a number as a text. -/
def noteExpectation : Expectation where
  fields := some [("lines", .list [.str "\x7b\x7bid\x7d\x7d"]), ("note", .null), ("total", .str "7")]

/-- The store of the identifier. -/
def noteScope : Scope := ⟨[("id", .int 12)], fun _ => none⟩

/-- The fields may be stated as assertions from the last one to the first. The body meets them; without
the note it does not. -/
theorem note_fields_as_assertions :
    noteExpectation.Steady ∧
      (∀ field ∈ noteExpectation.fields.getD [], Segment.IsKey field.1.toList) ∧
      ((noteExpectation.withAssertions
          ((noteExpectation.fields.getD []).map Assertion.ofField).reverse).check 200
        (.map [("lines", .list [.float ⟨0x4028000000000000⟩]), ("note", .null), ("total", .uint 7)])
        noteScope 0).1 = .ok () ∧
      ((noteExpectation.withAssertions
          ((noteExpectation.fields.getD []).map Assertion.ofField).reverse).check 200
        (.map [("lines", .list [.float ⟨0x4028000000000000⟩]), ("total", .uint 7)])
        noteScope 0).1 ≠ .ok () := by
  have hsteady : noteExpectation.Steady := by decide +kernel
  have hkeys : ∀ field ∈ noteExpectation.fields.getD [], Segment.IsKey field.1.toList := by
    intro field hfield
    have hplain : field.1.toList ≠ [] ∧ '.' ∉ field.1.toList ∧ '[' ∉ field.1.toList := by
      revert field
      decide
    exact ⟨hplain.1, hplain.2.1, hplain.2.2⟩
  have hreversed := List.reverse_perm ((noteExpectation.fields.getD []).map Assertion.ofField)
  refine ⟨hsteady, hkeys, ?_, ?_⟩
  · rw [← fields_agree_with_assertions hsteady hkeys hreversed]
    decide +kernel
  · rw [Ne, ← fields_agree_with_assertions hsteady hkeys hreversed]
    decide +kernel

end Expectation

end ScenarioRunner

import ScenarioRunner.Proofs.Expectation.NumericForm
import ScenarioRunner.Proofs.Template.Slot
import ScenarioRunner.Proofs.Value.NumericText

/-!
# Assertions of order

The three operators of order are answered by one comparison of what stands at the path with the operand
(`holds_of_isOrder`). Where both are taken for numbers the comparison is one of their values, so the
answers fit together, and they fit those to equality and to the same question asked from the other side
(`OrdersConsistently`). Where one is not, none of the three operators answers: each fails with the complaint
that this one should be a number, and of the two it is the value at the path that is named first
(`orders_consistently_or_fails`).
-/

set_option autoImplicit false

namespace ScenarioRunner

/-! ## Operands that are taken for numbers -/

/-- A string that is taken for a number has no slots, so as an operand it stands for itself, as numbers
do. -/
theorem Scope.resolveOperand_of_number? {v : Value} {a : Number} (h : v.number? = some a)
    (scope : Scope) (supply : Nat) : scope.resolveOperand supply v = (v, supply) := by
  cases v with
  | str s =>
      have hnone : Template.opening ∉ s.toList := by
        intro hmem
        have hliteral := Number.isLiteralChar_of_ofLiteral? h _ (mem_trimBlanks (by decide) hmem)
        exact absurd hliteral (by decide)
      have hplain := scope.resolveChars_of_not_doubled
        (Template.not_doubled_of_not_mem hnone) supply
      simp only [resolveOperand, resolveText, hplain, String.ofList_toList]
  | int n => rw [resolveOperand] <;> simp
  | uint n => rw [resolveOperand] <;> simp
  | float x => rw [resolveOperand] <;> simp
  | null | bool _ | list _ | map _ => cases h

/-! ## Operators of order -/

namespace Operator

/-- The orders at which an operator of order succeeds. -/
def accepts : Operator → Ordering → Bool
  | greaterThan, ordering => ordering == .gt
  | greaterThanOrEqual, ordering => ordering != .lt
  | lessThan, ordering => ordering == .lt
  | _, _ => false

/-- Whether an operator asks for the order of two numbers. -/
def IsOrder (operator : Operator) : Prop :=
  operator = greaterThan ∨ operator = greaterThanOrEqual ∨ operator = lessThan

end Operator

namespace Assertion

variable {assertion : Assertion} {body actual expected : Value} {found : Option Value} {scope : Scope}
  {a b : Number}

/-- The complaint that what stands at the path is no number. -/
def actualFault (assertion : Assertion) (found : Option Value) : Error :=
  .assertion s!"assertion failed: {assertion.path} should be a number, got {describe found}"

/-- The complaint that the operand is no number. -/
def operandFault (assertion : Assertion) (expected : Value) : Error :=
  let place := s!"{assertion.operator.name} on {assertion.path}"
  .assertion
    s!"assertion failed: expected operand of {place} should be a number, got {describe (some expected)}"

/-- An operator of order is answered by the order of the two values. -/
theorem holds_of_isOrder (h : assertion.operator.IsOrder) :
    assertion.holds found expected = (assertion.order found expected).map assertion.operator.accepts := by
  unfold holds
  rcases h with h | h | h <;> rw [h] <;> rfl

theorem order_of_absent (h : found.bind Value.number? = none) :
    assertion.order found expected = .error (assertion.actualFault found) := by
  simp only [order, h, actualFault]

theorem order_of_operand (ha : actual.number? = some a) (h : expected.number? = none) :
    assertion.order (some actual) expected = .error (assertion.operandFault expected) := by
  simp only [order, Option.bind_some, ha, h, Option.bind_none, operandFault]

theorem order_of_numbers (ha : actual.number? = some a) (hb : expected.number? = some b) :
    assertion.order (some actual) expected = .ok (compare a.units b.units) :=
  order_eq_ok_iff.2 (Value.compare?_of_number? ha hb)

/-- What keeps the order from being found is what the assertion reports. -/
theorem evaluate_of_order_error (h : assertion.operator.IsOrder) {supply : Nat} {e : Error}
    (horder : assertion.order (body.lookup? assertion.path)
      (scope.resolveOperand supply assertion.operand).1 = .error e) :
    (assertion.evaluate body scope supply).1 = .error e := by
  simp only [evaluate, holds_of_isOrder h, horder, Except.map]

/-! ## The operators together -/

/-- Whether an operator succeeds on what stands at a path. -/
def Succeeds (path : String) (operator : Operator) (operand body : Value) (scope : Scope)
    (supply : Nat) : Prop :=
  ((Assertion.mk path operator operand).evaluate body scope supply).1 = .ok ()

instance (path : String) (operator : Operator) (operand body : Value) (scope : Scope) (supply : Nat) :
    Decidable (Succeeds path operator operand body scope supply) :=
  inferInstanceAs (Decidable
    (((Assertion.mk path operator operand).evaluate body scope supply).1 = .ok ()))

/-- How the answers to the operators of order fit together, where a value stands at a path and an operand
is resolved to another one. -/
structure OrdersConsistently (path : String) (operand body : Value) (scope : Scope)
    (actual expected : Value) : Prop where
  complementary : ∀ supply supply', Succeeds path .lessThan operand body scope supply ↔
    ¬Succeeds path .greaterThanOrEqual operand body scope supply'
  /-- The same question may be asked from the other side. -/
  mirrored : ∀ body' scope' supply supply', body'.lookup? path = some expected →
    (Succeeds path .greaterThan operand body scope supply ↔
      Succeeds path .lessThan actual body' scope' supply')
  weakened : ∀ supply supply', Succeeds path .greaterThan operand body scope supply →
    Succeeds path .greaterThanOrEqual operand body scope supply'
  /-- Two strings are equal as texts, also where they are ordered as numbers. -/
  antisymmetric : (∀ s t, actual = .str s → expected ≠ .str t) → ∀ supply supply' supply'',
    (Succeeds path .greaterThanOrEqual operand body scope supply ∧
        ¬Succeeds path .greaterThan operand body scope supply') ↔
      Succeeds path .equals operand body scope supply''

section Numbers

variable {path : String} {operator : Operator} {operand : Value} {supply : Nat}

/-- Of two numbers, an operator of order succeeds when it accepts the order of their values. -/
theorem succeeds_iff_accepts (h : operator.IsOrder) (hfound : body.lookup? path = some actual)
    (hexpected : (scope.resolveOperand supply operand).1 = expected)
    (ha : actual.number? = some a) (hb : expected.number? = some b) :
    Succeeds path operator operand body scope supply ↔
      operator.accepts (compare a.units b.units) = true := by
  rw [Succeeds, evaluate_eq_ok_iff]
  dsimp only
  rw [hfound, hexpected, holds_of_isOrder h, order_of_numbers ha hb, Except.map, Except.ok.injEq]

theorem succeeds_equals_iff (hfound : body.lookup? path = some actual)
    (hexpected : (scope.resolveOperand supply operand).1 = expected) :
    Succeeds path .equals operand body scope supply ↔ actual.same expected = true := by
  rw [Succeeds, evaluate_eq_ok_iff]
  dsimp only
  rw [hfound, hexpected, holds]
  simp

/-- Two numbers are ordered by their values, from whichever side it is asked. -/
theorem ordersConsistently_of_numbers
    (hexpected : ∀ supply, (scope.resolveOperand supply operand).1 = expected)
    (hfound : body.lookup? path = some actual) (ha : actual.number? = some a)
    (hb : expected.number? = some b) :
    OrdersConsistently path operand body scope actual expected := by
  have hgreater : ∀ supply, Succeeds path .greaterThan operand body scope supply ↔
      b.units < a.units := by
    intro supply
    rw [succeeds_iff_accepts (.inl rfl) hfound (hexpected supply) ha hb, Operator.accepts,
      beq_iff_eq, compare_gt_iff_gt]
  have hgreaterOrEqual : ∀ supply, Succeeds path .greaterThanOrEqual operand body scope supply ↔
      b.units ≤ a.units := by
    intro supply
    rw [succeeds_iff_accepts (.inr (.inl rfl)) hfound (hexpected supply) ha hb, Operator.accepts,
      bne_iff_ne, Ne, compare_lt_iff_lt, not_lt]
  refine ⟨?_, ?_, ?_, ?_⟩
  · intro supply supply'
    rw [succeeds_iff_accepts (.inr (.inr rfl)) hfound (hexpected supply) ha hb, Operator.accepts,
      beq_iff_eq, compare_lt_iff_lt, hgreaterOrEqual, not_le]
  · intro body' scope' supply supply' hfound'
    have hexpected' := scope'.resolveOperand_of_number? ha supply'
    rw [hgreater, succeeds_iff_accepts (.inr (.inr rfl)) hfound' (congrArg Prod.fst hexpected') hb ha,
      Operator.accepts, beq_iff_eq, compare_lt_iff_lt]
  · intro supply supply' hsucceeds
    rw [hgreaterOrEqual]
    exact ((hgreater supply).1 hsucceeds).le
  · intro hstrings supply supply' supply''
    rw [hgreaterOrEqual, hgreater, not_lt, succeeds_equals_iff hfound (hexpected supply''),
      Value.same_iff_of_number? ha hb hstrings, and_comm]
    exact le_antisymm_iff.symm

end Numbers

/-- **The operators of order answer consistently about two numbers, and fail about anything else.** What
stands at the path has to be taken for a number, and then the operand; the one that is not is named. -/
theorem orders_consistently_or_fails {operand : Value} (hsteady : operand.Steady) (path : String)
    (body : Value) (scope : Scope) :
    ∃ expected, (∀ supply, (scope.resolveOperand supply operand).1 = expected) ∧
      (∀ actual, body.lookup? path = some actual → actual.number? ≠ none → expected.number? ≠ none →
        OrdersConsistently path operand body scope actual expected) ∧
      ∀ operator, operator.IsOrder → ∀ supply,
        ((body.lookup? path).bind Value.number? = none →
          ((Assertion.mk path operator operand).evaluate body scope supply).1 =
            .error (actualFault ⟨path, operator, operand⟩ (body.lookup? path))) ∧
        ((body.lookup? path).bind Value.number? ≠ none → expected.number? = none →
          ((Assertion.mk path operator operand).evaluate body scope supply).1 =
            .error (operandFault ⟨path, operator, operand⟩ expected)) := by
  obtain ⟨expected, hresolved⟩ := scope.resolveOperand_of_steady hsteady
  have hexpected : ∀ supply, (scope.resolveOperand supply operand).1 = expected :=
    fun supply => congrArg Prod.fst (hresolved supply)
  refine ⟨expected, hexpected, ?_, ?_⟩
  · intro actual hfound ha hb
    obtain ⟨a, ha⟩ := Option.ne_none_iff_exists'.1 ha
    obtain ⟨b, hb⟩ := Option.ne_none_iff_exists'.1 hb
    exact ordersConsistently_of_numbers hexpected hfound ha hb
  · intro operator horder supply
    constructor
    · intro hnone
      exact evaluate_of_order_error horder (order_of_absent hnone)
    · intro hnumber hnone
      obtain ⟨a, hnumber⟩ := Option.ne_none_iff_exists'.1 hnumber
      obtain ⟨actual, hfound, ha⟩ := Option.bind_eq_some_iff.1 hnumber
      apply evaluate_of_order_error horder
      dsimp only
      rw [hexpected, hfound, order_of_operand ha hnone]

/-- The limit as an operand. -/
def limitOperand : Value := .str "\x7b\x7blimit\x7d\x7d"

/-- A balance of three is above the limit of zero, and so the limit is below it; one of zero is not, and
equals it. A missing balance is named before the operand, which refers to nothing. -/
theorem balance_ordered :
    limitOperand.Steady ∧ Value.Steady (.str "\x7b\x7bcap\x7d\x7d") ∧
      Succeeds "balance" .greaterThanOrEqual limitOperand (account (.int 3)) limitScope 0 ∧
      ¬Succeeds "balance" .lessThan limitOperand (account (.int 3)) limitScope 0 ∧
      Succeeds "balance" .lessThan (.int 3) (account (.str "0")) limitScope 0 ∧
      Succeeds "balance" .equals limitOperand (account (.uint 0)) limitScope 0 ∧
      ((Assertion.mk "balance" .lessThan (.str "\x7b\x7bcap\x7d\x7d")).evaluate (.map []) limitScope
        0).1 = .error (.assertion
          "assertion failed: balance should be a number, got nothing (path not found)") := by
  have hsteady : limitOperand.Steady := by decide +kernel
  have hunbound : Value.Steady (.str "\x7b\x7bcap\x7d\x7d") := by decide +kernel
  have hfound : ∀ balance, (account balance).lookup? "balance" = some balance := fun _ => rfl
  have hlimit : limitScope.resolveOperand 0 limitOperand = (.str "0", 0) := by
    have htext : limitScope.resolveText 0 "\x7b\x7blimit\x7d\x7d" = ("0", 0) := by decide +kernel
    rw [limitOperand, Scope.resolveOperand, htext]
  obtain ⟨expected, hexpected, hthree, -⟩ :=
    orders_consistently_or_fails hsteady "balance" (account (.int 3)) limitScope
  obtain ⟨expected', hexpected', hzero, -⟩ :=
    orders_consistently_or_fails hsteady "balance" (account (.uint 0)) limitScope
  obtain ⟨_, -, -, hfails⟩ :=
    orders_consistently_or_fails hunbound "balance" (.map []) limitScope
  obtain rfl : .str "0" = expected := by rw [← hexpected 0, hlimit]
  obtain rfl : .str "0" = expected' := by rw [← hexpected' 0, hlimit]
  have habove := hthree _ (hfound _) (by simp [Value.number?]) (by decide +kernel)
  have hequal := hzero _ (hfound _) (by simp [Value.number?]) (by decide +kernel)
  have hgreater : Succeeds "balance" .greaterThan limitOperand (account (.int 3)) limitScope 0 := by
    decide +kernel
  have hatLeast := habove.weakened 0 0 hgreater
  have hbetween :
      Succeeds "balance" .greaterThanOrEqual limitOperand (account (.uint 0)) limitScope 0 ∧
        ¬Succeeds "balance" .greaterThan limitOperand (account (.uint 0)) limitScope 0 := by
    decide +kernel
  refine ⟨hsteady, hunbound, hatLeast, ?_, ?_, ?_, ?_⟩
  · rw [habove.complementary 0 0, not_not]
    exact hatLeast
  · exact (habove.mirrored _ limitScope 0 0 (hfound _)).1 hgreater
  · exact (hequal.antisymmetric (by simp) 0 0 0).1 hbetween
  · rw [(hfails .lessThan (.inr (.inr rfl)) 0).1 rfl]
    rfl

end Assertion

end ScenarioRunner

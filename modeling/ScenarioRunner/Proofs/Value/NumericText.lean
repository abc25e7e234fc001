import ScenarioRunner.Proofs.Decimal.Exact
import ScenarioRunner.Proofs.Value.FloatText
import ScenarioRunner.Proofs.Value.IntegerLiteral

/-!
# Texts read back as numbers

What is read as a number is a decimal literal: an integer literal of the 64-bit range as the integer that
it writes, and any other literal as the float that it is rounded to (`exists_spells_of_ofLiteral?`). A float
that is an integer of the signed range is given back as this integer, so a literal may come back as an
integer that it does not write. This happens exactly if its value was changed by rounding
(`integer_read_back_iff`): the integer below the signed range comes back as the least signed one, and a
literal with a fraction of many digits as the integer next to it (`rounded_literals_read_back`).
-/

set_option autoImplicit false

namespace ScenarioRunner

namespace Literal

variable {text : List Char} {negative : Bool} {n : Nat} {l : Literal}

/-! ## Integer literals -/

/-- What is read as an integer literal writes this integer. -/
theorem writesInteger_of_integer? (h : integer? text = some (negative, n)) :
    WritesInteger text (Number.ofSign negative n) := by
  obtain ⟨⟨sign, digits⟩, hsplit⟩ : ∃ parts, splitSign text = parts := ⟨_, rfl⟩
  simp only [integer?, hsplit, Option.ite_none_right_eq_some, Option.some.injEq,
    Prod.mk.injEq] at h
  obtain ⟨hdigits, rfl, rfl⟩ := h
  have hdigits := isDigits_iff.1 hdigits
  rw [natOfDigits_eq]
  obtain ⟨sign, hsign, rfl⟩ := sign_of_splitSign hsplit
  cases hsign with
  | absent => exact .unsigned hdigits
  | plus => exact .plus hdigits
  | minus => exact .minus hdigits

/-- An integer literal of the 64-bit range. -/
def IsInteger64 (text : List Char) : Prop :=
  ∃ m : Int, WritesInteger text m ∧ -2 ^ 63 ≤ m ∧ m < 2 ^ 64

theorem isInteger64_iff :
    IsInteger64 text ↔ ∃ negative n, integer? text = some (negative, n) ∧ Number.Fits negative n := by
  constructor
  · rintro ⟨m, hwrites, hrange⟩
    obtain ⟨negative, n, hinteger, -, rfl⟩ := hwrites.read
    exact ⟨negative, n, hinteger, Number.fits_iff.2 hrange⟩
  · rintro ⟨negative, n, hinteger, hfits⟩
    exact ⟨_, writesInteger_of_integer? hinteger, Number.fits_iff.1 hfits⟩

/-- No other text is read as an integer that fits. -/
theorem not_fits_of_not_isInteger64 (h : ¬IsInteger64 text) :
    ∀ negative n, integer? text = some (negative, n) → ¬Number.Fits negative n :=
  fun negative n hinteger hfits => h (isInteger64_iff.2 ⟨negative, n, hinteger, hfits⟩)

/-- The value of a literal without a point and an exponent is an integer. -/
theorem value_of_integer (negative : Bool) (n : Nat) :
    (⟨negative, n, 0⟩ : Literal).value = Number.ofSign negative n := by
  cases negative <;> simp [value, Number.ofSign]

/-- Only one literal is spelled by a text. -/
theorem Spells.unique {l' : Literal} (h : Spells text l) (h' : Spells text l') : l = l' := by
  rw [← parse?_eq_some_iff] at h h'
  exact Option.some.inj (h.symm.trans h')

/-- Rounding changes what a text writes: the text is no integer literal of the 64-bit range, and no float
has its value. -/
def ChangedByRounding (text : List Char) (l : Literal) : Prop :=
  ¬IsInteger64 text ∧ ∀ x : Binary64, (Value.float x).rational? ≠ some l.value

end Literal

/-! ## Reading -/

namespace Number

open Binary64 (unitsPerOne)

variable {text : List Char} {a : Number}

/-- **What is read as a number is a decimal literal**: an integer literal of the 64-bit range, read as the
integer that it writes, or another one, read as the finite float that it is rounded to. -/
theorem exists_spells_of_ofLiteral? (h : ofLiteral? text = some a) :
    ∃ l, Literal.Spells text l ∧
      (Literal.IsInteger64 text ∧ (∃ m : Int, l.value = m ∧ a.units = m * unitsPerOne) ∨
        ¬Literal.IsInteger64 text ∧ l.toBinary64.isFinite = true ∧ a = float l.toBinary64) := by
  by_cases hfits : Literal.IsInteger64 text
  · obtain ⟨m, hwrites, hrange⟩ := hfits
    obtain ⟨negative, n, hinteger, hparse, rfl⟩ := hwrites.read
    obtain ⟨b, hread, -, hunits⟩ := ofLiteral?_of_fits hinteger (fits_iff.2 hrange)
    rw [h] at hread
    cases hread
    exact ⟨_, Literal.parse?_eq_some_iff.1 hparse,
      .inl ⟨⟨_, hwrites, hrange⟩, _, Literal.value_of_integer negative n, hunits⟩⟩
  · rw [ofLiteral?_eq_rounded (Literal.not_fits_of_not_isInteger64 hfits)] at h
    obtain ⟨l, hparse, hread⟩ := Option.bind_eq_some_iff.1 h
    obtain ⟨hfinite, ha⟩ := Option.ite_none_right_eq_some.1 hread
    cases ha
    exact ⟨l, Literal.parse?_eq_some_iff.1 hparse, .inr ⟨hfits, hfinite, rfl⟩⟩

/-- What is a literal that is rounded to a finite float is read as a number. -/
theorem exists_ofLiteral? {l : Literal} (h : Literal.Spells text l)
    (hfinite : l.toBinary64.isFinite = true) : ∃ a, ofLiteral? text = some a := by
  by_cases hfits : Literal.IsInteger64 text
  · obtain ⟨negative, n, hinteger, hn⟩ := Literal.isInteger64_iff.1 hfits
    obtain ⟨a, hread, -⟩ := ofLiteral?_of_fits hinteger hn
    exact ⟨a, hread⟩
  · have hparse := Literal.parse?_eq_some_iff.2 h
    have hnot := Literal.not_fits_of_not_isInteger64 hfits
    exact ⟨_, ofLiteral?_of_not_fits hparse hfinite hnot⟩

theorem isLiteralChar_of_ofLiteral? (h : ofLiteral? text = some a) :
    ∀ c ∈ text, isLiteralChar c = true := by
  obtain ⟨l, hspells, -⟩ := exists_spells_of_ofLiteral? h
  exact hspells.isLiteralChar

end Number

/-! ## Reading back -/

namespace Value

open Binary64 (unitsPerOne unitsPerOne_pos)

variable {text : List Char} {v : Value} {z : Int}

/-- What is read back is the number that was read, if in another form. -/
theorem exists_ofNumericText? {a : Number} (h : Number.ofLiteral? text = some a) :
    ∃ b, ofNumericText? text = some (ofNumber b) ∧ b.Finite ∧ b.units = a.units := by
  have hfinite := Number.finite_of_ofLiteral? h
  rw [ofNumericText?, h, Option.map_some]
  cases a with
  | int n => exact ⟨.int n, rfl, hfinite, rfl⟩
  | uint n => exact ⟨.uint n, rfl, hfinite, rfl⟩
  | float x =>
      dsimp only
      cases hform : x.toInt64? with
      | none => exact ⟨.float x, rfl, hfinite, rfl⟩
      | some n =>
          refine ⟨.int n, rfl, trivial, ?_⟩
          exact ((Binary64.whole?_eq_some_iff hfinite).1 (Binary64.whole?_of_toInt64? hform)).symm

/-- What is read back as an integer was read as a number of its value. -/
theorem units_of_ofNumericText? (h : ofNumericText? text = some v) (hv : v.integer? = some z) :
    ∃ a, Number.ofLiteral? text = some a ∧ a.units = z * unitsPerOne := by
  obtain ⟨a, hread, -⟩ := Option.map_eq_some_iff.1 h
  obtain ⟨b, hback, -, hunits⟩ := exists_ofNumericText? hread
  obtain rfl := Option.some.inj (hback.symm.trans h)
  have hz : b.units = z * unitsPerOne := by
    cases b with
    | int n =>
        cases hv
        rfl
    | uint n =>
        cases hv
        rfl
    | float x => cases hv
  exact ⟨a, hread, hunits.symm.trans hz⟩

/-- The value of a finite float is that of its units. -/
theorem rational?_float_eq_some_iff {x : Binary64} {q : ℚ} :
    (float x).rational? = some q ↔ x.isFinite = true ∧ q = (x.units : ℚ) / unitsPerOne := by
  rw [rational?, Option.ite_none_right_eq_some, Option.some.injEq]
  exact and_congr_right fun _ => eq_comm

/-- **A text that is read back as an integer writes this integer, unless its value was changed by
rounding.** -/
theorem integer_read_back_iff (h : ofNumericText? text = some v) (hv : v.integer? = some z) :
    ∃ l, (∀ l', Literal.Spells text l' ↔ l' = l) ∧
      (l.value = z ↔ ¬Literal.ChangedByRounding text l) := by
  have hone : (unitsPerOne : ℚ) ≠ 0 := by exact_mod_cast unitsPerOne_pos.ne'
  obtain ⟨a, hread, hunits⟩ := units_of_ofNumericText? h hv
  obtain ⟨l, hspells, hform⟩ := Number.exists_spells_of_ofLiteral? hread
  refine ⟨l, fun l' => ⟨fun h' => h'.unique hspells, fun h' => h' ▸ hspells⟩, ?_⟩
  rcases hform with ⟨hinteger, m, hvalue, hexact⟩ | ⟨hother, hfinite, rfl⟩
  · have hm : m = z := by
      rw [hunits] at hexact
      exact (Int.eq_of_mul_eq_mul_right (by exact_mod_cast unitsPerOne_pos.ne') hexact).symm
    rw [hvalue, hm]
    exact iff_of_true rfl fun hchanged => hchanged.1 hinteger
  · change l.toBinary64.units = z * (unitsPerOne : Int) at hunits
    have hz : (z : ℚ) = (l.toBinary64.units : ℚ) / unitsPerOne := by
      rw [hunits, Int.cast_mul, Int.cast_natCast, mul_div_cancel_right₀ _ hone]
    constructor
    · rintro hvalue ⟨-, hnone⟩
      exact hnone l.toBinary64 (rational?_float_eq_some_iff.2 ⟨hfinite, hvalue.trans hz⟩)
    · intro hkept
      obtain ⟨x, hx⟩ : ∃ x : Binary64, (float x).rational? = some l.value := by
        by_contra hnone
        exact hkept ⟨hother, not_exists.1 hnone⟩
      obtain ⟨hxfinite, hvalue⟩ := rational?_float_eq_some_iff.1 hx
      -- what is a float already is not moved by rounding
      rw [hvalue, hz, (Binary64.units_toBinary64_of_value hxfinite hvalue).2]

/-- A literal of many digits comes back as the integer that it is rounded to, and one that is an integer
with a fraction of zeros as itself. -/
theorem rounded_literals_read_back :
    ofNumericText? "-9223372036854775809".toList = some (int (-9223372036854775808)) ∧
      Literal.Spells "-9223372036854775809".toList ⟨true, 9223372036854775809, 0⟩ ∧
      Literal.ChangedByRounding "-9223372036854775809".toList ⟨true, 9223372036854775809, 0⟩ ∧
      ofNumericText? "12.50e2".toList = some (int 1250) ∧
      Literal.Spells "12.50e2".toList ⟨false, 1250, 0⟩ ∧
      ¬Literal.ChangedByRounding "12.50e2".toList ⟨false, 1250, 0⟩ := by
  have hbelow : ofNumericText? "-9223372036854775809".toList =
      some (int (-9223372036854775808)) := by
    have hread : Number.ofLiteral? "-9223372036854775809".toList =
        some (.float ⟨0xC3E0000000000000⟩) := by decide +kernel
    have hform : (⟨0xC3E0000000000000⟩ : Binary64).toInt64? = some (-9223372036854775808) := by
      decide +kernel
    rw [ofNumericText?, hread, Option.map_some]
    dsimp only
    rw [hform]
  have hexact : ofNumericText? "12.50e2".toList = some (int 1250) := by
    have hread : Number.ofLiteral? "12.50e2".toList = some (.float ⟨0x4093880000000000⟩) := by
      decide +kernel
    have hform : (⟨0x4093880000000000⟩ : Binary64).toInt64? = some 1250 := by decide +kernel
    rw [ofNumericText?, hread, Option.map_some]
    dsimp only
    rw [hform]
  have hspells : Literal.Spells "-9223372036854775809".toList ⟨true, 9223372036854775809, 0⟩ :=
    Literal.parse?_eq_some_iff.1 (by decide)
  have hspells' : Literal.Spells "12.50e2".toList ⟨false, 1250, 0⟩ :=
    Literal.parse?_eq_some_iff.1 (by decide)
  obtain ⟨l, hl, hchanged⟩ := integer_read_back_iff hbelow rfl
  obtain ⟨l', hl', hkept⟩ := integer_read_back_iff hexact rfl
  obtain rfl := (hl _).1 hspells
  obtain rfl := (hl' _).1 hspells'
  refine ⟨hbelow, hspells, ?_, hexact, hspells', ?_⟩
  · by_contra hnot
    have hvalue := hchanged.2 hnot
    rw [Literal.value_of_integer, Int.cast_inj] at hvalue
    exact absurd hvalue (by decide)
  · apply hkept.1
    rw [Literal.value_of_integer, Int.cast_inj]
    decide

end Value

end ScenarioRunner

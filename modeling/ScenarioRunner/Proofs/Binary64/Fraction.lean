import ScenarioRunner.Proofs.Binary64.Integer

/-!
# Cutting off the fraction

A finite number cut towards zero is a number again (`units_trunc`), and its difference from the number is
zero exactly if there is no fraction, although the difference is rounded (`sameNumber_fract_zero_iff`).
Conversion to an integer of a range cuts a number and saturates at the ends of the range, so it keeps the
integers of the range (`toIntWithin_of_units`) and gives no others (`toIntWithin_mem`).
-/

set_option autoImplicit false

namespace ScenarioRunner.Binary64

/-! ## Operations -/

/-- The number without its sign. -/
def abs (x : Binary64) : Binary64 := if x.negative then x.neg else x

/-- Whether a number is less than another one. -/
def less (x y : Binary64) : Bool := x.compare? y == some .lt

/-- Whether a number is less than another one or equal to it. -/
def atMost (x y : Binary64) : Bool := x.less y || x.sameNumber y

/-- The number cut towards zero to an integer; what is not finite is kept. -/
def trunc (x : Binary64) : Binary64 :=
  if x.isFinite then ofMagnitude x.negative (x.magnitude / unitsPerOne * unitsPerOne) else x

/-- The rounded difference of a number from what is left of it without its fraction. The difference of
an infinity from itself is not a number. -/
def fract (x : Binary64) : Binary64 := if x.isFinite then x.add x.trunc.neg else nan

/-- The conversion to an integer of a range. The fraction is cut off, a number beyond an end of the range
becomes this end, and what is not a number becomes zero. -/
def toIntWithin (low high : Int) (x : Binary64) : Int :=
  if x.isNaN then 0 else max low (min (x.units.tdiv unitsPerOne) high)

/-! ## The sign bit -/

section Sign

variable (x : Binary64)

/-- The bits below the sign are kept, and the sign is the other one. -/
theorem toNat_bits_neg :
    x.neg.bits.toNat % signWeight = x.bits.toNat % signWeight ∧
      (signWeight ≤ x.neg.bits.toNat ↔ ¬signWeight ≤ x.bits.toNat) := by
  have hlt := x.bits.toNat_lt
  -- the sign is the quotient by its weight, and the other bits are the remainder
  have hxor : x.neg.bits.toNat = x.bits.toNat ^^^ 2 ^ 63 := UInt64.toNat_xor _ _
  have hbelow : x.neg.bits.toNat % 2 ^ 63 = x.bits.toNat % 2 ^ 63 := by
    rw [hxor, Nat.xor_mod_two_pow, Nat.mod_self, Nat.xor_zero]
  have hsign : x.neg.bits.toNat / 2 ^ 63 = x.bits.toNat / 2 ^ 63 ^^^ 1 := by
    rw [hxor, Nat.xor_div_two_pow, Nat.div_self (Nat.two_pow_pos 63)]
  refine ⟨hbelow, ?_⟩
  unfold signWeight
  have hbit : x.bits.toNat / 2 ^ 63 = 0 ∨ x.bits.toNat / 2 ^ 63 = 1 := by omega
  rcases hbit with h | h
  · rw [h] at hsign
    have hset : x.neg.bits.toNat / 2 ^ 63 = 1 := hsign
    omega
  · rw [h] at hsign
    have hclear : x.neg.bits.toNat / 2 ^ 63 = 0 := hsign
    omega

theorem negative_neg : x.neg.negative = !x.negative := by
  unfold Binary64.negative
  rw [← decide_not]
  exact decide_eq_decide.2 x.toNat_bits_neg.2

theorem exponentField_neg : x.neg.exponentField = x.exponentField := by
  have h := x.toNat_bits_neg.1
  unfold exponentField exponentWeight
  unfold signWeight at h
  omega

theorem fractionField_neg : x.neg.fractionField = x.fractionField := by
  have h := x.toNat_bits_neg.1
  unfold fractionField exponentWeight
  unfold signWeight at h
  omega

theorem isNaN_neg : x.neg.isNaN = x.isNaN := by
  rw [isNaN, exponentField_neg, fractionField_neg, isNaN]

theorem magnitude_neg : x.neg.magnitude = x.magnitude := by
  rw [magnitude, significand, scale, exponentField_neg, fractionField_neg, magnitude, significand, scale]

theorem units_neg : x.neg.units = -x.units := by
  rw [units_eq, units_eq, negative_neg, magnitude_neg]
  cases x.negative with
  | false => rfl
  | true => exact (Int.neg_neg _).symm

theorem isNaN_abs : x.abs.isNaN = x.isNaN := by
  unfold abs
  split
  · exact x.isNaN_neg
  · rfl

theorem units_abs : x.abs.units = x.magnitude := by
  unfold abs
  split
  · next hnegative => rw [units_neg, units_eq, if_pos hnegative, Int.neg_neg]
  · next hnegative => rw [units_eq, if_neg hnegative]

end Sign

/-! ## Comparisons -/

section Order

variable {x y : Binary64}

/-- What is compared is no NaN. -/
theorem compare?_eq_some_iff {order : Ordering} :
    x.compare? y = some order ↔
      x.isNaN = false ∧ y.isNaN = false ∧ compare x.units y.units = order := by
  unfold compare?
  cases x.isNaN <;> cases y.isNaN <;> simp

theorem sameNumber_iff :
    x.sameNumber y = true ↔ x.isNaN = false ∧ y.isNaN = false ∧ x.units = y.units := by
  rw [sameNumber, beq_iff_eq, compare?_eq_some_iff, compare_eq_iff_eq]

theorem less_iff :
    x.less y = true ↔ x.isNaN = false ∧ y.isNaN = false ∧ x.units < y.units := by
  rw [less, beq_iff_eq, compare?_eq_some_iff, compare_lt_iff_lt]

theorem atMost_iff :
    x.atMost y = true ↔ x.isNaN = false ∧ y.isNaN = false ∧ x.units ≤ y.units := by
  rw [atMost, Bool.or_eq_true, less_iff, sameNumber_iff, ← and_or_left, ← and_or_left, ← le_iff_lt_or_eq]

end Order

/-! ## The fraction -/

section Fraction

variable {x : Binary64}

/-- What is left of a magnitude without its fraction is representable: a magnitude with a fraction has
less than 53 bits before it. -/
theorem representable_trunc (hx : x.isFinite = true) :
    Representable (x.magnitude / unitsPerOne * unitsPerOne) := by
  rcases dvd_or_lt hx with hdvd | hlt
  · -- nothing is cut off
    rw [Nat.div_mul_cancel hdvd]
    exact representable_magnitude hx
  · have hfew : x.magnitude / unitsPerOne < 2 * exponentWeight := by
      have h := (Nat.div_lt_iff_lt_mul unitsPerOne_pos).2 hlt
      omega
    have h := representable_integer hfew (Nat.zero_le 971)
    rwa [Nat.pow_zero, Nat.mul_one] at h

/-- **Cutting is exact.** -/
theorem units_trunc (hx : x.isFinite = true) :
    x.trunc.units = x.units.tdiv unitsPerOne * unitsPerOne := by
  obtain ⟨m, s, hm, hunits⟩ := representable_trunc hx
  rw [trunc, if_pos hx, units_eq, ← hunits, negative_ofMagnitude hm, magnitude_ofMagnitude hm, hunits,
    units_eq]
  cases x.negative with
  | false => rfl
  | true =>
      rw [if_pos rfl, if_pos rfl, Int.neg_tdiv, Int.neg_mul]
      rfl

/-- A difference of at least one unit is not rounded to zero. -/
theorem magnitude_nearestUnits_pos (negative : Bool) {num : Nat} (hnum : 0 < num) :
    0 < (nearestUnits negative num 1).magnitude := by
  rw [nearestUnits_eq]
  split
  · next hlt =>
      obtain ⟨m, s, hm, hunits⟩ := representable_roundedUnits Nat.one_pos hlt
      rw [← hunits, magnitude_ofMagnitude hm, hunits]
      have hunit : Representable 1 := ⟨1, 0, ⟨by decide, .inr rfl, by decide⟩, rfl⟩
      exact le_roundedUnits hunit (by omega) Nat.one_pos
  · cases negative <;> decide +kernel

/-- The rounded sum of a number and the opposite of another one is zero exactly if the two are equal. -/
theorem sameNumber_add_neg_zero_iff {x y : Binary64} :
    (x.add y.neg).sameNumber (zero false) = true ↔ x.units = y.units := by
  have hzero : (zero false).units = 0 := by decide
  simp only [add, units_neg]
  split
  · next hsum =>
      refine iff_of_true ?_ (by omega)
      cases x.negative && y.neg.negative <;> decide
  · next hsum =>
      -- units are whole, so what is not zero is at least one of them
      refine iff_of_false ?_ (by omega)
      intro hsame
      have hunits := (sameNumber_iff.1 hsame).2.2
      have hpos := magnitude_nearestUnits_pos (decide (x.units + -y.units < 0))
        (Int.natAbs_pos.2 hsum)
      rw [hzero, ← Int.natAbs_eq_zero, natAbs_units] at hunits
      omega

/-- **The fraction of a number compares as equal to zero exactly if the number is a finite one without a
fraction.** -/
theorem sameNumber_fract_zero_iff :
    x.fract.sameNumber (zero false) = true ↔
      x.isFinite = true ∧ ∃ n : Int, x.units = n * unitsPerOne := by
  unfold fract
  by_cases hx : x.isFinite = true
  · rw [if_pos hx, sameNumber_add_neg_zero_iff, units_trunc hx, and_iff_right hx]
    constructor
    · intro hcut
      exact ⟨_, hcut⟩
    · rintro ⟨n, hn⟩
      have hone : (unitsPerOne : Int) ≠ 0 := by exact_mod_cast unitsPerOne_pos.ne'
      rw [hn, Int.mul_tdiv_cancel n hone]
  · -- what is not a number equals nothing
    rw [if_neg hx]
    exact iff_of_false (by decide) fun h => hx h.1

end Fraction

/-! ## Conversion -/

section Conversion

variable {x : Binary64} {low high n : Int}

/-- Every number is converted to an integer of the range, if zero is one. -/
theorem toIntWithin_mem (x : Binary64) (hlow : low ≤ 0) (hhigh : 0 ≤ high) :
    low ≤ x.toIntWithin low high ∧ x.toIntWithin low high ≤ high := by
  unfold toIntWithin
  split
  · exact ⟨hlow, hhigh⟩
  · exact ⟨le_max_left _ _, max_le (hlow.trans hhigh) (min_le_right _ _)⟩

/-- An integer of the range is converted to itself. -/
theorem toIntWithin_of_units (hx : x.isFinite = true) (hn : x.units = n * unitsPerOne)
    (hlow : low ≤ n) (hhigh : n ≤ high) : x.toIntWithin low high = n := by
  have hone : (unitsPerOne : Int) ≠ 0 := by exact_mod_cast unitsPerOne_pos.ne'
  have hnumber : ¬x.isNaN = true := by rw [isNaN_of_isFinite hx]; exact Bool.false_ne_true
  rw [toIntWithin, if_neg hnumber, hn, Int.mul_tdiv_cancel n hone, min_eq_left hhigh,
    max_eq_right hlow]

end Conversion

end ScenarioRunner.Binary64

import Mathlib.Algebra.Order.Field.Rat
import Mathlib.Tactic.Positivity
import ScenarioRunner.Decimal.Literal
import ScenarioRunner.Proofs.Decimal.Shortest

/-!
# The exact value of a literal

A literal denotes a rational number, which is rounded to a float afterwards. Rounding changes nothing if
this number is that of a float (`units_toBinary64_of_value`), with however many zeros it is written and
however great its exponent is.
-/

set_option autoImplicit false

namespace ScenarioRunner

/-- The rational number that a literal writes. -/
def Literal.value (l : Literal) : ℚ := (if l.negative then -1 else 1) * l.digits * 10 ^ l.exponent

namespace Binary64

variable {x : Binary64} {d : Decimal} {l : Literal}

theorem ten_zpow_mul_lower (exponent : Int) :
    (10 : ℚ) ^ exponent * Decimal.lower exponent = Decimal.raise exponent := by
  rcases Int.le_total 0 exponent with hnonneg | hnonpos
  · obtain ⟨k, rfl⟩ := Int.eq_ofNat_of_zero_le hnonneg
    rw [lower_of_nonneg hnonneg]
    simp [Decimal.raise]
  · obtain ⟨k, hk⟩ := Int.eq_ofNat_of_zero_le (Int.neg_nonneg.2 hnonpos)
    obtain rfl : exponent = -(k : Int) := by omega
    rw [raise_of_nonpos hnonpos]
    simp [Decimal.lower]

/-- A decimal with the exact value of a number lies in the interval around the number. -/
theorem admits_of_exact (hpos : 0 < x.magnitude)
    (h : unitsPerOne * d.digits * Decimal.raise d.exponent =
      x.magnitude * Decimal.lower d.exponent) : x.admits d = true := by
  obtain ⟨hlow, hhigh⟩ := between_ends hpos
  have hfactor := lower_pos d.exponent
  have hpoint : 4 * unitsPerOne * d.digits * Decimal.raise d.exponent =
      4 * x.magnitude * Decimal.lower d.exponent := by
    rw [Nat.mul_assoc 4 x.magnitude, ← h]
    ring
  apply admits_of_between
  · rw [hpoint]
    exact Nat.mul_lt_mul_of_pos_right hlow hfactor
  · rw [hpoint]
    exact Nat.mul_lt_mul_of_pos_right hhigh hfactor

/-- Zeros behind the digits count the same as the exponent that stands for them. -/
theorem ofDecimal_zeros (negative : Bool) {digits : Nat} {exponent : Int} (h : exponent ≤ 400) :
    ofDecimal negative (digits * 10 ^ exponent.toNat) (min exponent 0) =
      ofDecimal negative digits exponent := by
  rcases Int.lt_or_le exponent 0 with hneg | hnonneg
  · rw [Int.toNat_eq_zero.2 hneg.le, Nat.pow_zero, Nat.mul_one, Int.min_eq_left hneg.le]
  · rw [Int.min_eq_right hnonneg]
    unfold ofDecimal
    by_cases hzero : digits = 0
    · simp [hzero]
    · have hwritten : digits * 10 ^ exponent.toNat ≠ 0 :=
        Nat.mul_ne_zero hzero (Nat.pow_pos (by decide)).ne'
      rw [if_neg hwritten, if_neg (by decide), if_neg (by decide), if_neg hzero,
        if_neg (by omega), if_neg (by omega)]
      simp

/-- No finite number is as great as the powers of ten that count as infinite. -/
theorem exponent_le_of_exact (hx : x.isFinite = true) (hdigits : 0 < d.digits)
    (h : unitsPerOne * d.digits * Decimal.raise d.exponent =
      x.magnitude * Decimal.lower d.exponent) : d.exponent ≤ 400 := by
  by_contra hgreat
  obtain ⟨k, hk⟩ := Int.eq_ofNat_of_zero_le (show 0 ≤ d.exponent by omega)
  obtain ⟨t, ht, hone⟩ := unitsPerOne_eq
  rw [lower_of_nonneg (by omega), Nat.mul_one, hone] at h
  have hraise : Decimal.raise d.exponent = 10 ^ k := by simp [hk, Decimal.raise]
  have hgreater : 2 ^ (t + 3 * k) ≤ x.magnitude := by
    rw [← h, hraise, Nat.pow_add]
    exact Nat.mul_le_mul (Nat.le_mul_of_pos_right _ hdigits) (two_pow_le_ten_pow k)
  have hless := lt_infiniteMagnitude (representable_magnitude hx)
  have hbits := lt_of_pow_lt_infiniteMagnitude (Nat.lt_of_le_of_lt hgreater hless)
  omega

/-- The value of a literal with digits has the sign of the literal. -/
theorem value_neg_iff (hdigits : 0 < l.digits) : l.value < 0 ↔ l.negative = true := by
  have hten : (0 : ℚ) < 10 ^ l.exponent := zpow_pos (by norm_num) _
  have hcast : (0 : ℚ) < l.digits := by exact_mod_cast hdigits
  unfold Literal.value
  cases l.negative with
  | true => simp [hdigits, hten]
  | false => simp [hten.le, hcast.le, mul_nonneg]

theorem abs_value (l : Literal) : |l.value| = l.digits * 10 ^ l.exponent := by
  have hten : (0 : ℚ) < 10 ^ l.exponent := zpow_pos (by norm_num) _
  unfold Literal.value
  rw [abs_mul, abs_mul, abs_of_pos hten, Nat.abs_cast]
  cases l.negative <;> simp

/-- A literal with the exact value of a number is as far from zero as the number. -/
theorem magnitude_of_value (h : l.value = (x.units : ℚ) / unitsPerOne) :
    unitsPerOne * l.digits * Decimal.raise l.exponent =
      x.magnitude * Decimal.lower l.exponent := by
  have hone : (0 : ℚ) < unitsPerOne := by exact_mod_cast unitsPerOne_pos
  have habs : (l.digits : ℚ) * 10 ^ l.exponent = x.magnitude / unitsPerOne := by
    rw [← abs_value, h, abs_div, abs_of_pos hone, ← natAbs_units x, Nat.cast_natAbs, Int.cast_abs]
  have hcast : (unitsPerOne : ℚ) * l.digits * Decimal.raise l.exponent =
      x.magnitude * Decimal.lower l.exponent := by
    rw [← ten_zpow_mul_lower]
    rw [eq_div_iff hone.ne'] at habs
    rw [← habs]
    ring
  exact_mod_cast hcast

/-- **A literal that writes the exact value of a number is rounded to the number**; of the two zeros it
may be the other one. -/
theorem units_toBinary64_of_value (hx : x.isFinite = true)
    (h : l.value = (x.units : ℚ) / unitsPerOne) :
    l.toBinary64.isFinite = true ∧ l.toBinary64.units = x.units := by
  have hone : (0 : ℚ) < unitsPerOne := by exact_mod_cast unitsPerOne_pos
  have hexact := magnitude_of_value h
  rcases Nat.eq_zero_or_pos l.digits with hzero | hdigits
  · have hmagnitude : x.magnitude = 0 := by
      rw [hzero, Nat.mul_zero, Nat.zero_mul] at hexact
      exact (Nat.mul_eq_zero.1 hexact.symm).resolve_right (lower_pos _).ne'
    have hunits : x.units = 0 := by
      rw [← Int.natAbs_eq_zero, natAbs_units, hmagnitude]
    rw [Literal.toBinary64, ofDecimal, if_pos hzero, hunits]
    cases l.negative
    · exact ⟨by decide +kernel, by decide +kernel⟩
    · exact ⟨by decide +kernel, by decide +kernel⟩
  · have hpos : 0 < x.magnitude := by
      have hraise : 0 < Decimal.raise l.exponent := Nat.pow_pos (by decide)
      refine Nat.pos_of_mul_pos_right (b := Decimal.lower l.exponent) ?_
      rw [← hexact]
      exact Nat.mul_pos (Nat.mul_pos unitsPerOne_pos hdigits) hraise
    have hsign : l.negative = x.negative := by
      have hunits : x.units < 0 ↔ x.negative = true := by
        rw [units_eq]
        cases x.negative with
        | true => exact iff_of_true (by simpa using hpos) rfl
        | false => exact iff_of_false (by simp) (by simp)
      have hvalue : l.value < 0 ↔ x.units < 0 := by
        rw [h, div_lt_iff₀ hone, zero_mul, Int.cast_lt_zero]
      rw [Bool.eq_iff_iff, ← value_neg_iff hdigits, hvalue, hunits]
    have hself : l.toBinary64 = x := by
      rw [Literal.toBinary64, ← ofDecimal_zeros _ (exponent_le_of_exact (d := ⟨_, _⟩) hx hdigits hexact),
        hsign]
      exact ofDecimal_of_admits (d := ⟨_, _⟩) hx hpos (admits_of_exact hpos hexact)
    rw [hself]
    exact ⟨hx, rfl⟩

end Binary64

end ScenarioRunner

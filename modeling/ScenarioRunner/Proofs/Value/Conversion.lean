import ScenarioRunner.Proofs.Binary64.Fraction
import ScenarioRunner.Proofs.Decimal.Nearest
import ScenarioRunner.Proofs.Value.NumericText

/-!
# Floats taken as integers

A float is taken as an integer, of the signed 64-bit range or below the float next to `10 ^ 38`, exactly if
it is one. The same is decided by comparisons of floats alone, behind which a saturating conversion gives
the integer: no float that passes them has a fraction to lose or lies beyond an end of the range, so every
conversion is exact (`integer_conversions_exact`). The bounds are not symmetric: `-2 ^ 63` is converted
and `2 ^ 63` is not.
-/

set_option autoImplicit false

namespace ScenarioRunner

namespace Binary64

/-! ## The integers that floats denote -/

/-- Whether a float is finite and its exact value is an integer. -/
def Denotes (x : Binary64) (n : Int) : Prop := (Value.float x).rational? = some (n : ℚ)

section Denotes

variable {x : Binary64} {low high n : Int}

theorem denotes_iff : x.Denotes n ↔ x.isFinite = true ∧ x.units = n * unitsPerOne := by
  have hone : (unitsPerOne : ℚ) ≠ 0 := by exact_mod_cast unitsPerOne_pos.ne'
  rw [Denotes, Value.rational?_float_eq_some_iff]
  refine and_congr_right fun _ => ?_
  rw [eq_div_iff hone, eq_comm]
  exact_mod_cast Iff.rfl

theorem whole?_eq_some_iff_denotes : x.whole? = some n ↔ x.Denotes n := by
  rw [denotes_iff]
  by_cases hx : x.isFinite = true
  · rw [and_iff_right hx, whole?_eq_some_iff hx]
  · rw [whole?_of_not_isFinite (Bool.eq_false_iff.2 hx)]
    exact iff_of_false (Option.some_ne_none n).symm fun h => hx h.1

/-- A float denotes an integer exactly if its fraction compares as equal to zero. -/
theorem sameNumber_fract_zero_iff_denotes :
    x.fract.sameNumber (zero false) = true ↔ ∃ n, x.Denotes n := by
  simp only [sameNumber_fract_zero_iff, denotes_iff, exists_and_left]

theorem Denotes.toIntWithin_eq (h : x.Denotes n) (hlow : low ≤ n) (hhigh : n ≤ high) :
    x.toIntWithin low high = n :=
  toIntWithin_of_units (denotes_iff.1 h).1 (denotes_iff.1 h).2 hlow hhigh

/-- **A conversion is exact exactly for the integers of its range.** -/
theorem denotes_toIntWithin_iff (hlow : low ≤ 0) (hhigh : 0 ≤ high) :
    x.Denotes (x.toIntWithin low high) ↔ ∃ n, x.Denotes n ∧ low ≤ n ∧ n ≤ high := by
  constructor
  · intro h
    exact ⟨_, h, x.toIntWithin_mem hlow hhigh⟩
  · rintro ⟨n, hn, hrange⟩
    rwa [hn.toIntWithin_eq hrange.1 hrange.2]

/-- A conversion behind a test gives the integers that the test admits, if they are of its range. -/
theorem guarded_eq_some_iff {admits : Bool} {P : Int → Prop}
    (hadmits : admits = true ↔ ∃ n, x.Denotes n ∧ P n) (hrange : ∀ n, P n → low ≤ n ∧ n ≤ high) :
    (if admits then some (x.toIntWithin low high) else none) = some n ↔ x.Denotes n ∧ P n := by
  rw [Option.ite_none_right_eq_some, Option.some.injEq]
  constructor
  · rintro ⟨h, rfl⟩
    obtain ⟨m, hm, hP⟩ := hadmits.1 h
    obtain ⟨hlow, hhigh⟩ := hrange m hP
    rw [hm.toIntWithin_eq hlow hhigh]
    exact ⟨hm, hP⟩
  · rintro ⟨hn, hP⟩
    obtain ⟨hlow, hhigh⟩ := hrange n hP
    exact ⟨hadmits.2 ⟨n, hn, hP⟩, hn.toIntWithin_eq hlow hhigh⟩

end Denotes

/-! ## Comparisons and conversions -/

/-- The float `2 ^ 63`, which is next above the signed 64-bit range. -/
def signedLimit : Binary64 := ⟨0x43E0000000000000⟩

/-- The comparisons before the conversion to a signed integer of 64 bits. -/
def admitsInt64 (x : Binary64) : Bool :=
  x.isFinite && x.fract.sameNumber (zero false) && signedLimit.neg.atMost x && x.less signedLimit

/-- The comparisons before the conversion to a signed integer of 128 bits. -/
def admitsInt128 (x : Binary64) : Bool :=
  x.fract.sameNumber (zero false) && x.abs.less Number.integerLimit

/-- The saturating conversion to a signed integer of 64 bits. -/
def saturated64 (x : Binary64) : Int := x.toIntWithin (-2 ^ 63) (2 ^ 63 - 1)

/-- The saturating conversion to a signed integer of 128 bits. -/
def saturated128 (x : Binary64) : Int := x.toIntWithin (-2 ^ 127) (2 ^ 127 - 1)

/-- The conversion of the floats that are admitted to 64 bits. -/
def guarded64? (x : Binary64) : Option Int64 :=
  if x.admitsInt64 then some (Int64.ofInt x.saturated64) else none

/-- The conversion of the floats that are admitted to 128 bits. -/
def guarded128? (x : Binary64) : Option Int :=
  if x.admitsInt128 then some x.saturated128 else none

/-! ## Signed integers of 64 bits -/

section Int64

variable {x : Binary64} {n : Int}

theorem units_signedLimit : signedLimit.isNaN = false ∧ signedLimit.units = 2 ^ 63 * unitsPerOne := by
  decide +kernel

/-- **The comparisons admit exactly the integers of the range.** -/
theorem admitsInt64_iff :
    x.admitsInt64 = true ↔ ∃ n, x.Denotes n ∧ -2 ^ 63 ≤ n ∧ n < 2 ^ 63 := by
  have hone : 0 < (unitsPerOne : Int) := by exact_mod_cast unitsPerOne_pos
  obtain ⟨hnan, hlimit⟩ := units_signedLimit
  rw [admitsInt64, Bool.and_eq_true, Bool.and_eq_true, Bool.and_eq_true,
    sameNumber_fract_zero_iff_denotes, atMost_iff, less_iff, isNaN_neg, units_neg, hlimit, hnan,
    ← Int.neg_mul]
  constructor
  · rintro ⟨⟨⟨-, n, hn⟩, -, -, hlow⟩, -, -, hhigh⟩
    rw [(denotes_iff.1 hn).2] at hlow hhigh
    exact ⟨n, hn, (mul_le_mul_iff_left₀ hone).1 hlow, (mul_lt_mul_iff_left₀ hone).1 hhigh⟩
  · rintro ⟨n, hn, hlow, hhigh⟩
    obtain ⟨hx, hunits⟩ := denotes_iff.1 hn
    have hnumber := isNaN_of_isFinite hx
    rw [hunits]
    exact ⟨⟨⟨hx, n, hn⟩, rfl, hnumber, (mul_le_mul_iff_left₀ hone).2 hlow⟩, hnumber, rfl,
      (mul_lt_mul_iff_left₀ hone).2 hhigh⟩

/-- A float that passes the comparisons is one that is converted exactly. -/
theorem admitsInt64_iff_exact : x.admitsInt64 = true ↔ x.Denotes x.saturated64 := by
  rw [admitsInt64_iff, saturated64, denotes_toIntWithin_iff (by decide) (by decide)]
  simp only [Int.le_sub_one_iff]

theorem toInt64?_eq_some_iff :
    x.toInt64?.map Int64.toInt = some n ↔ x.Denotes n ∧ -2 ^ 63 ≤ n ∧ n < 2 ^ 63 := by
  rw [← whole?_eq_some_iff_denotes]
  constructor
  · intro h
    obtain ⟨k, hk, rfl⟩ := Option.map_eq_some_iff.1 h
    exact ⟨whole?_of_toInt64? hk, k.le_toInt, k.toInt_lt⟩
  · rintro ⟨hwhole, hlow, hhigh⟩
    cases hform : x.toInt64? with
    | none => exact absurd ⟨hlow, hhigh⟩ (not_int64_of_toInt64?_eq_none hform hwhole)
    | some k =>
        have hk := whole?_of_toInt64? hform
        rw [hwhole] at hk
        exact hk.symm

/-- No conversion leaves the range, so its result is not changed by storing it in 64 bits. -/
theorem map_toInt_guarded64? (x : Binary64) :
    x.guarded64?.map Int64.toInt = if x.admitsInt64 then some x.saturated64 else none := by
  have hrange : -2 ^ 63 ≤ x.saturated64 ∧ x.saturated64 ≤ 2 ^ 63 - 1 :=
    x.toIntWithin_mem (by decide) (by decide)
  have hword : (Int64.ofInt x.saturated64).toInt = x.saturated64 :=
    Int64.toInt_ofInt_of_le hrange.1 (by omega)
  unfold guarded64?
  split
  · rw [Option.map_some, hword]
  · rfl

theorem toInt64?_eq_guarded (x : Binary64) : x.toInt64? = x.guarded64? := by
  have hinjective : Function.Injective Int64.toInt := fun _ _ h => Int64.toInt_inj.1 h
  refine Option.map_injective hinjective (Option.ext fun n => ?_)
  rw [toInt64?_eq_some_iff, map_toInt_guarded64?]
  exact (guarded_eq_some_iff admitsInt64_iff fun n hn => ⟨hn.1, by omega⟩).symm

end Int64

/-! ## Signed integers of 128 bits -/

section Int128

variable {x : Binary64} {n : Int}

/-- The integer that the float next to `10 ^ 38` denotes. -/
def integerBound : Int := 99999999999999997748809823456034029568

theorem units_integerLimit :
    Number.integerLimit.isNaN = false ∧
      Number.integerLimit.units = Number.integerLimit.magnitude ∧
      (Number.integerLimit.magnitude : Int) = integerBound * unitsPerOne := by
  decide +kernel

/-- The limit of the integers is the float that `10 ^ 38` is rounded to. -/
theorem nearestTo_integerLimit : Number.integerLimit.NearestTo (10 ^ 38) := by
  have hrounded : Number.integerLimit = nearest false (10 ^ 38) 1 := by decide +kernel
  have hfinite : (nearest false (10 ^ 38) 1).isFinite = true := by decide +kernel
  have hpos : (0 : ℚ) ≤ 10 ^ 38 := by positivity
  rw [hrounded]
  refine nearestTo_nearest Nat.one_pos hfinite ?_ ?_
  · rw [abs_of_nonneg hpos, Nat.cast_pow, Nat.cast_ofNat, Nat.cast_one, div_one]
  · rw [abs_of_nonneg hpos, if_neg Bool.false_ne_true, one_mul]

theorem denotes_integerLimit : Number.integerLimit.Denotes integerBound := by
  obtain ⟨-, hpositive, hlimit⟩ := units_integerLimit
  exact denotes_iff.2 ⟨nearestTo_integerLimit.isFinite, hpositive.trans hlimit⟩

theorem Denotes.magnitude_lt_iff (h : x.Denotes n) :
    x.magnitude < Number.integerLimit.magnitude ↔ |n| < integerBound := by
  have hone : 0 < (unitsPerOne : Int) := by exact_mod_cast unitsPerOne_pos
  have hmagnitude : (x.magnitude : Int) = |n| * unitsPerOne := by
    rw [← natAbs_units, Int.natCast_natAbs, (denotes_iff.1 h).2, abs_mul, abs_of_pos hone]
  rw [← Int.ofNat_lt, hmagnitude, units_integerLimit.2.2, mul_lt_mul_iff_left₀ hone]

/-- **The comparisons admit exactly the integers below the limit.** -/
theorem admitsInt128_iff :
    x.admitsInt128 = true ↔ ∃ n, x.Denotes n ∧ |n| < integerBound := by
  obtain ⟨hnan, hpositive, -⟩ := units_integerLimit
  rw [admitsInt128, Bool.and_eq_true, sameNumber_fract_zero_iff_denotes, less_iff, isNaN_abs, units_abs,
    hpositive, Int.ofNat_lt]
  constructor
  · rintro ⟨⟨n, hn⟩, -, -, hbelow⟩
    exact ⟨n, hn, hn.magnitude_lt_iff.1 hbelow⟩
  · rintro ⟨n, hn, hbelow⟩
    exact ⟨⟨n, hn⟩, isNaN_of_isFinite (denotes_iff.1 hn).1, hnan, hn.magnitude_lt_iff.2 hbelow⟩

/-- The limit is within the range of 128 bits. -/
theorem range_of_lt_integerBound (hn : |n| < integerBound) : -2 ^ 127 ≤ n ∧ n ≤ 2 ^ 127 - 1 := by
  rw [abs_lt] at hn
  unfold integerBound at hn
  omega

theorem guarded128?_eq_some_iff :
    x.guarded128? = some n ↔ x.Denotes n ∧ |n| < integerBound :=
  guarded_eq_some_iff admitsInt128_iff fun _ => range_of_lt_integerBound

/-- A float that passes the comparisons is one that is converted exactly, to an integer below the
limit. -/
theorem admitsInt128_iff_exact :
    x.admitsInt128 = true ↔ x.Denotes x.saturated128 ∧ |x.saturated128| < integerBound := by
  rw [← guarded128?_eq_some_iff, guarded128?, Option.ite_none_right_eq_some, and_iff_left rfl]

theorem integer?_float_eq_some_iff :
    (Number.float x).integer? = some n ↔ x.Denotes n ∧ |n| < integerBound := by
  rw [Number.integer?, Option.ite_none_right_eq_some, whole?_eq_some_iff_denotes, and_comm]
  exact and_congr_right Denotes.magnitude_lt_iff

theorem integer?_float_eq_guarded (x : Binary64) : (Number.float x).integer? = x.guarded128? := by
  refine Option.ext fun n => ?_
  rw [integer?_float_eq_some_iff, guarded128?_eq_some_iff]

end Int128

/-- **A float is taken as an integer exactly if it is one in range, and the conversion to it is exact.** The
integers of 64 bits are those from `-2 ^ 63` on below `2 ^ 63`, and the other ones those below the float
next to `10 ^ 38`. Comparisons of floats and a saturating conversion behind them give the same, and the
floats that pass the comparisons are those that the conversion neither cuts nor moves to an end of the
range. -/
theorem integer_conversions_exact (x : Binary64) :
    (∀ n : Int, x.toInt64?.map Int64.toInt = some n ↔ x.Denotes n ∧ -2 ^ 63 ≤ n ∧ n < 2 ^ 63) ∧
    (∀ n : Int, (Number.float x).integer? = some n ↔ x.Denotes n ∧ |n| < integerBound) ∧
    (Number.integerLimit.Denotes integerBound ∧ Number.integerLimit.NearestTo (10 ^ 38)) ∧
    (x.toInt64? = x.guarded64? ∧ (Number.float x).integer? = x.guarded128?) ∧
    (x.admitsInt64 = true ↔ x.Denotes x.saturated64) ∧
    (x.admitsInt128 = true ↔ x.Denotes x.saturated128 ∧ |x.saturated128| < integerBound) := by
  refine ⟨?_, ?_, ⟨denotes_integerLimit, nearestTo_integerLimit⟩, ⟨?_, ?_⟩, ?_, ?_⟩
  · intro n
    exact toInt64?_eq_some_iff
  · intro n
    exact integer?_float_eq_some_iff
  · exact toInt64?_eq_guarded x
  · exact integer?_float_eq_guarded x
  · exact admitsInt64_iff_exact
  · exact admitsInt128_iff_exact

/-- The greatest float below `2 ^ 63` is converted and `2 ^ 63` is not, but its opposite is. -/
example :
    (⟨0x43DFFFFFFFFFFFFF⟩ : Binary64).guarded64? = some 9223372036854774784 ∧
      signedLimit.guarded64? = none ∧ signedLimit.saturated64 = 2 ^ 63 - 1 ∧
      signedLimit.neg.guarded64? = some (-9223372036854775808) := by
  decide +kernel

end Binary64

end ScenarioRunner

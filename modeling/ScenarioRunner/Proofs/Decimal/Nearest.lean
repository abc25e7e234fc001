import ScenarioRunner.Proofs.Decimal.Exact

/-!
# The float next to a literal

A literal is rounded to the float nearest to its value (`nearestTo_toBinary64`), unless there is none: the
greatest finite number lies one step below `2 ^ 1024`, and what reaches the middle of this step,
`2 ^ 1024 - 2 ^ 970`, is rounded to an infinity. All that is less is rounded to a finite number, on either
side of zero (`isFinite_toBinary64_iff`).
-/

set_option autoImplicit false

namespace ScenarioRunner

namespace Binary64

variable {num den : Nat}

/-! ## The step below the infinities -/

/-- The infinities stand one step of the greatest scale above the greatest finite number. -/
theorem infiniteMagnitude_eq : ∃ t, t = 2045 ∧ infiniteMagnitude = 2 * exponentWeight * 2 ^ t := by
  have hpow : ∀ t n, t + 53 = n → Nat.pow 2 n = 2 * exponentWeight * 2 ^ t := by
    rintro t n rfl
    rw [two_mul_exponentWeight_mul, Nat.pow_eq]
  refine ⟨2045, rfl, ?_⟩
  unfold infiniteMagnitude
  apply hpow
  rfl

/-- What reaches the middle of the step is rounded up. -/
theorem infiniteMagnitude_le_roundedUnits (hden : 0 < den)
    (h : 4 * exponentWeight * (den * 2 ^ 2045) ≤ 2 * num + den * 2 ^ 2045) :
    infiniteMagnitude ≤ roundedUnits num den := by
  obtain ⟨t, ht, hinfinite⟩ := infiniteMagnitude_eq
  rw [← ht] at h
  rw [hinfinite]
  rcases Nat.lt_or_ge num (2 * exponentWeight * (den * 2 ^ t)) with hstep | hbeyond
  · rw [roundedUnits_of_just_below hden h hstep]
    exact Nat.le_of_eq (by ring)
  · -- a fraction beyond the step has a scale of its own, greater than that of any finite number
    have hscale : t + 1 ≤ roundingScale num den := by
      by_contra hsmall
      have hpow : den * 2 ^ roundingScale num den ≤ den * 2 ^ t :=
        Nat.mul_le_mul_left _ (Nat.pow_le_pow_right (by decide) (by omega))
      have hle := Nat.mul_le_mul_left (2 * exponentWeight) hpow
      have hlt := lt_of_roundingScale num hden
      omega
    have hsignificand := (le_roundedSignificand num hden).resolve_right (by omega)
    calc 2 * exponentWeight * 2 ^ t = exponentWeight * 2 ^ (t + 1) := by ring
      _ ≤ roundedSignificand num den * 2 ^ roundingScale num den :=
        Nat.mul_le_mul hsignificand (Nat.pow_le_pow_right (by decide) hscale)

/-- What does not reach the middle of the step is rounded down. -/
theorem roundedUnits_lt_infiniteMagnitude (hden : 0 < den)
    (h : 2 * num + den * 2 ^ 2045 < 4 * exponentWeight * (den * 2 ^ 2045)) :
    roundedUnits num den < infiniteMagnitude := by
  obtain ⟨t, ht, -⟩ := infiniteMagnitude_eq
  rw [← ht] at h
  have hencodes : Encodes (2 * exponentWeight - 1) t := ⟨by decide, .inl (by decide), ht.le⟩
  have hgreatest : Representable ((2 * exponentWeight - 1) * 2 ^ t) := ⟨_, t, hencodes, rfl⟩
  refine Nat.lt_of_le_of_lt ?_ (lt_infiniteMagnitude hgreatest)
  rcases Nat.le_total num ((2 * exponentWeight - 1) * 2 ^ t * den) with hle | hge
  · exact roundedUnits_le hgreatest hle hden
  · have hplace : 0 < den * 2 ^ t := Nat.mul_pos hden (Nat.two_pow_pos t)
    have hgap : lowerGap (2 * exponentWeight - 1) t = 2 := rfl
    rw [Nat.mul_assoc, Nat.mul_comm (2 ^ t)] at hge
    have hlow : 4 * ((2 * exponentWeight - 1) * (den * 2 ^ t)) <
        4 * num + lowerGap (2 * exponentWeight - 1) t * (den * 2 ^ t) := by
      rw [hgap]
      omega
    have hhigh : 4 * num < 4 * ((2 * exponentWeight - 1) * (den * 2 ^ t)) + 2 * (den * 2 ^ t) := by
      unfold exponentWeight at *
      omega
    exact (roundedUnits_of_between hencodes hden hlow.le hhigh.le (.inr ⟨hlow, hhigh⟩)).le

/-- **A fraction is rounded to a finite magnitude when it lies below the middle of the step.** -/
theorem roundedUnits_lt_iff (hden : 0 < den) :
    roundedUnits num den < infiniteMagnitude ↔
      2 * num + den * 2 ^ 2045 < 4 * exponentWeight * (den * 2 ^ 2045) := by
  constructor
  · intro h
    by_contra hmiddle
    exact Nat.not_lt.2 (infiniteMagnitude_le_roundedUnits hden (Nat.not_lt.1 hmiddle)) h
  · exact roundedUnits_lt_infiniteMagnitude hden

/-! ## Values -/

theorem isFinite_nearestUnits_iff (negative : Bool) (hden : 0 < den) :
    (nearestUnits negative num den).isFinite = true ↔ roundedUnits num den < infiniteMagnitude :=
  ⟨roundedUnits_lt_of_isFinite, fun h => (nearestUnits_of_lt negative hden h).1⟩

/-- The middle of the step, as a value. -/
theorem isFinite_nearest_iff (negative : Bool) (hden : 0 < den) :
    (nearest negative num den).isFinite = true ↔ (num : ℚ) / den < 2 ^ 1024 - 2 ^ 970 := by
  -- the exponents get names, so that no power of this size is computed
  obtain ⟨u, hu, hone⟩ := unitsPerOne_eq
  obtain ⟨k, hk⟩ : ∃ k, k = 970 := ⟨970, rfl⟩
  have hscale : 2045 = u + 1 + k := by omega
  have hexponent : 1024 = 54 + k := by omega
  have hsum : 2 * (num * 2 ^ u) + den * 2 ^ (u + 1 + k) = 2 ^ (u + 1) * (num + den * 2 ^ k) := by
    ring
  have hbound : 4 * exponentWeight * (den * 2 ^ (u + 1 + k)) =
      2 ^ (u + 1) * (2 ^ 54 * 2 ^ k * den) := by
    unfold exponentWeight
    ring
  have hpos : (0 : ℚ) < den := by exact_mod_cast hden
  rw [nearest, isFinite_nearestUnits_iff negative hden, roundedUnits_lt_iff hden, hone, hscale, hsum,
    hbound, Nat.mul_lt_mul_left (Nat.two_pow_pos _), div_lt_iff₀ hpos, sub_mul, lt_sub_iff_add_lt,
    hexponent, ← hk, pow_add, mul_comm (2 ^ k : ℚ)]
  exact_mod_cast Iff.rfl

/-! ## Distance -/

section Distance

variable {x : Binary64} {q : ℚ}

/-- Whether a number is finite and no finite number is nearer to a value. -/
structure NearestTo (x : Binary64) (q : ℚ) : Prop where
  isFinite : x.isFinite = true
  least : ∀ y : Binary64, y.isFinite = true →
    |q - (x.units : ℚ) / unitsPerOne| ≤ |q - (y.units : ℚ) / unitsPerOne|

theorem abs_units_div (x : Binary64) : |(x.units : ℚ) / unitsPerOne| = x.magnitude / unitsPerOne := by
  rw [abs_div, Nat.abs_cast, ← natAbs_units x, Nat.cast_natAbs, Int.cast_abs]

/-- What a number is, by its sign and its magnitude. -/
theorem units_div_eq (x : Binary64) :
    (x.units : ℚ) / unitsPerOne =
      (if x.negative then -1 else 1) * ((x.magnitude : ℚ) / unitsPerOne) := by
  rw [units_eq]
  cases x.negative with
  | false => rw [if_neg Bool.false_ne_true, if_neg Bool.false_ne_true, Int.cast_natCast, one_mul]
  | true => rw [if_pos rfl, if_pos rfl, Int.cast_neg, Int.cast_natCast, neg_div, neg_one_mul]

/-- A number on the side of a value is nearest to it if no representable magnitude is nearer to its
distance from zero: a number on the other side is further away than the one across from it. -/
theorem nearestTo_of_magnitude (hx : x.isFinite = true)
    (hq : q = (if x.negative then -1 else 1) * |q|)
    (h : ∀ units, Representable units →
      |(|q|) - (x.magnitude : ℚ) / unitsPerOne| ≤ |(|q|) - (units : ℚ) / unitsPerOne|) :
    NearestTo x q := by
  refine ⟨hx, fun y hy => ?_⟩
  have hdistance : |q - (x.units : ℚ) / unitsPerOne| = |(|q|) - (x.magnitude : ℚ) / unitsPerOne| := by
    -- on one side of zero the distance is that of the magnitudes
    rw [units_div_eq]
    cases hnegative : x.negative
    · rw [hnegative] at hq
      simp only [Bool.false_eq_true, if_false, one_mul] at hq ⊢
      rw [← hq]
    · rw [hnegative] at hq
      simp only [if_true, neg_one_mul] at hq ⊢
      rw [sub_neg_eq_add, ← abs_neg, neg_add, ← sub_eq_add_neg]
      congr 2
      linarith
  calc |q - (x.units : ℚ) / unitsPerOne|
      = |(|q|) - (x.magnitude : ℚ) / unitsPerOne| := hdistance
    _ ≤ |(|q|) - (y.magnitude : ℚ) / unitsPerOne| := h _ (representable_magnitude hy)
    _ = |(|q|) - (|(y.units : ℚ) / unitsPerOne|)| := by rw [abs_units_div]
    _ ≤ |q - (y.units : ℚ) / unitsPerOne| := abs_abs_sub_abs_le _ _

/-- The magnitude of a rounded fraction is the nearest one. -/
theorem nearest_magnitude {negative : Bool} (hden : 0 < den)
    (hfinite : (nearest negative num den).isFinite = true) {units : Nat} (hunits : Representable units) :
    |(num : ℚ) / den - ((nearest negative num den).magnitude : ℚ) / unitsPerOne| ≤
      |(num : ℚ) / den - (units : ℚ) / unitsPerOne| := by
  obtain ⟨-, -, hmagnitude⟩ :=
    nearestUnits_of_lt negative hden ((isFinite_nearestUnits_iff negative hden).1 hfinite)
  have hone : (0 : ℚ) < unitsPerOne := by exact_mod_cast unitsPerOne_pos
  have hpos : (0 : ℚ) < den := by exact_mod_cast hden
  have hscaled : ∀ units : Nat, |(num : ℚ) / den - (units : ℚ) / unitsPerOne| =
      (((num * unitsPerOne : Nat) : Int) - (units * den : Nat)).natAbs / (den * unitsPerOne) := by
    intro units
    rw [div_sub_div _ _ hpos.ne' hone.ne', abs_div, abs_of_pos (mul_pos hpos hone), Nat.cast_natAbs,
      Int.cast_abs]
    push_cast
    rw [mul_comm (den : ℚ)]
  rw [nearest, hmagnitude, hscaled, hscaled]
  refine div_le_div_of_nonneg_right ?_ (mul_pos hpos hone).le
  exact_mod_cast roundedUnits_nearest (num * unitsPerOne) hunits hden

/-- **A fraction is rounded to the nearest number**, with the sign that is given. -/
theorem nearestTo_nearest {negative : Bool} (hden : 0 < den)
    (hfinite : (nearest negative num den).isFinite = true) (habs : |q| = (num : ℚ) / den)
    (hq : q = (if negative then -1 else 1) * |q|) : NearestTo (nearest negative num den) q := by
  obtain ⟨-, hnegative, -⟩ :=
    nearestUnits_of_lt negative hden ((isFinite_nearestUnits_iff negative hden).1 hfinite)
  apply nearestTo_of_magnitude hfinite
  · rw [nearest, hnegative]
    exact hq
  · intro units hunits
    rw [habs]
    exact nearest_magnitude hden hfinite hunits

/-- What is at most half a unit is nearest to zero. -/
theorem nearestTo_zero (negative : Bool) (hq : q = (if negative then -1 else 1) * |q|)
    (hsmall : 2 * |q| ≤ 1 / unitsPerOne) : NearestTo (zero negative) q := by
  have hone : (0 : ℚ) < unitsPerOne := by exact_mod_cast unitsPerOne_pos
  have hfacts : (zero negative).isFinite = true ∧ (zero negative).negative = negative ∧
      (zero negative).magnitude = 0 := by
    cases negative <;> decide +kernel
  obtain ⟨hfinite, hnegative, hmagnitude⟩ := hfacts
  apply nearestTo_of_magnitude hfinite
  · rw [hnegative]
    exact hq
  · intro units hunits
    rw [hmagnitude, Nat.cast_zero, zero_div, sub_zero, abs_abs]
    rcases Nat.eq_zero_or_pos units with rfl | hpos
    · rw [Nat.cast_zero, zero_div, sub_zero, abs_abs]
    · have hunit : (1 : ℚ) / unitsPerOne ≤ units / unitsPerOne := by
        apply div_le_div_of_nonneg_right _ hone.le
        exact_mod_cast hpos
      rw [abs_sub_comm]
      exact le_trans (by linarith) (le_abs_self _)

end Distance

end Binary64

/-! ## Literals -/

namespace Literal

open Binary64

/-- The bound is greater than one. -/
theorem one_le_bound : (1 : ℚ) ≤ 2 ^ 1024 - 2 ^ 970 := by
  obtain ⟨k, hk⟩ : ∃ k, k = 970 := ⟨970, rfl⟩
  have hexponent : 1024 = 54 + k := by omega
  have hone : (1 : ℚ) ≤ 2 ^ k := one_le_pow₀ one_le_two
  rw [hexponent, ← hk, pow_add]
  linarith

/-- A literal of a great exponent reaches the bound. -/
theorem bound_le_of_great {digits : Nat} {exponent : Int} (hdigits : 0 < digits)
    (h : 400 < exponent) : (2 ^ 1024 - 2 ^ 970 : ℚ) ≤ digits * 10 ^ exponent := by
  obtain ⟨k, rfl⟩ := Int.eq_ofNat_of_zero_le (show 0 ≤ exponent by omega)
  have hone : (1 : ℚ) ≤ digits := by exact_mod_cast hdigits
  have hsmaller : (0 : ℚ) ≤ 2 ^ 970 := by positivity
  calc (2 ^ 1024 - 2 ^ 970 : ℚ) ≤ 2 ^ 1024 := sub_le_self _ hsmaller
    _ ≤ 2 ^ (3 * k) := pow_le_pow_right₀ one_le_two (by omega)
    _ ≤ 10 ^ k := by exact_mod_cast two_pow_le_ten_pow k
    _ ≤ digits * 10 ^ k := le_mul_of_one_le_left (by positivity) hone
    _ = digits * 10 ^ (k : Int) := by rw [zpow_natCast]

/-- A literal of a small exponent is at most half a unit. -/
theorem le_half_unit_of_small {digits k : Nat} (h : digits.log2 + 400 < k) :
    2 * (digits * 10 ^ (-(k : Int)) : ℚ) ≤ 1 / unitsPerOne := by
  obtain ⟨t, ht, hone⟩ := unitsPerOne_eq
  obtain ⟨d, hd⟩ : ∃ d, d = digits.log2 := ⟨_, rfl⟩
  have hpow : 2 * digits * unitsPerOne ≤ 10 ^ k :=
    calc 2 * digits * unitsPerOne ≤ 2 ^ (d + 2) * 2 ^ t := by
          rw [hone, Nat.pow_succ 2 (d + 1), Nat.mul_comm _ 2, hd]
          exact Nat.mul_le_mul_right _ (Nat.mul_le_mul_left 2 Nat.lt_log2_self.le)
      _ = 2 ^ (d + 2 + t) := (Nat.pow_add 2 (d + 2) t).symm
      _ ≤ 2 ^ (3 * k) := Nat.pow_le_pow_right (by decide) (by omega)
      _ ≤ 10 ^ k := two_pow_le_ten_pow k
  have hunit : (0 : ℚ) < unitsPerOne := by exact_mod_cast unitsPerOne_pos
  have hten : (0 : ℚ) < 10 ^ k := by positivity
  rw [zpow_neg, zpow_natCast, ← div_eq_mul_inv, ← mul_div_assoc, div_le_div_iff₀ hten hunit, one_mul]
  exact_mod_cast hpow

/-- **How a literal is rounded**: to zero if it is very small, to an infinity if it is very great, and as
a fraction otherwise. -/
theorem toBinary64_cases (l : Literal) :
    (l.toBinary64 = zero l.negative ∧ 2 * |l.value| ≤ 1 / unitsPerOne) ∨
      (l.toBinary64 = infinity l.negative ∧ 2 ^ 1024 - 2 ^ 970 ≤ |l.value|) ∨
      ∃ num den, 0 < den ∧ l.toBinary64 = nearest l.negative num den ∧
        |l.value| = (num : ℚ) / den := by
  rw [abs_value, toBinary64, ofDecimal]
  split
  · next hzero =>
      refine .inl ⟨rfl, ?_⟩
      rw [hzero, Nat.cast_zero, zero_mul, mul_zero]
      exact div_nonneg zero_le_one (Nat.cast_nonneg _)
  · next hdigits =>
      split
      · next hgreat => exact .inr (.inl ⟨rfl, bound_le_of_great (Nat.pos_of_ne_zero hdigits) hgreat⟩)
      · split
        · next hneg =>
            obtain ⟨k, hk⟩ := Int.eq_ofNat_of_zero_le (Int.neg_nonneg.2 hneg.le)
            have hexponent : l.exponent = -(k : Int) := by omega
            rw [hexponent]
            split
            · next hsmall => exact .inl ⟨rfl, le_half_unit_of_small (by omega)⟩
            · refine .inr (.inr ⟨_, _, Nat.pow_pos (by decide), rfl, ?_⟩)
              rw [Int.natAbs_neg, Int.natAbs_natCast, zpow_neg, zpow_natCast, ← div_eq_mul_inv,
                Nat.cast_pow, Nat.cast_ofNat]
        · next hnonneg =>
            obtain ⟨k, hk⟩ := Int.eq_ofNat_of_zero_le (Int.not_lt.1 hnonneg)
            refine .inr (.inr ⟨_, _, Nat.one_pos, rfl, ?_⟩)
            rw [hk, Int.toNat_natCast, Nat.pow_eq, Nat.cast_one, div_one, zpow_natCast, Nat.cast_mul,
              Nat.cast_pow, Nat.cast_ofNat]

/-- **A literal is rounded to a finite number when its value lies below the middle of the step.** -/
theorem isFinite_toBinary64_iff (l : Literal) :
    l.toBinary64.isFinite = true ↔ |l.value| < 2 ^ 1024 - 2 ^ 970 := by
  rcases toBinary64_cases l with ⟨hzero, hsmall⟩ | ⟨hinfinity, hgreat⟩ | ⟨num, den, hden, hnearest, habs⟩
  · have hfinite : (zero l.negative).isFinite = true := by cases l.negative <;> decide +kernel
    have hunit : (1 : ℚ) / unitsPerOne ≤ 1 :=
      div_le_self zero_le_one (Nat.one_le_cast.2 (Nat.succ_le_of_lt unitsPerOne_pos))
    have hbound := one_le_bound
    rw [hzero]
    exact iff_of_true hfinite (lt_of_lt_of_le (by linarith [abs_nonneg l.value]) hbound)
  · have hinfinite : ¬(infinity l.negative).isFinite = true := by cases l.negative <;> decide +kernel
    rw [hinfinity]
    exact iff_of_false hinfinite (not_lt.2 hgreat)
  · rw [hnearest, habs, isFinite_nearest_iff _ hden]

/-- A value has the sign of its literal. -/
theorem value_eq_sign_mul_abs (l : Literal) :
    l.value = (if l.negative then -1 else 1) * |l.value| := by
  rw [abs_value, value, mul_assoc]

/-- **A literal that is rounded to a finite number is rounded to the nearest one.** -/
theorem nearestTo_toBinary64 {l : Literal} (h : l.toBinary64.isFinite = true) :
    NearestTo l.toBinary64 l.value := by
  have hsign := value_eq_sign_mul_abs l
  rcases toBinary64_cases l with ⟨hzero, hsmall⟩ | ⟨hinfinity, hgreat⟩ | ⟨num, den, hden, hnearest, habs⟩
  · rw [hzero]
    exact nearestTo_zero l.negative hsign hsmall
  · exact absurd ((isFinite_toBinary64_iff l).1 h) (not_lt.2 hgreat)
  · rw [hnearest] at h ⊢
    exact nearestTo_nearest hden h habs hsign

end Literal

end ScenarioRunner

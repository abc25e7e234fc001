import ScenarioRunner.Decimal.Shortest
import ScenarioRunner.Proofs.Binary64.Integer

/-!
# The shortest decimal reads back

The decimal that the search for the fewest digits settles on lies in the interval around the number
(`admits_shortest`), on whatever grid the search stops. Every decimal of this interval is rounded to
the number (`roundedUnits_of_admits`), so the shortest decimal is read as the number it was made of
(`ofDecimal_shortest`).
-/

set_option autoImplicit false

namespace ScenarioRunner.Binary64

variable {x : Binary64} {d : Decimal}

/-! ## The search -/

theorem admits_of_onGrid? {tie : Tie} {exponent : Int} (h : x.onGrid? tie exponent = some d) :
    x.admits d = true := by
  unfold onGrid? at h
  dsimp only at h
  split at h
  · cases h
  · next hbelow habove =>
      cases h
      exact hbelow
  · next hbelow habove =>
      cases h
      exact habove
  · next hbelow habove =>
      -- both neighbours round to the number, and one of them is taken
      split at h
      · cases h
        exact hbelow
      · split at h
        · cases h
          exact habove
        · cases tie with
          | away =>
              cases h
              exact habove
          | even =>
              dsimp only at h
              split at h
              · cases h
                exact hbelow
              · cases h
                exact habove

theorem significand_pos (hpos : 0 < x.magnitude) : 0 < x.significand :=
  Nat.pos_of_mul_pos_right hpos

/-- The gap of the interval below a number, read off its fields. -/
theorem lowerGap_eq (x : Binary64) :
    (if x.fractionField = 0 ∧ 0 < x.scale then 1 else 2) = lowerGap x.significand x.scale := by
  unfold lowerGap
  refine if_congr (and_congr_left fun hscale => ?_) rfl rfl
  have hexponent : x.exponentField ≠ 0 := by
    unfold scale at hscale
    omega
  unfold significand
  rw [if_neg hexponent]
  omega

theorem lowerEnd_eq (x : Binary64) :
    x.lowerEnd = (4 * x.significand - lowerGap x.significand x.scale) * 2 ^ x.scale := by
  unfold lowerEnd
  rw [lowerGap_eq, magnitude_eq, Nat.pow_eq, ← Nat.mul_assoc, Nat.sub_mul]

theorem upperEnd_eq (x : Binary64) :
    x.upperEnd = (4 * x.significand + 2) * 2 ^ x.scale := by
  unfold upperEnd
  rw [magnitude_eq, Nat.pow_eq, ← Nat.mul_assoc, Nat.add_mul]

/-- The exact value lies between the ends of its interval. -/
theorem between_ends (hpos : 0 < x.magnitude) :
    x.lowerEnd < 4 * x.magnitude ∧ 4 * x.magnitude < x.upperEnd := by
  have hsignificand := significand_pos hpos
  have hgap : 0 < lowerGap x.significand x.scale := by
    unfold lowerGap
    split <;> omega
  rw [lowerEnd_eq, upperEnd_eq, magnitude_eq, ← Nat.mul_assoc]
  have hpow := Nat.two_pow_pos x.scale
  exact ⟨Nat.mul_lt_mul_of_pos_right (by omega) hpow, Nat.mul_lt_mul_of_pos_right (by omega) hpow⟩

theorem admits_of_between
    (hlow : x.lowerEnd * Decimal.lower d.exponent <
      4 * unitsPerOne * d.digits * Decimal.raise d.exponent)
    (hhigh : 4 * unitsPerOne * d.digits * Decimal.raise d.exponent <
      x.upperEnd * Decimal.lower d.exponent) : x.admits d = true := by
  unfold admits
  split
  · simp [hlow.le, hhigh.le]
  · simp [hlow, hhigh]

theorem lower_pos (exponent : Int) : 0 < Decimal.lower exponent := Nat.pow_pos (by decide)

theorem lower_of_nonneg {exponent : Int} (h : 0 ≤ exponent) : Decimal.lower exponent = 1 := by
  rw [Decimal.lower, Int.toNat_eq_zero.2 (by omega), Nat.pow_eq, Nat.pow_zero]

theorem raise_of_nonpos {exponent : Int} (h : exponent ≤ 0) : Decimal.raise exponent = 1 := by
  rw [Decimal.raise, Int.toNat_eq_zero.2 h, Nat.pow_eq, Nat.pow_zero]

/-- The decimal of all digits, where the search ends at last, is exact. -/
theorem admits_exact (hpos : 0 < x.magnitude) :
    x.admits ⟨x.magnitude * Nat.pow 5 1074, -1074⟩ = true := by
  obtain ⟨t, ht, hone⟩ := unitsPerOne_eq
  have hpoint : ∀ k : Nat, k = t →
      x.admits ⟨x.magnitude * Nat.pow 5 k, -(k : Int)⟩ = true := by
    rintro k rfl
    have hlower : Decimal.lower (-(k : Int)) = unitsPerOne * 5 ^ k := by
      rw [hone, ← Nat.mul_pow]
      simp [Decimal.lower]
    have hraise : Decimal.raise (-(k : Int)) = 1 := raise_of_nonpos (by omega)
    have hexact : 4 * unitsPerOne * (x.magnitude * Nat.pow 5 k) * Decimal.raise (-(k : Int)) =
        4 * x.magnitude * Decimal.lower (-(k : Int)) := by
      rw [hraise, hlower, Nat.pow_eq]
      ring
    obtain ⟨hlow, hhigh⟩ := between_ends hpos
    have hfactor := lower_pos (-(k : Int))
    apply admits_of_between
    · rw [hexact]
      exact Nat.mul_lt_mul_of_pos_right hlow hfactor
    · rw [hexact]
      exact Nat.mul_lt_mul_of_pos_right hhigh hfactor
  apply hpoint
  exact ht.symm

theorem admits_searchGrids (tie : Tie) (hpos : 0 < x.magnitude) (steps : Nat) (exponent : Int) :
    x.admits (x.searchGrids tie steps exponent) = true := by
  induction steps generalizing exponent with
  | zero => exact admits_exact hpos
  | succ steps ih =>
      rw [searchGrids]
      cases hfound : x.onGrid? tie exponent with
      | none => exact ih (exponent - 1)
      | some d => exact admits_of_onGrid? hfound

/-- The shortest decimal of a number is in the interval that rounds to it. -/
theorem admits_shortest (tie : Tie) (hpos : 0 < x.magnitude) :
    x.admits (x.shortest tie) = true := by
  rw [shortest, if_neg hpos.ne']
  exact admits_searchGrids tie hpos 24 x.coarsest

/-! ## Reading back -/

/-- The ends of the interval around a number, as bounds of an admitted decimal. -/
theorem bounds_of_admits (h : x.admits d = true) :
    x.lowerEnd * Decimal.lower d.exponent ≤
        4 * unitsPerOne * d.digits * Decimal.raise d.exponent ∧
      4 * unitsPerOne * d.digits * Decimal.raise d.exponent ≤
        x.upperEnd * Decimal.lower d.exponent ∧
      (x.significand % 2 = 0 ∨
        x.lowerEnd * Decimal.lower d.exponent <
            4 * unitsPerOne * d.digits * Decimal.raise d.exponent ∧
          4 * unitsPerOne * d.digits * Decimal.raise d.exponent <
            x.upperEnd * Decimal.lower d.exponent) := by
  unfold admits at h
  dsimp only at h
  split at h
  · next heven =>
      obtain ⟨hlow, hhigh⟩ := Bool.and_eq_true_iff.1 h
      exact ⟨of_decide_eq_true hlow, of_decide_eq_true hhigh, .inl heven⟩
  · next hodd =>
      obtain ⟨hlow, hhigh⟩ := Bool.and_eq_true_iff.1 h
      have hlow := of_decide_eq_true hlow
      have hhigh := of_decide_eq_true hhigh
      exact ⟨hlow.le, hhigh.le, .inr ⟨hlow, hhigh⟩⟩

/-- **A decimal that a number admits rounds to its magnitude.** -/
theorem roundedUnits_of_admits (hx : x.isFinite = true) (hpos : 0 < x.magnitude)
    (h : x.admits d = true) :
    roundedUnits (unitsPerOne * d.digits * Decimal.raise d.exponent) (Decimal.lower d.exponent) =
      x.magnitude := by
  obtain ⟨hlow, hhigh, hends⟩ := bounds_of_admits h
  have hden := lower_pos d.exponent
  have hsignificand := significand_pos hpos
  have hgap := lowerGap_le x.significand x.scale
  have hpoint : 4 * unitsPerOne * d.digits * Decimal.raise d.exponent =
      4 * (unitsPerOne * d.digits * Decimal.raise d.exponent) := by ring
  have hlower : x.lowerEnd * Decimal.lower d.exponent +
      lowerGap x.significand x.scale * (Decimal.lower d.exponent * 2 ^ x.scale) =
        4 * (x.significand * (Decimal.lower d.exponent * 2 ^ x.scale)) := by
    obtain ⟨gapless, hgapless⟩ := Nat.exists_eq_add_of_le
      (show lowerGap x.significand x.scale ≤ 4 * x.significand by omega)
    rw [lowerEnd_eq, ← Nat.mul_assoc 4, hgapless, Nat.add_sub_cancel_left]
    ring
  have hupper : x.upperEnd * Decimal.lower d.exponent =
      4 * (x.significand * (Decimal.lower d.exponent * 2 ^ x.scale)) +
        2 * (Decimal.lower d.exponent * 2 ^ x.scale) := by
    rw [upperEnd_eq]
    ring
  rw [hpoint] at hlow hhigh hends
  rw [hupper] at hhigh hends
  exact roundedUnits_of_between (encodes hx) hden (by omega) hhigh
    (hends.imp_right fun ⟨hlt, hgt⟩ => ⟨by omega, hgt⟩)

theorem two_le_lowerEnd (hpos : 0 < x.magnitude) : 2 ≤ x.lowerEnd := by
  have hsignificand := significand_pos hpos
  have hgap := lowerGap_le x.significand x.scale
  rw [lowerEnd_eq]
  calc 2 ≤ 4 * x.significand - lowerGap x.significand x.scale := by omega
    _ ≤ _ := Nat.le_mul_of_pos_right _ (Nat.two_pow_pos _)

/-- An admitted decimal is not below half of the least number. -/
theorem lower_le_of_admits (hpos : 0 < x.magnitude) (h : x.admits d = true) :
    Decimal.lower d.exponent ≤ 2 * unitsPerOne * d.digits * Decimal.raise d.exponent := by
  obtain ⟨hlow, -, -⟩ := bounds_of_admits h
  have htwo := Nat.mul_le_mul_right (Decimal.lower d.exponent) (two_le_lowerEnd hpos)
  have hhalf : 4 * unitsPerOne * d.digits * Decimal.raise d.exponent =
      2 * (2 * unitsPerOne * d.digits * Decimal.raise d.exponent) := by ring
  omega

theorem digits_pos_of_admits (hpos : 0 < x.magnitude) (h : x.admits d = true) : 0 < d.digits := by
  have hlow := lower_le_of_admits hpos h
  have hlower := lower_pos d.exponent
  by_contra hzero
  rw [Nat.eq_zero_of_not_pos hzero, Nat.mul_zero, Nat.zero_mul] at hlow
  omega

/-- Ten is greater than eight, so each of its powers counts for three bits. -/
theorem two_pow_le_ten_pow (k : Nat) : 2 ^ (3 * k) ≤ 10 ^ k := by
  rw [Nat.pow_mul]
  exact Nat.pow_le_pow_left (by decide) k

/-- The exponent of an admitted decimal is in the range where its value is rounded at all. -/
theorem exponent_of_admits (hpos : 0 < x.magnitude) (h : x.admits d = true)
    (hexponent : d.exponent < 0) : -400 ≤ d.exponent + (d.digits.log2 : Int) := by
  obtain ⟨t, ht, hone⟩ := unitsPerOne_eq
  obtain ⟨k, hk⟩ : ∃ k : Nat, d.exponent = -(k : Int) := ⟨d.exponent.natAbs, by omega⟩
  have hlow := lower_le_of_admits hpos h
  have hlower : Decimal.lower d.exponent = 10 ^ k := by simp [hk, Decimal.lower]
  rw [hlower, raise_of_nonpos hexponent.le, hone, Nat.mul_one] at hlow
  by_contra hfar
  have hdigits : d.digits < 2 ^ (d.digits.log2 + 1) := Nat.lt_log2_self
  have hupper : 2 * 2 ^ t * d.digits < 2 ^ (d.digits.log2 + 1 + t + 1) := by
    calc 2 * 2 ^ t * d.digits < 2 * 2 ^ t * 2 ^ (d.digits.log2 + 1) :=
          Nat.mul_lt_mul_of_pos_left hdigits (Nat.mul_pos (by decide) (Nat.two_pow_pos t))
      _ = 2 ^ (d.digits.log2 + 1 + t + 1) := by ring
  have hpow := (Nat.pow_lt_pow_iff_right (by decide)).1
    (Nat.lt_of_le_of_lt (Nat.le_trans (two_pow_le_ten_pow k) hlow) hupper)
  omega

/-- **A decimal that a number admits is read as this number.** Of a decimal without fraction the
digits are read with the zeros that its exponent stands for. -/
theorem ofDecimal_of_admits (hx : x.isFinite = true) (hpos : 0 < x.magnitude)
    (h : x.admits d = true) :
    ofDecimal x.negative (d.digits * 10 ^ d.exponent.toNat) (min d.exponent 0) = x := by
  have hrounded := nearestUnits_eq_self hx (lower_pos _) (roundedUnits_of_admits hx hpos h)
  have hdigits := digits_pos_of_admits hpos h
  have hwritten : d.digits * 10 ^ d.exponent.toNat ≠ 0 :=
    (Nat.mul_pos hdigits (Nat.pow_pos (by decide))).ne'
  unfold ofDecimal
  rw [if_neg hwritten, if_neg (by omega)]
  rcases Int.lt_or_le d.exponent 0 with hneg | hnonneg
  · have hmin : min d.exponent 0 = d.exponent := by omega
    have hzero : d.exponent.toNat = 0 := by omega
    have hrange := exponent_of_admits hpos h hneg
    rw [hmin, hzero, Nat.pow_zero, Nat.mul_one, if_pos hneg, if_neg (by omega)]
    have hlower : Decimal.lower d.exponent = Nat.pow 10 d.exponent.natAbs := by
      rw [Decimal.lower, show (-d.exponent).toNat = d.exponent.natAbs by omega]
    rw [raise_of_nonpos hneg.le, hlower, Nat.mul_one, Nat.mul_comm] at hrounded
    exact hrounded
  · have hmin : min d.exponent 0 = 0 := by omega
    rw [hmin, if_neg (by decide)]
    rw [lower_of_nonneg hnonneg, Nat.mul_assoc, Nat.mul_comm] at hrounded
    simpa [nearest, Decimal.raise] using hrounded

/-- **The shortest decimal of a finite number is read as this number.** -/
theorem ofDecimal_shortest (tie : Tie) (hx : x.isFinite = true) :
    ofDecimal x.negative
      ((x.shortest tie).digits * 10 ^ (x.shortest tie).exponent.toNat)
      (min (x.shortest tie).exponent 0) = x := by
  rcases Nat.eq_zero_or_pos x.magnitude with hzero | hpos
  · have hself : zero x.negative = x := by
      have h := ofMagnitude_magnitude hx
      rw [hzero] at h
      exact h
    simpa [shortest, hzero, ofDecimal] using hself
  · exact ofDecimal_of_admits hx hpos (admits_shortest tie hpos)

end ScenarioRunner.Binary64

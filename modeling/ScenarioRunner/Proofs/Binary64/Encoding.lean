import Mathlib.Tactic.Ring
import ScenarioRunner.Binary64.Basic

/-!
# The encoding of finite numbers

A finite number is determined by its sign and its magnitude (`ofMagnitude_magnitude`), and every
magnitude with a significand of at most 53 bits and a scale in range is that of a finite number
(`magnitude_ofMagnitude`).
-/

set_option autoImplicit false

namespace ScenarioRunner.Binary64

/-! ## Fields -/

section Fields

variable {exponent fraction : Nat}

theorem toNat_bits_ofFields (negative : Bool) (hexponent : exponent < 2048)
    (hfraction : fraction < exponentWeight) :
    (ofFields negative exponent fraction).bits.toNat =
      (if negative then signWeight else 0) + exponent * exponentWeight + fraction := by
  unfold exponentWeight at *
  rw [ofFields, UInt64.toNat_ofNat']
  apply Nat.mod_eq_of_lt
  cases negative <;> simp [signWeight, exponentWeight] <;> omega

theorem negative_ofFields (negative : Bool) (hexponent : exponent < 2048)
    (hfraction : fraction < exponentWeight) :
    (ofFields negative exponent fraction).negative = negative := by
  unfold Binary64.negative
  rw [toNat_bits_ofFields negative hexponent hfraction]
  unfold exponentWeight at *
  cases negative <;> simp [signWeight] <;> omega

theorem exponentField_ofFields (negative : Bool) (hexponent : exponent < 2048)
    (hfraction : fraction < exponentWeight) :
    (ofFields negative exponent fraction).exponentField = exponent := by
  unfold exponentField
  rw [toNat_bits_ofFields negative hexponent hfraction]
  unfold exponentWeight at *
  cases negative <;> simp [signWeight] <;> omega

theorem fractionField_ofFields (negative : Bool) (hexponent : exponent < 2048)
    (hfraction : fraction < exponentWeight) :
    (ofFields negative exponent fraction).fractionField = fraction := by
  unfold fractionField
  rw [toNat_bits_ofFields negative hexponent hfraction]
  unfold exponentWeight at *
  cases negative <;> simp [signWeight] <;> omega

end Fields

variable (x : Binary64)

theorem exponentField_lt : x.exponentField < 2048 := Nat.mod_lt _ (by decide)

theorem fractionField_lt : x.fractionField < exponentWeight := Nat.mod_lt _ (by decide)

/-- The three fields are all of a number. -/
theorem ofFields_fields : ofFields x.negative x.exponentField x.fractionField = x := by
  have hbits := x.bits.toNat_lt
  have hnat : (ofFields x.negative x.exponentField x.fractionField).bits.toNat = x.bits.toNat := by
    rw [toNat_bits_ofFields _ x.exponentField_lt x.fractionField_lt]
    unfold exponentField fractionField Binary64.negative signWeight exponentWeight
    by_cases hsign : 0x8000000000000000 ≤ x.bits.toNat <;> simp only [hsign] <;> simp <;> omega
  rcases x with ⟨bits⟩
  exact congrArg Binary64.mk (UInt64.toNat_inj.1 hnat)

/-! ## Significand and scale -/

/-- What the fields of a finite number can hold: a significand of at most 53 bits, all of them
used unless the scale is the least one. -/
structure Encodes (significand scale : Nat) : Prop where
  lt : significand < 2 * exponentWeight
  normal : exponentWeight ≤ significand ∨ scale = 0
  le : scale ≤ 2045

theorem magnitude_eq : x.magnitude = x.significand * 2 ^ x.scale := rfl

variable {x}

theorem encodes (hx : x.isFinite = true) : Encodes x.significand x.scale := by
  have hexponent := x.exponentField_lt
  have hfraction := x.fractionField_lt
  have hfinite : x.exponentField ≠ 2047 := by simpa [isFinite] using hx
  unfold significand scale
  refine ⟨?_, ?_, ?_⟩
  · split <;> omega
  · by_cases h : x.exponentField = 0
    · exact .inr (by omega)
    · rw [if_neg h]
      exact .inl (by omega)
  · omega

section Encodes

variable {m s : Nat}

theorem log2_of_normal (hlow : exponentWeight ≤ m) (hhigh : m < 2 * exponentWeight) :
    (m * 2 ^ s).log2 = s + 52 := by
  have hpos : m * 2 ^ s ≠ 0 := by
    have hm : 0 < m := Nat.lt_of_lt_of_le (by decide) hlow
    exact (Nat.mul_pos hm (Nat.two_pow_pos s)).ne'
  rw [Nat.log2_eq_iff hpos]
  have hlower : 2 ^ (s + 52) = exponentWeight * 2 ^ s := by
    rw [Nat.pow_add, Nat.mul_comm]; rfl
  have hupper : 2 ^ (s + 52 + 1) = 2 * exponentWeight * 2 ^ s := by
    rw [Nat.pow_succ, hlower]; ring
  rw [hlower, hupper]
  exact ⟨Nat.mul_le_mul_right _ hlow, Nat.mul_lt_mul_of_pos_right hhigh (Nat.two_pow_pos s)⟩

/-- The fields of the number of an encodable magnitude. -/
theorem ofMagnitude_eq (h : Encodes m s) (negative : Bool) :
    ofMagnitude negative (m * 2 ^ s) =
      if m < exponentWeight then ofFields negative 0 m
      else ofFields negative (s + 1) (m - exponentWeight) := by
  unfold ofMagnitude
  by_cases hm : m < exponentWeight
  · have hs : s = 0 := h.normal.resolve_left (Nat.not_le.2 hm)
    subst hs
    rw [Nat.pow_zero, Nat.mul_one, if_pos hm, if_pos hm]
  · have hlow := Nat.le_of_not_lt hm
    have hlarge : ¬m * 2 ^ s < exponentWeight :=
      Nat.not_lt.2 (Nat.le_trans hlow (Nat.le_mul_of_pos_right m (Nat.two_pow_pos s)))
    rw [if_neg hlarge, if_neg hm]
    simp only [log2_of_normal hlow h.lt, Nat.add_sub_cancel, Nat.pow_eq]
    rw [Nat.mul_div_cancel _ (Nat.two_pow_pos s)]

theorem negative_ofMagnitude (h : Encodes m s) (negative : Bool) :
    (ofMagnitude negative (m * 2 ^ s)).negative = negative := by
  have hlt := h.lt
  have hle := h.le
  rw [ofMagnitude_eq h]
  split
  · exact negative_ofFields negative (by decide) (by omega)
  · exact negative_ofFields negative (by omega) (by omega)

theorem isFinite_ofMagnitude (h : Encodes m s) (negative : Bool) :
    (ofMagnitude negative (m * 2 ^ s)).isFinite = true := by
  have hlt := h.lt
  have hle := h.le
  rw [ofMagnitude_eq h, isFinite]
  split
  · rw [exponentField_ofFields negative (by decide) (by omega)]
    rfl
  · rw [exponentField_ofFields negative (by omega) (by omega), bne_iff_ne]
    omega

/-- An encodable magnitude is that of its number. -/
theorem magnitude_ofMagnitude (h : Encodes m s) (negative : Bool) :
    (ofMagnitude negative (m * 2 ^ s)).magnitude = m * 2 ^ s := by
  have hlt := h.lt
  have hle := h.le
  rw [ofMagnitude_eq h]
  split
  · next hm =>
      have hs : s = 0 := h.normal.resolve_left (Nat.not_le.2 hm)
      subst hs
      simp [magnitude, significand, scale, exponentField_ofFields negative _ hm,
        fractionField_ofFields negative _ hm]
  · next hm =>
      have hfraction : m - exponentWeight < exponentWeight := by omega
      have hexponent : s + 1 < 2048 := by omega
      simp only [magnitude, significand, scale,
        exponentField_ofFields negative hexponent hfraction,
        fractionField_ofFields negative hexponent hfraction]
      rw [if_neg (Nat.succ_ne_zero s), Nat.add_sub_cancel, Nat.add_sub_cancel' (by omega)]
      rfl

end Encodes

/-- **A finite number is the one with its sign and its magnitude.** -/
theorem ofMagnitude_magnitude (hx : x.isFinite = true) :
    ofMagnitude x.negative x.magnitude = x := by
  have hfraction := x.fractionField_lt
  rw [magnitude_eq, ofMagnitude_eq (encodes hx)]
  conv_rhs => rw [← x.ofFields_fields]
  unfold significand scale
  by_cases hexponent : x.exponentField = 0
  · rw [if_pos hexponent, if_pos hfraction, hexponent]
  · rw [if_neg hexponent, if_neg (by omega), Nat.add_sub_cancel_left,
      Nat.sub_add_cancel (Nat.one_le_iff_ne_zero.2 hexponent)]

/-- Finite numbers with the same sign and the same magnitude are the same. -/
theorem eq_of_magnitude_eq {y : Binary64} (hx : x.isFinite = true) (hy : y.isFinite = true)
    (hnegative : x.negative = y.negative) (hmagnitude : x.magnitude = y.magnitude) : x = y := by
  rw [← ofMagnitude_magnitude hx, hnegative, hmagnitude, ofMagnitude_magnitude hy]

end ScenarioRunner.Binary64

import Mathlib.Tactic.Linarith
import ScenarioRunner.Binary64.Round
import ScenarioRunner.Proofs.Binary64.Encoding

/-!
# Rounding to the nearest number

`roundedUnits` is the magnitude that `Binary64.nearestUnits` gives to a fraction. It keeps the order
between a fraction and the representable magnitudes (`roundedUnits_le`, `le_roundedUnits`), so a
representable fraction is kept (`roundedUnits_of_representable`), no other magnitude is nearer to the
fraction (`roundedUnits_nearest`), and every fraction of the interval around a number rounds to this number
(`roundedUnits_of_between`).
-/

set_option autoImplicit false

namespace ScenarioRunner

/-! ## Integers next to a fraction -/

section RoundHalfEven

variable {num den m : Nat}

theorem roundHalfEven_eq (num den : Nat) :
    roundHalfEven num den =
      if 2 * (num % den) < den then num / den
      else if den < 2 * (num % den) then num / den + 1
      else if num / den % 2 = 0 then num / den else num / den + 1 := rfl

/-- An integer at most half a unit away is the rounded one; at a distance of one half it has to be
even. -/
theorem roundHalfEven_of_near (hlow : 2 * (m * den) ≤ 2 * num + den)
    (hhigh : 2 * num ≤ 2 * (m * den) + den) (hden : 0 < den)
    (htie : m % 2 = 0 ∨ 2 * (m * den) < 2 * num + den ∧ 2 * num < 2 * (m * den) + den) :
    roundHalfEven num den = m := by
  have hdiv := Nat.div_add_mod num den
  have hmod := Nat.mod_lt num hden
  rw [roundHalfEven_eq]
  rw [Nat.mul_comm] at hdiv
  generalize num / den = q at *
  generalize num % den = r at *
  -- only the two integers next to the fraction are near enough
  have hside : m = q ∨ m = q + 1 := by
    rcases Nat.lt_trichotomy m q with hlt | heq | hgt
    · have h := Nat.mul_le_mul_right den (Nat.succ_le_of_lt hlt)
      rw [Nat.succ_mul] at h
      omega
    · exact .inl heq
    · rcases Nat.lt_or_ge (q + 1) m with hgt' | hle
      · have h := Nat.mul_le_mul_right den (Nat.succ_le_of_lt hgt')
        rw [Nat.succ_mul, Nat.succ_mul] at h
        omega
      · exact .inr (by omega)
  rcases hside with rfl | rfl
  · split
    · rfl
    · rw [if_neg (by omega), if_pos (by omega)]
  · have hsucc := Nat.add_one_mul q den
    rw [if_neg (by omega)]
    split
    · rfl
    · rw [if_neg (by omega)]

theorem roundHalfEven_le (h : num ≤ m * den) (hden : 0 < den) : roundHalfEven num den ≤ m := by
  have hquotient : num / den ≤ m := Nat.div_le_of_le_mul (by rwa [Nat.mul_comm])
  have hdiv := Nat.div_add_mod num den
  rw [Nat.mul_comm] at hdiv
  rw [roundHalfEven_eq]
  rcases Nat.lt_or_eq_of_le hquotient with hlt | heq
  · split
    · omega
    · split
      · omega
      · split <;> omega
  · -- the fraction is the integer itself
    rw [heq] at hdiv ⊢
    rw [if_pos (by omega)]

theorem le_roundHalfEven (h : m * den ≤ num) (hden : 0 < den) : m ≤ roundHalfEven num den := by
  have hquotient : m ≤ num / den := (Nat.le_div_iff_mul_le hden).2 h
  rw [roundHalfEven_eq]
  split
  · omega
  · split
    · omega
    · split <;> omega

/-- No integer is nearer to the fraction than the rounded one. -/
theorem roundHalfEven_nearest (num m : Nat) (hden : 0 < den) :
    ((num : Int) - (roundHalfEven num den * den : Nat)).natAbs ≤
      ((num : Int) - (m * den : Nat)).natAbs := by
  have hdiv := Nat.div_add_mod num den
  have hmod := Nat.mod_lt num hden
  rw [Nat.mul_comm] at hdiv
  rw [roundHalfEven_eq]
  generalize num / den = q at *
  generalize num % den = r at *
  have hsucc := Nat.add_one_mul q den
  -- every integer is on one of the two sides of the fraction
  have hside : m * den ≤ q * den ∨ (q + 1) * den ≤ m * den := by
    rcases Nat.lt_or_ge q m with hlt | hge
    · exact .inr (Nat.mul_le_mul_right den hlt)
    · exact .inl (Nat.mul_le_mul_right den hge)
  split
  · omega
  · split
    · omega
    · split <;> omega

end RoundHalfEven

namespace Binary64

/-! ## The scale of a rounded fraction -/

/-- The scale at which a fraction is rounded. -/
def roundingScale (num den : Nat) : Nat := (num / den).log2 - 52

/-- The significand, before a carry, that a fraction is rounded to. -/
def roundedSignificand (num den : Nat) : Nat :=
  roundHalfEven num (den * 2 ^ roundingScale num den)

/-- The magnitude that a fraction is rounded to. -/
def roundedUnits (num den : Nat) : Nat :=
  roundedSignificand num den * 2 ^ roundingScale num den

theorem nearestUnits_eq (negative : Bool) (num den : Nat) :
    nearestUnits negative num den =
      if roundedUnits num den < infiniteMagnitude then ofMagnitude negative (roundedUnits num den)
      else infinity negative := rfl

/-- The scale of the binade of a magnitude. -/
def IsScaleOf (q s : Nat) : Prop :=
  q < 2 * exponentWeight * 2 ^ s ∧ (s = 0 ∨ exponentWeight * 2 ^ s ≤ q)

theorem two_mul_exponentWeight_mul (s : Nat) : 2 * exponentWeight * 2 ^ s = 2 ^ (s + 53) := by
  rw [Nat.pow_add, Nat.mul_comm]
  rfl

theorem exponentWeight_mul (s : Nat) : exponentWeight * 2 ^ s = 2 ^ (s + 52) := by
  rw [Nat.pow_add, Nat.mul_comm]
  rfl

theorem isScaleOf_log2 (q : Nat) : IsScaleOf q (q.log2 - 52) := by
  unfold IsScaleOf
  rw [two_mul_exponentWeight_mul, exponentWeight_mul]
  constructor
  · exact Nat.lt_of_lt_of_le Nat.lt_log2_self (Nat.pow_le_pow_right (by decide) (by omega))
  · by_cases hsmall : q.log2 ≤ 52
    · exact .inl (by omega)
    · have hq : q ≠ 0 := by
        rintro rfl
        exact hsmall (by decide)
      have hlog : q.log2 - 52 + 52 = q.log2 := by omega
      rw [hlog]
      exact .inr (Nat.log2_self_le hq)

theorem IsScaleOf.le {q s t : Nat} (hs : IsScaleOf q s) (ht : IsScaleOf q t) : s ≤ t := by
  rcases hs.2 with rfl | hlow
  · exact Nat.zero_le t
  · have hlt : 2 ^ (s + 52) < 2 ^ (t + 53) := by
      rw [← exponentWeight_mul, ← two_mul_exponentWeight_mul]
      exact Nat.lt_of_le_of_lt hlow ht.1
    have := (Nat.pow_lt_pow_iff_right (by decide)).1 hlt
    omega

theorem roundingScale_eq {num den s : Nat} (h : IsScaleOf (num / den) s) :
    roundingScale num den = s :=
  Nat.le_antisymm ((isScaleOf_log2 _).le h) (h.le (isScaleOf_log2 _))

section Rounding

variable {num den : Nat}

theorem lt_of_roundingScale (num : Nat) (hden : 0 < den) :
    num < 2 * exponentWeight * (den * 2 ^ roundingScale num den) := by
  have h := (Nat.div_lt_iff_lt_mul hden).1 (isScaleOf_log2 (num / den)).1
  calc num < 2 * exponentWeight * 2 ^ roundingScale num den * den := h
    _ = 2 * exponentWeight * (den * 2 ^ roundingScale num den) := by ring

theorem le_of_roundingScale (num : Nat) (hden : 0 < den) :
    roundingScale num den = 0 ∨ exponentWeight * (den * 2 ^ roundingScale num den) ≤ num := by
  rcases (isScaleOf_log2 (num / den)).2 with h | h
  · exact .inl h
  · refine .inr ?_
    calc exponentWeight * (den * 2 ^ roundingScale num den)
        = exponentWeight * 2 ^ roundingScale num den * den := by ring
      _ ≤ num := (Nat.le_div_iff_mul_le hden).1 h

theorem roundedSignificand_le (num : Nat) (hden : 0 < den) :
    roundedSignificand num den ≤ 2 * exponentWeight :=
  roundHalfEven_le (Nat.le_of_lt (lt_of_roundingScale num hden))
    (Nat.mul_pos hden (Nat.two_pow_pos _))

theorem le_roundedSignificand (num : Nat) (hden : 0 < den) :
    exponentWeight ≤ roundedSignificand num den ∨ roundingScale num den = 0 := by
  rcases le_of_roundingScale num hden with h | h
  · exact .inr h
  · exact .inl (le_roundHalfEven h (Nat.mul_pos hden (Nat.two_pow_pos _)))

/-! ## Representable magnitudes -/

theorem lt_of_pow_lt_infiniteMagnitude {k : Nat} (h : 2 ^ k < infiniteMagnitude) : k < 2098 := by
  have hpow : ∀ n, 2 ^ k < Nat.pow 2 n → k < n := fun n h =>
    (Nat.pow_lt_pow_iff_right (by decide)).1 h
  unfold infiniteMagnitude at h
  exact hpow 2098 h

/-- Whether a magnitude is that of a finite number. -/
def Representable (units : Nat) : Prop := ∃ m s, Encodes m s ∧ m * 2 ^ s = units

theorem representable_magnitude {x : Binary64} (hx : x.isFinite = true) :
    Representable x.magnitude := ⟨x.significand, x.scale, encodes hx, rfl⟩

/-- A rounded magnitude below the infinities is representable; a carry moves the significand to the
next scale. -/
theorem representable_roundedUnits (hden : 0 < den)
    (hlt : roundedUnits num den < infiniteMagnitude) : Representable (roundedUnits num den) := by
  have hle := roundedSignificand_le num hden
  have hnormal := le_roundedSignificand num hden
  unfold roundedUnits at *
  generalize roundedSignificand num den = r at *
  generalize roundingScale num den = s at *
  rcases Nat.lt_or_eq_of_le hle with hr | rfl
  · refine ⟨r, s, ⟨hr, hnormal, ?_⟩, rfl⟩
    rcases hnormal with hlow | rfl
    · have hpow : 2 ^ (s + 52) < infiniteMagnitude := by
        rw [← exponentWeight_mul]
        exact Nat.lt_of_le_of_lt (Nat.mul_le_mul_right _ hlow) hlt
      have := lt_of_pow_lt_infiniteMagnitude hpow
      omega
    · exact Nat.zero_le _
  · have hcarry : exponentWeight * 2 ^ (s + 1) = 2 * exponentWeight * 2 ^ s := by ring
    refine ⟨exponentWeight, s + 1, ⟨by decide, .inl (Nat.le_refl _), ?_⟩, hcarry⟩
    rw [two_mul_exponentWeight_mul] at hlt
    have := lt_of_pow_lt_infiniteMagnitude hlt
    omega

/-- A multiple of a power of two is representable if it is small enough for this scale. -/
theorem representable_of_dvd {units t : Nat} (hdvd : 2 ^ t ∣ units)
    (hlt : units < 2 * exponentWeight * 2 ^ t) (ht : t ≤ 2045) : Representable units := by
  have hscale := isScaleOf_log2 units
  generalize units.log2 - 52 = s at hscale
  have hst : s ≤ t := by
    rcases hscale.2 with rfl | hlow
    · exact Nat.zero_le t
    · have hpow : 2 ^ (s + 52) < 2 ^ (t + 53) := by
        rw [← exponentWeight_mul, ← two_mul_exponentWeight_mul]
        exact Nat.lt_of_le_of_lt hlow hlt
      have := (Nat.pow_lt_pow_iff_right (by decide)).1 hpow
      omega
  obtain ⟨m, rfl⟩ := Nat.dvd_trans (Nat.pow_dvd_pow 2 hst) hdvd
  rw [Nat.mul_comm] at hscale ⊢
  refine ⟨m, s, ⟨?_, ?_, by omega⟩, rfl⟩
  · exact Nat.lt_of_mul_lt_mul_right hscale.1
  · rcases hscale.2 with h | h
    · exact .inr h
    · exact .inl (Nat.le_of_mul_le_mul_right h (Nat.two_pow_pos s))

/-! ## Order -/

variable {units : Nat}

/-- A representable magnitude on a finer grid than that of the fraction is below the fraction. -/
theorem lt_of_scale_lt {m t s : Nat} (h : Encodes m t) (hts : t < s) :
    m * 2 ^ t < exponentWeight * 2 ^ s := by
  have hfirst : m * 2 ^ t < 2 * exponentWeight * 2 ^ t :=
    Nat.mul_lt_mul_of_pos_right h.lt (Nat.two_pow_pos t)
  have hsecond : 2 * exponentWeight * 2 ^ t ≤ exponentWeight * 2 ^ s := by
    rw [two_mul_exponentWeight_mul, exponentWeight_mul]
    exact Nat.pow_le_pow_right (by decide) (by omega)
  exact Nat.lt_of_lt_of_le hfirst hsecond

theorem mul_eq_of_scale_le {m t s : Nat} (hst : s ≤ t) :
    m * 2 ^ t = m * 2 ^ (t - s) * 2 ^ s := by
  rw [Nat.mul_assoc, ← Nat.pow_add, Nat.sub_add_cancel hst]

/-- What is at most a representable magnitude is rounded to at most this magnitude. -/
theorem roundedUnits_le (hunits : Representable units) (h : num ≤ units * den) (hden : 0 < den) :
    roundedUnits num den ≤ units := by
  obtain ⟨m, t, hm, rfl⟩ := hunits
  have hD : 0 < den * 2 ^ roundingScale num den := Nat.mul_pos hden (Nat.two_pow_pos _)
  rcases Nat.lt_or_ge t (roundingScale num den) with hts | hst
  · -- then the fraction is above the magnitude
    exfalso
    have hlow := (le_of_roundingScale num hden).resolve_left (by omega)
    have hlt := Nat.mul_lt_mul_of_pos_right (lt_of_scale_lt hm hts) hden
    have hcomm : exponentWeight * (den * 2 ^ roundingScale num den) =
        exponentWeight * 2 ^ roundingScale num den * den := by ring
    omega
  · rw [mul_eq_of_scale_le hst] at h ⊢
    refine Nat.mul_le_mul_right _ (roundHalfEven_le ?_ hD)
    calc num ≤ m * 2 ^ (t - roundingScale num den) * 2 ^ roundingScale num den * den := h
      _ = m * 2 ^ (t - roundingScale num den) * (den * 2 ^ roundingScale num den) := by ring

/-- What is at least a representable magnitude is rounded to at least this magnitude. -/
theorem le_roundedUnits (hunits : Representable units) (h : units * den ≤ num) (hden : 0 < den) :
    units ≤ roundedUnits num den := by
  obtain ⟨m, t, hm, rfl⟩ := hunits
  have hD : 0 < den * 2 ^ roundingScale num den := Nat.mul_pos hden (Nat.two_pow_pos _)
  rcases Nat.lt_or_ge t (roundingScale num den) with hts | hst
  · have hlow := (le_roundedSignificand num hden).resolve_right (by omega)
    exact Nat.le_trans (Nat.le_of_lt (lt_of_scale_lt hm hts)) (Nat.mul_le_mul_right _ hlow)
  · rw [mul_eq_of_scale_le hst] at h ⊢
    refine Nat.mul_le_mul_right _ (le_roundHalfEven ?_ hD)
    calc m * 2 ^ (t - roundingScale num den) * (den * 2 ^ roundingScale num den)
        = m * 2 ^ (t - roundingScale num den) * 2 ^ roundingScale num den * den := by ring
      _ ≤ num := h

/-- A representable magnitude is kept. -/
theorem roundedUnits_of_representable (hunits : Representable units) (h : num = units * den)
    (hden : 0 < den) : roundedUnits num den = units :=
  Nat.le_antisymm (roundedUnits_le hunits h.le hden) (le_roundedUnits hunits h.ge hden)

/-- **No representable magnitude is nearer to a fraction than the one it is rounded to.** -/
theorem roundedUnits_nearest (num : Nat) (hunits : Representable units) (hden : 0 < den) :
    ((num : Int) - (roundedUnits num den * den : Nat)).natAbs ≤
      ((num : Int) - (units * den : Nat)).natAbs := by
  obtain ⟨m, t, hm, rfl⟩ := hunits
  have hD : 0 < den * 2 ^ roundingScale num den := Nat.mul_pos hden (Nat.two_pow_pos _)
  have hcomm : ∀ k, k * (den * 2 ^ roundingScale num den) =
      k * 2 ^ roundingScale num den * den := fun k => by ring
  have hgrid : ∀ k, ((num : Int) - (roundedUnits num den * den : Nat)).natAbs ≤
      ((num : Int) - (k * 2 ^ roundingScale num den * den : Nat)).natAbs := by
    intro k
    have h := roundHalfEven_nearest num k hD
    rw [hcomm, hcomm] at h
    exact h
  rcases Nat.lt_or_ge t (roundingScale num den) with hts | hst
  · -- the least magnitude of the binade is between such a magnitude and the fraction
    have hlow := (le_of_roundingScale num hden).resolve_left (by omega)
    have hlt := Nat.mul_lt_mul_of_pos_right (lt_of_scale_lt hm hts) hden
    refine Nat.le_trans (hgrid exponentWeight) ?_
    rw [hcomm] at hlow
    omega
  · rw [mul_eq_of_scale_le hst]
    exact hgrid _

/-! ## The numbers that fractions round to -/

/-- The number nearest to a fraction that is not too great. -/
theorem nearestUnits_of_lt (negative : Bool) (hden : 0 < den)
    (hlt : roundedUnits num den < infiniteMagnitude) :
    (nearestUnits negative num den).isFinite = true ∧
      (nearestUnits negative num den).negative = negative ∧
      (nearestUnits negative num den).magnitude = roundedUnits num den := by
  obtain ⟨m, s, hm, hunits⟩ := representable_roundedUnits hden hlt
  rw [nearestUnits_eq, if_pos hlt, ← hunits]
  exact ⟨isFinite_ofMagnitude hm negative, negative_ofMagnitude hm negative,
    magnitude_ofMagnitude hm negative⟩

/-- A fraction that is rounded to a finite number is rounded to less than the infinities. -/
theorem roundedUnits_lt_of_isFinite {negative : Bool}
    (h : (nearestUnits negative num den).isFinite = true) :
    roundedUnits num den < infiniteMagnitude := by
  by_contra hge
  rw [nearestUnits_eq, if_neg hge] at h
  cases negative
  · exact absurd h (by decide)
  · exact absurd h (by decide)

theorem lt_infiniteMagnitude (hunits : Representable units) : units < infiniteMagnitude := by
  obtain ⟨m, s, hm, rfl⟩ := hunits
  have hlt := Nat.mul_lt_mul_of_pos_right hm.lt (Nat.two_pow_pos s)
  rw [two_mul_exponentWeight_mul] at hlt
  have hpow : ∀ n, s + 53 ≤ n → m * 2 ^ s < Nat.pow 2 n := fun n hn =>
    Nat.lt_of_lt_of_le hlt (Nat.pow_le_pow_right (by decide) hn)
  unfold infiniteMagnitude
  apply hpow
  exact Nat.add_le_add_right hm.le 53

/-- A fraction that rounds to the magnitude of a finite number rounds to this number. -/
theorem nearestUnits_eq_self {x : Binary64} (hx : x.isFinite = true) (hden : 0 < den)
    (h : roundedUnits num den = x.magnitude) : nearestUnits x.negative num den = x := by
  have hlt : roundedUnits num den < infiniteMagnitude := by
    rw [h]
    exact lt_infiniteMagnitude (representable_magnitude hx)
  obtain ⟨hfinite, hnegative, hmagnitude⟩ := nearestUnits_of_lt x.negative hden hlt
  exact eq_of_magnitude_eq hfinite hx hnegative (hmagnitude.trans h)

/-! ## The interval around a number -/

/-- Four times the distance from a number to the lower end of its interval, in units of its last
place: half as far as above where the numbers below are twice as dense. -/
def lowerGap (m s : Nat) : Nat := if m = exponentWeight ∧ 0 < s then 1 else 2

theorem lowerGap_le (m s : Nat) : lowerGap m s ≤ 2 := by
  unfold lowerGap
  split <;> omega

/-- A fraction in the binade of a scale has this scale. -/
theorem roundingScale_of_binade {s : Nat} (hden : 0 < den)
    (hupper : num < 2 * exponentWeight * (den * 2 ^ s))
    (hlower : s = 0 ∨ exponentWeight * (den * 2 ^ s) ≤ num) : roundingScale num den = s := by
  have hcomm : ∀ c, c * 2 ^ s * den = c * (den * 2 ^ s) := fun c => by ring
  refine roundingScale_eq ⟨?_, ?_⟩
  · rw [Nat.div_lt_iff_lt_mul hden, hcomm]
    exact hupper
  · rw [Nat.le_div_iff_mul_le hden, hcomm]
    exact hlower

/-- A fraction just below a binade is rounded up to its first number. -/
theorem roundedUnits_of_just_below {t : Nat} (hden : 0 < den)
    (hlow : 4 * exponentWeight * (den * 2 ^ t) ≤ 2 * num + den * 2 ^ t)
    (hhigh : num < 2 * exponentWeight * (den * 2 ^ t)) :
    roundedUnits num den = exponentWeight * 2 ^ (t + 1) := by
  have hD : 0 < den * 2 ^ t := Nat.mul_pos hden (Nat.two_pow_pos t)
  have hscale : roundingScale num den = t := by
    refine roundingScale_of_binade hden hhigh (.inr ?_)
    unfold exponentWeight at *
    omega
  have hsignificand : roundedSignificand num den = 2 * exponentWeight := by
    unfold roundedSignificand
    rw [hscale]
    unfold exponentWeight at *
    exact roundHalfEven_of_near (by omega) (by omega) hD (.inl rfl)
  unfold roundedUnits
  rw [hscale, hsignificand]
  ring

section Between

variable {m s : Nat}

/-- A fraction of the interval stays below the next binade: the greatest significand is odd, so the
upper end of its interval does not belong to it. -/
theorem lt_of_between (hm : Encodes m s) (hden : 0 < den)
    (hhigh : 4 * num ≤ 4 * (m * (den * 2 ^ s)) + 2 * (den * 2 ^ s))
    (hend : m % 2 = 0 ∨ 4 * num < 4 * (m * (den * 2 ^ s)) + 2 * (den * 2 ^ s)) :
    num < 2 * exponentWeight * (den * 2 ^ s) := by
  have hD : 0 < den * 2 ^ s := Nat.mul_pos hden (Nat.two_pow_pos s)
  rcases Nat.lt_or_ge (m + 1) (2 * exponentWeight) with hlt | hge
  · have h := Nat.mul_le_mul_right (den * 2 ^ s) (Nat.succ_le_of_lt hlt)
    rw [Nat.succ_mul, Nat.succ_mul] at h
    omega
  · have hmax : m + 1 = 2 * exponentWeight := Nat.le_antisymm hm.lt hge
    have hstrict := hend.resolve_left (by omega)
    rw [← hmax, Nat.add_one_mul]
    omega

/-- A fraction of the interval that lies in the binade below is rounded up to the least significand of
its own binade. -/
theorem roundedUnits_of_between_below (hm : Encodes m s) (hden : 0 < den) (hs : s ≠ 0)
    (hlow : 4 * (m * (den * 2 ^ s)) ≤ 4 * num + lowerGap m s * (den * 2 ^ s))
    (hbelow : num < exponentWeight * (den * 2 ^ s)) : roundedUnits num den = m * 2 ^ s := by
  have hgap : lowerGap m s * (den * 2 ^ s) ≤ 2 * (den * 2 ^ s) :=
    Nat.mul_le_mul_right _ (lowerGap_le m s)
  have hleast : m = exponentWeight := by
    by_contra hne
    have hgreater : exponentWeight + 1 ≤ m := by
      have := hm.normal.resolve_right hs
      omega
    have h := Nat.mul_le_mul_right (den * 2 ^ s) hgreater
    rw [Nat.succ_mul] at h
    omega
  obtain ⟨t, rfl⟩ := Nat.exists_eq_succ_of_ne_zero hs
  have hdouble : den * 2 ^ t.succ = 2 * (den * 2 ^ t) := by
    rw [Nat.pow_succ]
    ring
  rw [hleast, lowerGap, if_pos ⟨rfl, Nat.succ_pos t⟩, hdouble] at hlow
  rw [hdouble] at hbelow
  rw [hleast]
  unfold exponentWeight at hlow hbelow
  exact roundedUnits_of_just_below hden (by unfold exponentWeight; omega)
    (by unfold exponentWeight; omega)

/-- **Every fraction between the ends of the interval around a magnitude is rounded to it.** The ends
themselves are if the significand is even. -/
theorem roundedUnits_of_between (hm : Encodes m s) (hden : 0 < den)
    (hlow : 4 * (m * (den * 2 ^ s)) ≤ 4 * num + lowerGap m s * (den * 2 ^ s))
    (hhigh : 4 * num ≤ 4 * (m * (den * 2 ^ s)) + 2 * (den * 2 ^ s))
    (hends : m % 2 = 0 ∨
      4 * (m * (den * 2 ^ s)) < 4 * num + lowerGap m s * (den * 2 ^ s) ∧
        4 * num < 4 * (m * (den * 2 ^ s)) + 2 * (den * 2 ^ s)) :
    roundedUnits num den = m * 2 ^ s := by
  have hD : 0 < den * 2 ^ s := Nat.mul_pos hden (Nat.two_pow_pos s)
  have hgap : lowerGap m s * (den * 2 ^ s) ≤ 2 * (den * 2 ^ s) :=
    Nat.mul_le_mul_right _ (lowerGap_le m s)
  have hupper := lt_of_between hm hden hhigh (hends.imp_right And.right)
  by_cases hbinade : s = 0 ∨ exponentWeight * (den * 2 ^ s) ≤ num
  · have hscale := roundingScale_of_binade hden hupper hbinade
    unfold roundedUnits roundedSignificand
    rw [hscale]
    congr 1
    refine roundHalfEven_of_near (by omega) (by omega) hD ?_
    rcases hends with heven | ⟨hlower, hhigher⟩
    · exact .inl heven
    · exact .inr ⟨by omega, by omega⟩
  · obtain ⟨hs, hbelow⟩ := not_or.1 hbinade
    exact roundedUnits_of_between_below hm hden hs hlow (Nat.lt_of_not_le hbelow)

end Between

end Rounding

end Binary64

end ScenarioRunner

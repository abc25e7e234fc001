import ScenarioRunner.Proofs.Decimal.Shortest
import ScenarioRunner.Proofs.Value.Literal

/-!
# Floats and their text

The text of a finite float is read as a number of the same value, with one exception
(`ofLiteral?_text`). An integer of the signed range is written exactly and all other floats in their
shortest digits, with zeros behind them. These digits round to the float, but from `2 ^ 63` on and
below `2 ^ 64` they are not rounded: they are read as an unsigned integer, which often is another one
than the float denotes.
-/

set_option autoImplicit false

namespace ScenarioRunner

open Literal

namespace Binary64

open Number (ofSign Fits)

/-- Whether a float denotes an integer that has the unsigned form only, and its text writes another
integer. -/
def WritesOtherInteger (x : Binary64) : Prop :=
  ∃ m n : Nat, x.whole? = some (m : Int) ∧ Value.signedBound ≤ m ∧ m < Value.unsignedBound ∧
    Literal.integer? x.text = some (false, n) ∧ n ≠ m

variable {x : Binary64} {negative : Bool} {n : Nat}

theorem whole?_of_toInt64? {m : Int64} (h : x.toInt64? = some m) :
    x.whole? = some m.toInt := by
  unfold toInt64? at h
  cases hwhole : x.whole? with
  | none =>
      rw [hwhole] at h
      cases h
  | some k =>
      rw [hwhole] at h
      dsimp only at h
      split at h
      · next hrange =>
          cases h
          rw [Int64.toInt_ofInt_of_le hrange.1 hrange.2]
      · cases h

theorem toInt64?_of_not_isFinite (hx : x.isFinite = false) : x.toInt64? = none := by
  rw [toInt64?, whole?_of_not_isFinite hx]

theorem not_int64_of_toInt64?_eq_none {m : Int} (hnone : x.toInt64? = none)
    (hwhole : x.whole? = some m) :
    ¬(-(Value.signedBound : Int) ≤ m ∧ m < (Value.signedBound : Int)) := by
  intro hrange
  rw [toInt64?, hwhole] at hnone
  dsimp only at hnone
  rw [if_pos hrange] at hnone
  cases hnone

/-- A finite float is the integer with its sign and the number of ones in its magnitude. -/
theorem whole?_of_magnitude (hx : x.isFinite = true) (h : x.magnitude = n * unitsPerOne) :
    x.whole? = some (ofSign x.negative n) := by
  rw [whole?_eq_some_iff hx, units_eq, h, Int.natCast_mul]
  unfold ofSign
  split
  · rw [Int.neg_mul]
  · rfl

theorem magnitude_pos_of_toInt64?_eq_none (hx : x.isFinite = true) (hnone : x.toInt64? = none) :
    0 < x.magnitude := by
  refine Nat.pos_of_ne_zero fun hzero => ?_
  have hwhole : x.whole? = some (ofSign x.negative 0) :=
    whole?_of_magnitude hx (by rw [hzero, Nat.zero_mul])
  refine not_int64_of_toInt64?_eq_none hnone hwhole ?_
  unfold ofSign
  split <;> decide

/-- Integers of the signed range are written as integers. -/
theorem text_of_toInt64? {k : Int64} (hx : x.isFinite = true) (hsome : x.toInt64? = some k) :
    x.text = Json.integer k.toInt := by
  unfold text
  rw [isNaN_of_isFinite hx, hsome]
  rfl

/-- Other finite floats than integers of the signed range are written in their shortest digits. -/
theorem text_of_toInt64?_eq_none (hx : x.isFinite = true) (hnone : x.toInt64? = none) :
    x.text = signed x.negative ((x.shortest .away).positional false) := by
  unfold text
  rw [isNaN_of_isFinite hx, hnone, hx]
  rfl

/-- The text of such a float is a literal of this float. -/
theorem parse?_text (hx : x.isFinite = true) (hnone : x.toInt64? = none) :
    ∃ literal, Literal.parse? x.text = some literal ∧ literal.toBinary64 = x := by
  rw [text_of_toInt64?_eq_none hx hnone, Decimal.parse?_positional]
  exact ⟨_, rfl, ofDecimal_shortest .away hx⟩

/-- An integer that the text of such a float writes rounds to this float. -/
theorem rounded_of_integer?_text (hx : x.isFinite = true) (hnone : x.toInt64? = none)
    (h : Literal.integer? x.text = some (negative, n)) :
    negative = x.negative ∧ roundedUnits (n * unitsPerOne) 1 = x.magnitude := by
  rw [text_of_toInt64?_eq_none hx hnone, Decimal.integer?_positional] at h
  split at h
  · next hexponent =>
      cases h
      have hpos := magnitude_pos_of_toInt64?_eq_none hx hnone
      have hround := roundedUnits_of_admits hx hpos (admits_shortest .away hpos)
      rw [lower_of_nonneg hexponent, Nat.mul_assoc, Nat.mul_comm] at hround
      exact ⟨rfl, hround⟩
  · cases h

/-- A float without the signed form whose text has no fraction is an integer. -/
theorem exists_whole (hx : x.isFinite = true) (hnone : x.toInt64? = none)
    (hround : roundedUnits (n * unitsPerOne) 1 = x.magnitude) :
    ∃ m, x.magnitude = m * unitsPerOne ∧
      (Value.signedBound < m ∨ m = Value.signedBound ∧ x.negative = false) := by
  have hwhole : ∃ m, x.magnitude = m * unitsPerOne := by
    rcases Nat.lt_or_ge n (2 * exponentWeight) with hsmall | hlarge
    · refine ⟨n, ?_⟩
      have hunits : Representable (n * unitsPerOne) := by
        simpa using representable_integer hsmall (Nat.zero_le 971)
      rw [← hround, roundedUnits_of_representable hunits (Nat.mul_one _).symm Nat.one_pos]
    · -- rounding keeps a greater integer where floats have no fraction
      have hunits : Representable (exponentWeight * 2 ^ 1 * unitsPerOne) :=
        representable_integer (by decide) (by decide)
      have hle : exponentWeight * 2 ^ 1 * unitsPerOne ≤ x.magnitude := by
        rw [← hround]
        refine le_roundedUnits hunits ?_ Nat.one_pos
        rw [Nat.mul_one]
        exact Nat.mul_le_mul_right _ (by omega)
      have hdvd := (dvd_or_lt hx).resolve_right
        (Nat.not_lt.2 (Nat.le_trans (Nat.mul_le_mul_right _ (by decide)) hle))
      obtain ⟨m, hm⟩ := hdvd
      exact ⟨m, by rw [hm, Nat.mul_comm]⟩
  obtain ⟨m, hm⟩ := hwhole
  refine ⟨m, hm, ?_⟩
  have hout := not_int64_of_toInt64?_eq_none hnone (whole?_of_magnitude hx hm)
  unfold ofSign Value.signedBound at *
  cases hsign : x.negative <;> simp [hsign] at hout ⊢ <;> omega

/-- The number of ones in a float is on the same side of a power of two as every integer that rounds
to the float. -/
theorem le_of_rounded {m k : Nat} (hm : x.magnitude = m * unitsPerOne)
    (hround : roundedUnits (n * unitsPerOne) 1 = x.magnitude) (hk : k ≤ 971) :
    (n ≤ 2 ^ k → m ≤ 2 ^ k) ∧ (2 ^ k ≤ n → 2 ^ k ≤ m) := by
  have hunits : Representable (2 ^ k * unitsPerOne) := by
    simpa using representable_integer (n := 1) (by decide) hk
  constructor
  · intro hle
    refine Nat.le_of_mul_le_mul_right ?_ unitsPerOne_pos
    rw [← hm, ← hround]
    refine roundedUnits_le hunits ?_ Nat.one_pos
    rw [Nat.mul_one]
    exact Nat.mul_le_mul_right _ hle
  · intro hle
    refine Nat.le_of_mul_le_mul_right ?_ unitsPerOne_pos
    rw [← hm, ← hround]
    refine le_roundedUnits hunits ?_ Nat.one_pos
    rw [Nat.mul_one]
    exact Nat.mul_le_mul_right _ hle

/-- The first float above the unsigned range is written in digits that are out of this range too. -/
theorem integer?_text_two_pow_64 (hx : x.isFinite = true) (hsign : x.negative = false)
    (hm : x.magnitude = Value.unsignedBound * unitsPerOne) :
    Literal.integer? x.text = some (false, 18446744073709552000) := by
  have hself : x = ⟨0x43F0000000000000⟩ :=
    eq_of_magnitude_eq hx (by decide +kernel) (hsign.trans (by decide +kernel))
      (hm.trans (by decide +kernel))
  rw [hself]
  decide +kernel

/-- A float that is written as a signed integer is read as this integer. -/
theorem ofLiteral?_text_of_toInt64? {k : Int64} (hx : x.isFinite = true)
    (hsome : x.toInt64? = some k) :
    ∃ a, Number.ofLiteral? x.text = some a ∧ a.Finite ∧ x.units = a.units := by
  have hlow := k.le_toInt
  have hhigh := k.toInt_lt
  obtain ⟨a, hread, hfinite, hunits⟩ := Number.ofLiteral?_integer (n := k.toInt)
    (by unfold Value.signedBound; omega) (by unfold Value.unsignedBound; omega)
  refine ⟨a, by rw [text_of_toInt64? hx hsome, hread], hfinite, ?_⟩
  rw [hunits, (whole?_eq_some_iff hx).1 (whole?_of_toInt64? hsome)]

/-- A negative float without the signed form writes an integer that has no 64-bit form either. -/
theorem not_fits_of_negative (hx : x.isFinite = true) (hnone : x.toInt64? = none)
    (hinteger : Literal.integer? x.text = some (true, n)) : ¬Fits true n := by
  obtain ⟨hsign, hround⟩ := rounded_of_integer?_text hx hnone hinteger
  obtain ⟨m, hm, hout⟩ := exists_whole hx hnone hround
  have hgreater : Value.signedBound < m := hout.resolve_right (by simp [← hsign])
  have hsigned : n ≤ Value.signedBound → m ≤ Value.signedBound :=
    (le_of_rounded (k := 63) hm hround (by decide)).1
  rintro (hless | ⟨-, hleast⟩ | ⟨hpositive, -⟩)
  · exact Nat.not_le.2 hgreater (hsigned (Nat.le_of_lt hless))
  · exact Nat.not_le.2 hgreater (hsigned (Nat.le_of_eq hleast))
  · cases hpositive

/-- A positive float without the signed form that writes an integer of the 64-bit range is one of
the unsigned range itself. -/
theorem whole_of_fits (hx : x.isFinite = true) (hnone : x.toInt64? = none)
    (hinteger : Literal.integer? x.text = some (false, n)) (hfits : Fits false n) :
    ∃ m : Nat, x.whole? = some (m : Int) ∧ Value.signedBound ≤ m ∧ m < Value.unsignedBound := by
  obtain ⟨hsign, hround⟩ := rounded_of_integer?_text hx hnone hinteger
  obtain ⟨m, hm, hout⟩ := exists_whole hx hnone hround
  have hwhole := whole?_of_magnitude hx hm
  rw [← hsign] at hwhole
  have hn : n < Value.unsignedBound := by
    rcases hfits with hless | ⟨hnegative, -⟩ | ⟨-, hless⟩
    · exact Nat.lt_trans hless (by decide)
    · cases hnegative
    · exact hless
  have hle : m ≤ Value.unsignedBound :=
    (le_of_rounded (k := 64) hm hround (by decide)).1 (Nat.le_of_lt hn)
  have hne : m ≠ Value.unsignedBound := by
    rintro rfl
    rw [integer?_text_two_pow_64 hx hsign.symm hm] at hinteger
    cases hinteger
    exact absurd hn (by decide)
  refine ⟨m, hwhole, ?_, Nat.lt_of_le_of_ne hle hne⟩
  rcases hout with hgreater | ⟨hleast, -⟩
  · exact Nat.le_of_lt hgreater
  · exact Nat.le_of_eq hleast.symm

/-- An integer literal of the 64-bit range that a float without the signed form is written as is
either the float itself or another integer. -/
theorem writesOtherInteger_iff (hx : x.isFinite = true) (hnone : x.toInt64? = none)
    (hinteger : Literal.integer? x.text = some (negative, n)) (hfits : Fits negative n) :
    x.WritesOtherInteger ↔ x.units ≠ ofSign negative n * unitsPerOne := by
  have hone : (unitsPerOne : Int) ≠ 0 := by exact_mod_cast unitsPerOne_pos.ne'
  cases negative with
  | true => exact absurd hfits (not_fits_of_negative hx hnone hinteger)
  | false =>
      obtain ⟨m, hwhole, hlow, hhigh⟩ := whole_of_fits hx hnone hinteger hfits
      have hvalue : x.units ≠ ofSign false n * unitsPerOne ↔ n ≠ m := by
        rw [(whole?_eq_some_iff hx).1 hwhole, Ne, mul_left_inj' hone, eq_comm]
        exact not_congr Int.natCast_inj
      rw [hvalue]
      constructor
      · rintro ⟨k, l, hk, -, -, hl, hdifferent⟩
        rw [hwhole] at hk
        rw [hinteger] at hl
        cases hl
        rwa [← Int.natCast_inj.1 (Option.some.inj hk)] at hdifferent
      · exact fun hdifferent => ⟨m, n, hwhole, hlow, hhigh, hinteger, hdifferent⟩

/-- **The text of a finite float is read as a number of the same value, unless it writes another
integer.** -/
theorem ofLiteral?_text (hx : x.isFinite = true) :
    ∃ a, Number.ofLiteral? x.text = some a ∧ a.Finite ∧
      (x.units = a.units ↔ ¬x.WritesOtherInteger) := by
  cases hform : x.toInt64? with
  | some k =>
      obtain ⟨a, hread, hfinite, hunits⟩ := ofLiteral?_text_of_toInt64? hx hform
      refine ⟨a, hread, hfinite, iff_of_true hunits ?_⟩
      rintro ⟨m, -, hm, hlow, -⟩
      rw [whole?_of_toInt64? hform] at hm
      have hhigh := k.toInt_lt
      have hvalue := Option.some.inj hm
      unfold Value.signedBound at hlow
      omega
  | none =>
      by_cases hfits : ∃ negative n, Literal.integer? x.text = some (negative, n) ∧ Fits negative n
      · obtain ⟨negative, n, hinteger, hfits⟩ := hfits
        obtain ⟨a, hread, hfinite, hunits⟩ := Number.ofLiteral?_of_fits hinteger hfits
        refine ⟨a, hread, hfinite, ?_⟩
        rw [writesOtherInteger_iff hx hform hinteger hfits, hunits, not_not]
      · obtain ⟨literal, hparse, rfl⟩ := parse?_text hx hform
        have hnot : ∀ negative n, Literal.integer? literal.toBinary64.text = some (negative, n) →
            ¬Fits negative n := fun negative n h hn => hfits ⟨negative, n, h, hn⟩
        refine ⟨_, Number.ofLiteral?_of_not_fits hparse hx hnot, hx, iff_of_true rfl ?_⟩
        rintro ⟨m, n, hm, -, hhigh, hinteger, -⟩
        -- an integer above the unsigned range rounds to a float above this range
        have hlarge : Value.unsignedBound ≤ n := Nat.le_of_not_lt fun hlt =>
          hnot false n hinteger (.inr (.inr ⟨rfl, hlt⟩))
        obtain ⟨hsign, hround⟩ := rounded_of_integer?_text hx hform hinteger
        obtain ⟨k, hk, -⟩ := exists_whole hx hform hround
        have hwhole := whole?_of_magnitude hx hk
        rw [← hsign, hm] at hwhole
        have hmk : m = k := by simpa [ofSign] using hwhole
        have := (le_of_rounded (k := 64) hk hround (by decide)).2 hlarge
        unfold Value.unsignedBound at hhigh
        omega

theorem trimBlanks_text (hx : x.isFinite = true) : trimBlanks x.text = x.text := by
  cases hform : x.toInt64? with
  | some k => rw [text_of_toInt64? hx hform, trimBlanks_integer]
  | none =>
      rw [text_of_toInt64?_eq_none hx hform]
      refine trimBlanks_signed fun c hc => ?_
      rcases Int.lt_or_le (x.shortest .away).exponent 0 with hneg | hnonneg
      · obtain ⟨whole, fraction, htext, -, hdigits, -, -⟩ := Decimal.positional_of_neg hneg
        rw [htext] at hc
        rcases List.mem_append.1 hc with hwhole | hrest
        · exact .inl (hdigits c (List.mem_append_left _ hwhole))
        · rcases List.mem_cons.1 hrest with hpoint | hfraction
          · exact .inr hpoint
          · exact .inl (hdigits c (List.mem_append_right _ hfraction))
      · obtain ⟨-, hdigits, -⟩ := Decimal.positional_of_nonneg hnonneg
        exact .inl (hdigits c hc)

end Binary64

end ScenarioRunner

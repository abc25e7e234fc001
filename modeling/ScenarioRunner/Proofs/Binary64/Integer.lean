import Mathlib.Algebra.Order.Ring.Int
import ScenarioRunner.Proofs.Binary64.Rounding

/-!
# Integers among the floating-point numbers

Every integer below `2 ^ 53` is a number (`units_ofInt`), and rounding keeps the greater ones of 64
bits between `2 ^ 53` and `2 ^ 64` (`magnitude_ofInt`). A finite number has a fraction only below
`2 ^ 52` (`dvd_or_lt`).
-/

set_option autoImplicit false

namespace ScenarioRunner.Binary64

/-- One is a power of two in units. -/
theorem unitsPerOne_eq : ∃ t, t = 1074 ∧ unitsPerOne = 2 ^ t := by
  refine ⟨1074, rfl, ?_⟩
  unfold unitsPerOne
  generalize 1074 = t
  exact Nat.pow_eq

theorem unitsPerOne_pos : 0 < unitsPerOne := by
  obtain ⟨t, -, hone⟩ := unitsPerOne_eq
  rw [hone]
  exact Nat.two_pow_pos t

theorem natAbs_units (x : Binary64) : x.units.natAbs = x.magnitude := by
  unfold units
  split <;> simp

theorem isNaN_of_isFinite {x : Binary64} (hx : x.isFinite = true) : x.isNaN = false := by
  have hexponent : x.exponentField ≠ 2047 := by simpa [isFinite] using hx
  simp [isNaN, hexponent]

/-- A finite number is the integer `n` when it is `n` times one. -/
theorem whole?_eq_some_iff {x : Binary64} (hx : x.isFinite = true) {n : Int} :
    x.whole? = some n ↔ x.units = n * unitsPerOne := by
  have hone : (unitsPerOne : Int) ≠ 0 := by exact_mod_cast unitsPerOne_pos.ne'
  have hdvd : (unitsPerOne : Int) ∣ x.units ↔ x.magnitude % unitsPerOne = 0 := by
    rw [Int.natCast_dvd, natAbs_units, Nat.dvd_iff_mod_eq_zero]
  unfold whole?
  simp only [hx, Bool.true_and, beq_iff_eq]
  split
  · next hmod =>
      obtain ⟨k, hk⟩ := hdvd.2 hmod
      rw [hk, Int.mul_ediv_cancel_left k hone, Int.mul_comm n, Option.some.injEq]
      exact (mul_right_inj' hone).symm
  · next hmod =>
      refine iff_of_false (by simp) fun hunits => hmod (hdvd.1 ?_)
      exact ⟨n, by rw [hunits, Int.mul_comm]⟩

theorem whole?_of_not_isFinite {x : Binary64} (hx : x.isFinite = false) : x.whole? = none := by
  simp [whole?, hx]

/-- A magnitude of few bits is representable, also if it counts a power of two of ones. -/
theorem representable_integer {n k : Nat} (hn : n < 2 * exponentWeight) (hk : k ≤ 971) :
    Representable (n * 2 ^ k * unitsPerOne) := by
  obtain ⟨t, ht, hone⟩ := unitsPerOne_eq
  rw [hone, Nat.mul_assoc, ← Nat.pow_add]
  exact representable_of_dvd (Nat.dvd_mul_left _ n)
    (Nat.mul_lt_mul_of_pos_right hn (Nat.two_pow_pos _)) (by omega)

/-- A float that is a multiple of one, or below `2 ^ 53`. -/
theorem dvd_or_lt {x : Binary64} (hx : x.isFinite = true) :
    unitsPerOne ∣ x.magnitude ∨ x.magnitude < exponentWeight * unitsPerOne := by
  obtain ⟨t, -, hone⟩ := unitsPerOne_eq
  rw [hone, magnitude_eq]
  rcases Nat.lt_or_ge x.scale t with hlt | hge
  · exact .inr (lt_of_scale_lt (encodes hx) hlt)
  · exact .inl (Nat.dvd_mul_left_of_dvd (Nat.pow_dvd_pow 2 hge) _)

theorem ofInt_eq (n : Int) :
    ofInt n = nearestUnits (decide (n < 0)) (n.natAbs * unitsPerOne) 1 := rfl

theorem units_eq (x : Binary64) :
    x.units = if x.negative then -(x.magnitude : Int) else (x.magnitude : Int) := rfl

theorem representable_two_pow_64 : Representable (2 ^ 64 * unitsPerOne) := by
  have h : Representable (1 * 2 ^ 64 * unitsPerOne) :=
    representable_integer (by decide) (by decide)
  rwa [Nat.one_mul] at h

/-- The rounded integer has the sign of the integer and its rounded magnitude. -/
theorem ofInt_facts {n : Int} (hn : n.natAbs ≤ 2 ^ 64) :
    (ofInt n).isFinite = true ∧ (ofInt n).negative = decide (n < 0) ∧
      (ofInt n).magnitude = roundedUnits (n.natAbs * unitsPerOne) 1 := by
  have hle : roundedUnits (n.natAbs * unitsPerOne) 1 ≤ 2 ^ 64 * unitsPerOne := by
    refine roundedUnits_le representable_two_pow_64 ?_ Nat.one_pos
    rw [Nat.mul_one]
    exact Nat.mul_le_mul_right _ hn
  have hlt := lt_infiniteMagnitude representable_two_pow_64
  rw [ofInt_eq]
  exact nearestUnits_of_lt (decide (n < 0)) Nat.one_pos (Nat.lt_of_le_of_lt hle hlt)

/-- An integer below `2 ^ 53` is kept. -/
theorem units_ofInt {n : Int} (hn : n.natAbs < 2 * exponentWeight) :
    (ofInt n).units = n * unitsPerOne := by
  obtain ⟨-, hnegative, hmagnitude⟩ :=
    ofInt_facts (n := n) (Nat.le_trans (Nat.le_of_lt hn) (by decide))
  have hunits : Representable (n.natAbs * unitsPerOne) := by
    have h := representable_integer hn (Nat.zero_le 971)
    rwa [Nat.pow_zero, Nat.mul_one] at h
  rw [roundedUnits_of_representable hunits (Nat.mul_one _).symm Nat.one_pos] at hmagnitude
  rw [units_eq, hnegative, hmagnitude, Int.natCast_mul]
  generalize (unitsPerOne : Int) = one
  by_cases hneg : n < 0
  · have habs : (n.natAbs : Int) = -n := by omega
    simp [hneg, habs]
  · have habs : (n.natAbs : Int) = n := by omega
    simp [hneg, habs]

/-- A greater integer of 64 bits stays between `2 ^ 53` and `2 ^ 64`. -/
theorem magnitude_ofInt {n : Int} (hlow : 2 * exponentWeight ≤ n.natAbs)
    (hhigh : n.natAbs ≤ 2 ^ 64) :
    2 * exponentWeight * unitsPerOne ≤ (ofInt n).magnitude ∧
      (ofInt n).magnitude ≤ 2 ^ 64 * unitsPerOne := by
  rw [(ofInt_facts hhigh).2.2]
  constructor
  · have h : Representable (exponentWeight * 2 ^ 1 * unitsPerOne) :=
      representable_integer (by decide) (by decide)
    have hdouble : exponentWeight * 2 ^ 1 = 2 * exponentWeight := by decide
    rw [hdouble] at h
    refine le_roundedUnits h ?_ Nat.one_pos
    rw [Nat.mul_one]
    exact Nat.mul_le_mul_right _ hlow
  · refine roundedUnits_le representable_two_pow_64 ?_ Nat.one_pos
    rw [Nat.mul_one]
    exact Nat.mul_le_mul_right _ hhigh

end ScenarioRunner.Binary64

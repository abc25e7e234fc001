import ScenarioRunner.Proofs.Decimal.Grammar
import ScenarioRunner.Proofs.Value.Literal

/-!
# Integers against integer literals

A 64-bit integer is compared with a string of digits by the integers that both denote, however long
the string is (`integer_literal_compared`). A literal that no 64-bit form can hold is rounded to a
float first, and rounding keeps it on its side of all 64-bit integers (`compare_units_ofInt`), with one
exception: the 1024 integers below the signed range are rounded up to `-2 ^ 63`, and so they are taken
for the least signed integer (`below_least_signed_taken_for_it`).
-/

set_option autoImplicit false

namespace ScenarioRunner

namespace Binary64

/-! ## Rounding integers beyond 64 bits -/

section Rounding

variable {n : Nat}

/-- The last place of the floats from `2 ^ 63` on counts 2048, over the denominator of an integer. -/
theorem exists_lastPlace : ∃ s, s ≤ 2045 ∧ 1 * 2 ^ s = 2 ^ 11 * unitsPerOne := by
  obtain ⟨t, ht, hone⟩ := unitsPerOne_eq
  refine ⟨t + 11, by omega, ?_⟩
  rw [hone, Nat.pow_add, Nat.one_mul, Nat.mul_comm]

/-- From `2 ^ 63` on, half the last place is rounded off. -/
theorem roundedUnits_of_half_place (hlow : 2 ^ 63 ≤ n) (hhigh : n ≤ 2 ^ 63 + 1024) :
    roundedUnits (n * unitsPerOne) 1 = 2 ^ 63 * unitsPerOne := by
  obtain ⟨s, hs, hplace⟩ := exists_lastPlace
  have hencodes : Encodes exponentWeight s := ⟨by decide, .inl (Nat.le_refl _), hs⟩
  have hleast := Nat.mul_le_mul_right unitsPerOne hlow
  have hgreatest := Nat.mul_le_mul_right unitsPerOne hhigh
  have hround : roundedUnits (n * unitsPerOne) 1 = exponentWeight * 2 ^ s := by
    apply roundedUnits_of_between hencodes Nat.one_pos
    · rw [hplace]
      unfold exponentWeight
      omega
    · rw [hplace]
      unfold exponentWeight
      omega
    · exact .inl rfl
  rw [hround, ← Nat.one_mul (2 ^ s), hplace]
  unfold exponentWeight
  omega

/-- More than half the last place is not rounded off. -/
theorem lt_roundedUnits_of_half_place (h : 2 ^ 63 + 1024 < n) :
    2 ^ 63 * unitsPerOne < roundedUnits (n * unitsPerOne) 1 := by
  have hone := unitsPerOne_pos
  have hnext : (exponentWeight + 1) * 2 ^ 11 * unitsPerOne ≤ roundedUnits (n * unitsPerOne) 1 := by
    by_cases hbeyond : (exponentWeight + 1) * 2 ^ 11 ≤ n
    · apply le_roundedUnits (representable_integer (by decide) (by decide)) _ Nat.one_pos
      rw [Nat.mul_one]
      exact Nat.mul_le_mul_right _ hbeyond
    · -- the integer is nearer to the next float than to the one below it
      obtain ⟨s, hs, hplace⟩ := exists_lastPlace
      have hencodes : Encodes (exponentWeight + 1) s := ⟨by decide, .inl (by decide), hs⟩
      have hgap : lowerGap (exponentWeight + 1) s = 2 := rfl
      have hlow := Nat.mul_le_mul_right unitsPerOne h
      have hhigh := Nat.mul_le_mul_right unitsPerOne (Nat.le_of_lt (Nat.lt_of_not_le hbeyond))
      have hround : roundedUnits (n * unitsPerOne) 1 = (exponentWeight + 1) * 2 ^ s := by
        apply roundedUnits_of_between hencodes Nat.one_pos
        · rw [hgap, hplace]
          unfold exponentWeight
          omega
        · rw [hplace]
          unfold exponentWeight at *
          omega
        · right
          rw [hgap, hplace]
          unfold exponentWeight at *
          omega
      rw [hround, ← Nat.one_mul (2 ^ s), hplace, Nat.mul_assoc]
  refine Nat.lt_of_lt_of_le ?_ hnext
  exact Nat.mul_lt_mul_of_pos_right (by decide) hone

end Rounding

/-! ## The order between an integer and a rounded one -/

section Order

variable {m z : Int}

/-- A rounded integer has the sign of the integer and its rounded magnitude. -/
theorem units_ofInt_of_isFinite (h : (ofInt m).isFinite = true) :
    (ofInt m).units =
      if m < 0 then -(roundedUnits (m.natAbs * unitsPerOne) 1 : Int)
      else (roundedUnits (m.natAbs * unitsPerOne) 1 : Int) := by
  rw [ofInt_eq] at h ⊢
  have hlt := roundedUnits_lt_of_isFinite h
  obtain ⟨-, hnegative, hmagnitude⟩ := nearestUnits_of_lt (decide (m < 0)) Nat.one_pos hlt
  rw [units_eq, hnegative, hmagnitude]
  simp only [decide_eq_true_eq]

/-- Integers from `2 ^ 64` on are not rounded below it. -/
theorem le_units_ofInt (hm : 2 ^ 64 ≤ m) (h : (ofInt m).isFinite = true) :
    2 ^ 64 * (unitsPerOne : Int) ≤ (ofInt m).units := by
  have hrounded : 2 ^ 64 * unitsPerOne ≤ roundedUnits (m.natAbs * unitsPerOne) 1 := by
    apply le_roundedUnits representable_two_pow_64 _ Nat.one_pos
    rw [Nat.mul_one]
    exact Nat.mul_le_mul_right _ (by omega)
  rw [units_ofInt_of_isFinite h, if_neg (by omega)]
  exact_mod_cast hrounded

/-- The 1024 integers below `-2 ^ 63` are rounded up to it. -/
theorem units_ofInt_of_near (hlow : -2 ^ 63 - 1024 ≤ m) (hhigh : m < -2 ^ 63) :
    (ofInt m).units = -2 ^ 63 * (unitsPerOne : Int) := by
  have hrounded : roundedUnits (m.natAbs * unitsPerOne) 1 = 2 ^ 63 * unitsPerOne :=
    roundedUnits_of_half_place (by omega) (by omega)
  have hfinite : (ofInt m).isFinite = true := (ofInt_facts (by omega)).1
  rw [units_ofInt_of_isFinite hfinite, if_pos (by omega), hrounded, Int.natCast_mul, ← Int.neg_mul]
  rfl

/-- All integers below these are rounded to less than `-2 ^ 63`. -/
theorem units_ofInt_lt (hm : m < -2 ^ 63 - 1024) (h : (ofInt m).isFinite = true) :
    (ofInt m).units < -2 ^ 63 * (unitsPerOne : Int) := by
  have hrounded : 2 ^ 63 * unitsPerOne < roundedUnits (m.natAbs * unitsPerOne) 1 :=
    lt_roundedUnits_of_half_place (by omega)
  have hcast : 2 ^ 63 * (unitsPerOne : Int) < roundedUnits (m.natAbs * unitsPerOne) 1 := by
    exact_mod_cast hrounded
  rw [units_ofInt_of_isFinite h, if_pos (by omega), Int.neg_mul]
  exact Int.neg_lt_neg hcast

/-- The integer `m` is rounded onto the 64-bit integer `z`: this is the least signed one, and `m` lies
below it by at most half the distance of the floats there. -/
def RoundsOnto (m z : Int) : Prop := z = -2 ^ 63 ∧ -2 ^ 63 - 1024 ≤ m ∧ m < -2 ^ 63

instance (m z : Int) : Decidable (RoundsOnto m z) :=
  inferInstanceAs (Decidable (z = -2 ^ 63 ∧ -2 ^ 63 - 1024 ≤ m ∧ m < -2 ^ 63))

/-- **Rounding keeps an integer beyond 64 bits on its side of every 64-bit integer**, unless it is
rounded onto the least signed one. -/
theorem compare_units_ofInt (hz : -2 ^ 63 ≤ z ∧ z < 2 ^ 64) (hm : m < -2 ^ 63 ∨ 2 ^ 64 ≤ m)
    (h : (ofInt m).isFinite = true) :
    compare (z * (unitsPerOne : Int)) (ofInt m).units =
      if RoundsOnto m z then .eq else compare z m := by
  have hone : 0 < (unitsPerOne : Int) := by exact_mod_cast unitsPerOne_pos
  have hleast : -2 ^ 63 * (unitsPerOne : Int) ≤ z * unitsPerOne :=
    Int.mul_le_mul_of_nonneg_right hz.1 (Int.le_of_lt hone)
  rcases hm with hbelow | habove
  · by_cases hnear : -2 ^ 63 - 1024 ≤ m
    · have hunits := units_ofInt_of_near hnear hbelow
      by_cases hz' : z = -2 ^ 63
      · rw [if_pos ⟨hz', hnear, hbelow⟩, hunits, hz']
        exact compare_eq_iff_eq.2 rfl
      · -- the other 64-bit integers are greater than the least one, and so than the literal
        have hgreater : -2 ^ 63 * (unitsPerOne : Int) < z * unitsPerOne :=
          Int.mul_lt_mul_of_pos_right (by omega) hone
        rw [if_neg fun hrounds => hz' hrounds.1, hunits, compare_gt_iff_gt.2 hgreater,
          compare_gt_iff_gt.2 (show m < z by omega)]
    · have hless := units_ofInt_lt (Int.not_le.1 hnear) h
      rw [if_neg fun hrounds => hnear hrounds.2.1,
        compare_gt_iff_gt.2 (Int.lt_of_lt_of_le hless hleast),
        compare_gt_iff_gt.2 (show m < z by omega)]
  · have hgreater := le_units_ofInt habove h
    have hless : z * (unitsPerOne : Int) < 2 ^ 64 * unitsPerOne :=
      Int.mul_lt_mul_of_pos_right hz.2 hone
    rw [if_neg fun hrounds => absurd hrounds.2.2 (by omega),
      compare_lt_iff_lt.2 (Int.lt_of_lt_of_le hless hgreater),
      compare_lt_iff_lt.2 (show z < m by omega)]

end Order

end Binary64

/-! ## Integer literals -/

namespace Literal

/-- The texts of an integer: decimal digits, behind a sign or not. -/
inductive WritesInteger : List Char → Int → Prop where
  | unsigned {digits : List Char} (isDigits : IsDigits digits) :
      WritesInteger digits (Nat.ofDigitChars 10 digits 0 : Nat)
  | plus {digits : List Char} (isDigits : IsDigits digits) :
      WritesInteger ('+' :: digits) (Nat.ofDigitChars 10 digits 0 : Nat)
  | minus {digits : List Char} (isDigits : IsDigits digits) :
      WritesInteger ('-' :: digits) (-(Nat.ofDigitChars 10 digits 0 : Nat))

variable {text digits : List Char} {m : Int}

/-- Digits are read the same behind a plus sign. -/
theorem IsDigits.splitSign_plus (h : IsDigits digits) :
    splitSign ('+' :: digits) = splitSign digits := by
  have hplain := splitSign_signed false [] h.nonempty h.decimal
  rw [List.append_nil] at hplain
  exact hplain.symm

/-- An integer literal is read as a sign and digits. -/
theorem WritesInteger.read (h : WritesInteger text m) :
    ∃ negative n, integer? text = some (negative, n) ∧ parse? text = some ⟨negative, n, 0⟩ ∧
      Number.ofSign negative n = m := by
  cases h with
  | @unsigned digits h =>
      refine ⟨false, _, integer?_digits false h.nonempty h.decimal,
        parse?_digits false h.nonempty h.decimal, ?_⟩
      rw [natOfDigits_eq]
      rfl
  | @plus digits h =>
      have hinteger : integer? ('+' :: digits) = integer? digits := by
        simp only [integer?, h.splitSign_plus]
      have hparse : parse? ('+' :: digits) = parse? digits := by
        simp only [parse?, h.splitSign_plus]
      rw [hinteger, hparse]
      refine ⟨false, _, integer?_digits false h.nonempty h.decimal,
        parse?_digits false h.nonempty h.decimal, ?_⟩
      rw [natOfDigits_eq]
      rfl
  | @minus digits h =>
      refine ⟨true, _, integer?_digits true h.nonempty h.decimal,
        parse?_digits true h.nonempty h.decimal, ?_⟩
      rw [natOfDigits_eq]
      rfl

/-- An integer literal has no blanks to trim. -/
theorem WritesInteger.trimmed (h : WritesInteger text m) : trimBlanks text = text := by
  have hsigned : ∀ {digits : List Char}, IsDigits digits → ∀ negative,
      trimBlanks (signed negative digits) = signed negative digits := by
    intro digits h negative
    exact trimBlanks_signed fun c hc => .inl (h.decimal c hc)
  cases h with
  | unsigned h => exact hsigned h false
  | plus h => exact trimBlanks_cons (by decide) (hsigned h false)
  | minus h => exact hsigned h true

end Literal

namespace Number

open Binary64 (ofInt unitsPerOne unitsPerOne_pos RoundsOnto compare_units_ofInt)

variable {negative : Bool} {n : Nat} {text : List Char} {m : Int}

/-- A literal without a fraction is rounded like the integer that it writes. -/
theorem toBinary64_of_ne_zero (negative : Bool) (hn : n ≠ 0) :
    (⟨negative, n, 0⟩ : Literal).toBinary64 = ofInt (ofSign negative n) := by
  have hsign : decide (ofSign negative n < 0) = negative := by
    cases negative
    · simp [ofSign]
    · simp [ofSign]
      omega
  have habs : (ofSign negative n).natAbs = n := by
    cases negative <;> simp [ofSign]
  unfold Literal.toBinary64 Binary64.ofDecimal Binary64.ofInt
  rw [hsign, habs]
  simp [hn]

/-- **An integer literal is read as a number with the place of the integer among those of 64 bits**,
unless it is rounded onto the least of them. -/
theorem ofLiteral?_of_writesInteger (h : Literal.WritesInteger text m)
    (hfinite : (ofInt m).isFinite = true) :
    ∃ a, ofLiteral? text = some a ∧ ∀ z : Int, -2 ^ 63 ≤ z ∧ z < 2 ^ 64 →
      compare (z * (unitsPerOne : Int)) a.units = if RoundsOnto m z then .eq else compare z m := by
  obtain ⟨negative, n, hinteger, hparse, rfl⟩ := h.read
  by_cases hfits : Fits negative n
  · obtain ⟨a, hread, -, hunits⟩ := ofLiteral?_of_fits hinteger hfits
    refine ⟨a, hread, ?_⟩
    intro z _
    have hone : 0 < (unitsPerOne : Int) := by exact_mod_cast unitsPerOne_pos
    have hnot : ¬RoundsOnto (ofSign negative n) z := fun hrounds =>
      Int.not_lt.2 (fits_iff.1 hfits).1 hrounds.2.2
    rw [hunits, if_neg hnot]
    exact compare_congr (mul_lt_mul_iff_left₀ hone) (mul_lt_mul_iff_left₀ hone)
  · have hn : n ≠ 0 := by
      rintro rfl
      exact hfits (.inl (by decide))
    have hrounded := toBinary64_of_ne_zero negative hn
    have hread : ofLiteral? text = some (.float (ofInt (ofSign negative n))) := by
      rw [← hrounded] at hfinite ⊢
      apply ofLiteral?_of_not_fits hparse hfinite
      intro negative' n' hinteger'
      rw [hinteger] at hinteger'
      cases hinteger'
      exact hfits
    have hbeyond : ofSign negative n < -2 ^ 63 ∨ 2 ^ 64 ≤ ofSign negative n := by
      rw [fits_iff, not_and_or, Int.not_le, Int.not_lt] at hfits
      exact hfits
    refine ⟨_, hread, ?_⟩
    intro z hz
    exact compare_units_ofInt hz hbeyond hfinite

end Number

/-! ## Verdicts -/

namespace Value

open Binary64 (ofInt unitsPerOne RoundsOnto)

variable {v : Value} {z m : Int} {s : String}

/-- The integer that a value of a 64-bit form is. -/
def integer? : Value → Option Int
  | int n => some n.toInt
  | uint n => some n.toNat
  | _ => none

/-- A 64-bit integer is a number of its own value. -/
theorem exists_number_of_integer? (h : v.integer? = some z) :
    ∃ a : Number, v = ofNumber a ∧ a.Finite ∧ a.units = z * unitsPerOne ∧
      -2 ^ 63 ≤ z ∧ z < 2 ^ 64 := by
  cases v with
  | int n =>
      cases h
      have hlow := n.le_toInt
      have hhigh := n.toInt_lt
      exact ⟨.int n, rfl, trivial, rfl, by omega, by omega⟩
  | uint n =>
      cases h
      have hhigh := n.toNat_lt
      exact ⟨.uint n, rfl, trivial, rfl, by omega, by omega⟩
  | null | bool _ | float _ | str _ | list _ | map _ => cases h

/-- **A 64-bit integer is compared with an integer literal by the integers that both denote**, however
many digits the literal has, unless the literal is rounded onto the least signed integer. Then the two
count as equal. -/
theorem integer_literal_compared (hv : v.integer? = some z)
    (hs : Literal.WritesInteger s.toList m) (hfinite : (ofInt m).isFinite = true) :
    (v.same (.str s) = true ↔ z = m ∨ RoundsOnto m z) ∧
      v.compare? (.str s) = some (if RoundsOnto m z then .eq else compare z m) := by
  obtain ⟨a, rfl, ha, hunits, hz⟩ := exists_number_of_integer? hv
  obtain ⟨b, hread, horder⟩ := Number.ofLiteral?_of_writesInteger hs hfinite
  have hnumber : (str s).number? = some b := by
    rw [number?, hs.trimmed, hread]
  have hverdict : compare a.units b.units = if RoundsOnto m z then .eq else compare z m := by
    rw [hunits]
    exact horder z hz
  constructor
  · rw [ofNumber_same_iff ha hnumber, ← compare_eq_iff_eq, hverdict]
    by_cases hrounds : RoundsOnto m z
    · simp [hrounds]
    · rw [if_neg hrounds, compare_eq_iff_eq, or_iff_left hrounds]
  · rw [compare?_of_number? (number?_ofNumber ha) hnumber, hverdict]

/-- The integer below the least signed one is taken for it, while the one above the greatest unsigned one
is told from it. -/
theorem below_least_signed_taken_for_it :
    (int (-9223372036854775808)).integer? = some (-9223372036854775808) ∧
      Literal.WritesInteger "-9223372036854775809".toList (-9223372036854775809) ∧
      (ofInt (-9223372036854775809)).isFinite = true ∧
      (int (-9223372036854775808)).same (.str "-9223372036854775809") = true ∧
      (int (-9223372036854775808)).compare? (.str "-9223372036854775809") = some .eq ∧
      (uint 18446744073709551615).same (.str "18446744073709551616") = false ∧
      (uint 18446744073709551615).compare? (.str "18446744073709551616") = some .lt := by
  have hleast : (int (-9223372036854775808)).integer? = some (-9223372036854775808) := by decide
  have hgreatest : (uint 18446744073709551615).integer? = some 18446744073709551615 := by decide
  have hbelow : Literal.WritesInteger "-9223372036854775809".toList (-9223372036854775809) :=
    @Literal.WritesInteger.minus "9223372036854775809".toList
      ⟨by decide, List.all_eq_true.1 (by decide)⟩
  have habove : Literal.WritesInteger "18446744073709551616".toList 18446744073709551616 :=
    .unsigned ⟨by decide, List.all_eq_true.1 (by decide)⟩
  have hfinite : (ofInt (-9223372036854775809)).isFinite = true :=
    (Binary64.ofInt_facts (by decide)).1
  obtain ⟨hsame, horder⟩ := integer_literal_compared hleast hbelow hfinite
  obtain ⟨hsame', horder'⟩ := integer_literal_compared hgreatest habove
    (Binary64.ofInt_facts (by decide)).1
  rw [if_pos (by decide)] at horder
  rw [if_neg (by decide)] at horder'
  refine ⟨hleast, hbelow, hfinite, hsame.2 (.inr (by decide)), horder, ?_, horder'⟩
  rw [← Bool.not_eq_true, hsame']
  decide

end Value

end ScenarioRunner

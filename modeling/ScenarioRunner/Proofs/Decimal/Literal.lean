import Mathlib.Algebra.Ring.Nat
import ScenarioRunner.Decimal.Literal
import ScenarioRunner.Decimal.Style

/-!
# Positional text reads back

A decimal written positionally is digits, or digits with a point among them, behind an optional
minus. Read as a literal it is the same decimal, with the zeros that a positive exponent stands for
among its digits (`parse?_positional`). It is an integer literal exactly when it has no fraction
(`integer?_positional`).
-/

set_option autoImplicit false

namespace ScenarioRunner

namespace Literal

/-! ## Digits -/

theorem natOfDigits_eq (digits : List Char) :
    natOfDigits digits = Nat.ofDigitChars 10 digits 0 := by
  rw [Nat.ofDigitChars_eq_foldl]
  rfl

theorem natOfDigits_toDigits (n : Nat) : natOfDigits (Nat.toDigits 10 n) = n := by
  rw [natOfDigits_eq, Nat.ofDigitChars_ten_toDigits]

theorem natOfDigits_append_zeros (digits : List Char) (count : Nat) :
    natOfDigits (digits ++ List.replicate count '0') = natOfDigits digits * 10 ^ count := by
  rw [natOfDigits_eq, natOfDigits_eq, Nat.ofDigitChars_append, Nat.ofDigitChars_replicate_zero,
    Nat.mul_comm]

theorem natOfDigits_zeros_append (count : Nat) (digits : List Char) :
    natOfDigits (List.replicate count '0' ++ digits) = natOfDigits digits := by
  rw [natOfDigits_eq, natOfDigits_eq, Nat.ofDigitChars_append, Nat.ofDigitChars_replicate_zero,
    Nat.mul_zero]

theorem isDigit_toDigits (n : Nat) : ∀ c ∈ Nat.toDigits 10 n, c.isDigit = true := fun _ =>
  Nat.isDigit_of_mem_toDigits (by decide) (by decide)

/-! ## Reading -/

/-- A text behind an optional minus. -/
def signed (negative : Bool) (body : List Char) : List Char :=
  if negative then '-' :: body else body

section Reading

variable {whole fraction : List Char}

/-- A sign is told from the digits behind it. -/
theorem splitSign_signed (negative : Bool) (rest : List Char) (hne : whole ≠ [])
    (hwhole : ∀ c ∈ whole, c.isDigit = true) :
    splitSign (signed negative (whole ++ rest)) = (negative, whole ++ rest) := by
  cases negative with
  | true => rfl
  | false =>
      obtain ⟨c, digits, rfl⟩ := List.exists_cons_of_ne_nil hne
      have hdigit := hwhole c List.mem_cons_self
      change splitSign (c :: (digits ++ rest)) = (false, c :: (digits ++ rest))
      unfold splitSign
      split
      · next h =>
          rw [(List.cons.inj h).1] at hdigit
          cases hdigit
      · next h =>
          rw [(List.cons.inj h).1] at hdigit
          cases hdigit
      · rfl

/-- Digits and what stands behind them are told apart at the first character that is no digit. -/
theorem span_digits (rest : List Char) (hwhole : ∀ c ∈ whole, c.isDigit = true)
    (hrest : ∀ c ∈ rest.head?, c.isDigit = false) :
    (whole ++ rest).takeWhile Char.isDigit = whole ∧
      (whole ++ rest).dropWhile Char.isDigit = rest := by
  rw [List.takeWhile_append_of_pos hwhole, List.dropWhile_append_of_pos hwhole]
  cases rest with
  | nil => simp
  | cons c rest => simp [hrest c rfl]

/-- Digits alone are an integer literal. -/
theorem integer?_digits (negative : Bool) (hne : whole ≠ [])
    (hwhole : ∀ c ∈ whole, c.isDigit = true) :
    integer? (signed negative whole) = some (negative, natOfDigits whole) := by
  have hsign := splitSign_signed negative [] hne hwhole
  rw [List.append_nil] at hsign
  have hall : whole.all Char.isDigit = true := List.all_eq_true.2 hwhole
  simp [integer?, hsign, hne, hall]

/-- Digits with a point among them are no integer literal. -/
theorem integer?_point (negative : Bool) (hne : whole ≠ [])
    (hwhole : ∀ c ∈ whole, c.isDigit = true) :
    integer? (signed negative (whole ++ '.' :: fraction)) = none := by
  have hall : (whole ++ '.' :: fraction).all Char.isDigit = false := by
    simp [Char.isDigit]
  simp [integer?, splitSign_signed negative _ hne hwhole, hall]

theorem parse?_digits (negative : Bool) (hne : whole ≠ [])
    (hwhole : ∀ c ∈ whole, c.isDigit = true) :
    parse? (signed negative whole) = some ⟨negative, natOfDigits whole, 0⟩ := by
  have hsign := splitSign_signed negative [] hne hwhole
  have hspan := span_digits [] hwhole (by simp)
  rw [List.append_nil] at hsign hspan
  simp [parse?, hsign, hspan.1, hspan.2, hne, splitFraction, exponent?]

/-- Every digit behind a point counts a tenth of the one before it. -/
theorem parse?_point (negative : Bool) (hne : whole ≠ [])
    (hwhole : ∀ c ∈ whole, c.isDigit = true) (hfraction : ∀ c ∈ fraction, c.isDigit = true) :
    parse? (signed negative (whole ++ '.' :: fraction)) =
      some ⟨negative, natOfDigits (whole ++ fraction), -(fraction.length : Int)⟩ := by
  have hspan := span_digits ('.' :: fraction) hwhole (by simp [Char.isDigit])
  have htail := span_digits [] hfraction (by simp)
  rw [List.append_nil] at htail
  simp [parse?, splitSign_signed negative _ hne hwhole, hspan.1, hspan.2, hne, splitFraction,
    htail.1, htail.2, exponent?]

end Reading

end Literal

/-! ## Positional text -/

namespace Decimal

open Literal

variable {d : Decimal}

/-- A decimal with a fraction is written with a point and at least one digit before it. -/
theorem positional_of_neg (h : d.exponent < 0) :
    ∃ whole fraction, d.positional false = whole ++ '.' :: fraction ∧ whole ≠ [] ∧
      (∀ c ∈ whole ++ fraction, c.isDigit = true) ∧
      natOfDigits (whole ++ fraction) = d.digits ∧ (fraction.length : Int) = -d.exponent := by
  have hdigits : ∀ c ∈ d.digitChars, c.isDigit = true := isDigit_toDigits d.digits
  have hvalue : natOfDigits d.digitChars = d.digits := natOfDigits_toDigits d.digits
  have hpoint : d.point = (d.digitChars.length : Int) + d.exponent := rfl
  unfold positional
  rw [if_neg (by omega)]
  by_cases hinside : 0 < d.point
  · rw [if_pos hinside]
    refine ⟨d.digitChars.take d.point.toNat, d.digitChars.drop d.point.toNat, rfl, ?_, ?_, ?_, ?_⟩
    · simp [List.take_eq_nil_iff, digitChars, Nat.toDigits_ne_nil]
      omega
    · rwa [List.take_append_drop]
    · rwa [List.take_append_drop]
    · rw [List.length_drop]
      omega
  · rw [if_neg hinside]
    refine ⟨['0'], List.replicate (-d.point).toNat '0' ++ d.digitChars, rfl, by simp, ?_, ?_, ?_⟩
    · simp only [List.mem_append, List.mem_singleton, List.mem_replicate]
      rintro c (rfl | ⟨-, rfl⟩ | hc)
      · rfl
      · rfl
      · exact hdigits c hc
    · rw [← List.append_assoc, show ['0'] = List.replicate 1 '0' from rfl, List.replicate_append_replicate,
        natOfDigits_zeros_append, hvalue]
    · rw [List.length_append, List.length_replicate]
      omega

/-- A decimal without fraction is written as one integer, with all its zeros. -/
theorem positional_of_nonneg (h : 0 ≤ d.exponent) :
    d.positional false ≠ [] ∧ (∀ c ∈ d.positional false, c.isDigit = true) ∧
      natOfDigits (d.positional false) = d.digits * 10 ^ d.exponent.toNat := by
  have htext : d.positional false = d.digitChars ++ List.replicate d.exponent.toNat '0' := by
    simp [positional, h]
  rw [htext, digitChars]
  refine ⟨by simp [Nat.toDigits_ne_nil], ?_, ?_⟩
  · intro c hc
    rcases List.mem_append.1 hc with hdigit | hzero
    · exact isDigit_toDigits d.digits c hdigit
    · rw [(List.mem_replicate.1 hzero).2]
      rfl
  · rw [natOfDigits_append_zeros, natOfDigits_toDigits]

/-- **Positional text reads back as the decimal it was made of.** -/
theorem parse?_positional (negative : Bool) (d : Decimal) :
    parse? (signed negative (d.positional false)) =
      some ⟨negative, d.digits * 10 ^ d.exponent.toNat, min d.exponent 0⟩ := by
  rcases Int.lt_or_le d.exponent 0 with hneg | hnonneg
  · obtain ⟨whole, fraction, htext, hne, hdigits, hvalue, hlength⟩ := positional_of_neg hneg
    obtain ⟨hwhole, hfraction⟩ := List.forall_mem_append.1 hdigits
    have hmin : min d.exponent 0 = d.exponent := by omega
    have hzeros : d.exponent.toNat = 0 := by omega
    rw [htext, parse?_point negative hne hwhole hfraction, hvalue, hlength, hmin, hzeros]
    simp
  · obtain ⟨hne, hdigits, hvalue⟩ := positional_of_nonneg hnonneg
    have hmin : min d.exponent 0 = 0 := by omega
    rw [parse?_digits negative hne hdigits, hvalue, hmin]

/-- Positional text is an integer literal exactly when the decimal has no fraction. -/
theorem integer?_positional (negative : Bool) (d : Decimal) :
    integer? (signed negative (d.positional false)) =
      if 0 ≤ d.exponent then some (negative, d.digits * 10 ^ d.exponent.toNat) else none := by
  rcases Int.lt_or_le d.exponent 0 with hneg | hnonneg
  · obtain ⟨whole, fraction, htext, hne, hdigits, -, -⟩ := positional_of_neg hneg
    rw [htext, integer?_point negative hne (List.forall_mem_append.1 hdigits).1, if_neg (by omega)]
  · obtain ⟨hne, hdigits, hvalue⟩ := positional_of_nonneg hnonneg
    rw [integer?_digits negative hne hdigits, hvalue, if_pos hnonneg]

end Decimal

end ScenarioRunner

import ScenarioRunner.Proofs.Value.FloatText

/-!
# One integer in several numeric forms

A decoder may give an integer of the signed range as a signed integer, as an unsigned one or as a float. In
each of these forms it has the same text (`textChars_of_integral`), it equals exactly the numbers of its
value (`same_integral_iff`), and it is in the same order with every number (`compare_integral`).
-/

set_option autoImplicit false

namespace ScenarioRunner

/-! ## Floats that are no numbers -/

namespace Binary64

variable {x y : Binary64}

/-- What is not finite is at least as great as the infinities. -/
theorem infiniteMagnitude_le (hy : y.isFinite = false) : infiniteMagnitude ≤ y.magnitude := by
  have hexponent : y.exponentField = 2047 := by simpa [isFinite] using hy
  have hsignificand : exponentWeight ≤ y.significand := by
    unfold significand
    rw [if_neg (by omega)]
    exact Nat.le_add_right _ _
  have hscale : y.scale = 2046 := by
    unfold scale
    omega
  -- the exponents are variables here, so that no power of this size is evaluated
  have hpow : ∀ s n, s + 52 = n → y.scale = s → Nat.pow 2 n ≤ y.magnitude := by
    rintro s n rfl hs
    rw [magnitude_eq, hs]
    refine Nat.le_trans (Nat.le_of_eq ?_) (Nat.mul_le_mul_right _ hsignificand)
    exact (exponentWeight_mul s).symm
  unfold infiniteMagnitude
  exact hpow 2046 2098 rfl hscale

/-- A finite number is no infinity. -/
theorem sameNumber_of_not_isFinite (hx : x.isFinite = true) (hy : y.isFinite = false) :
    x.sameNumber y = false := by
  have hlt := lt_infiniteMagnitude (representable_magnitude hx)
  have hle := infiniteMagnitude_le hy
  have hne : x.units ≠ y.units := by
    intro heq
    have habs := congrArg Int.natAbs heq
    rw [natAbs_units, natAbs_units] at habs
    omega
  rw [← Bool.not_eq_true]
  simp [sameNumber, compare?, hne]

/-- A letter stands in the text of what is not finite. -/
theorem exists_letter_of_not_isFinite (hy : y.isFinite = false) :
    ∃ c ∈ y.text, c.isDigit = false ∧ c ≠ '-' := by
  unfold text
  rw [toInt64?_of_not_isFinite hy, hy]
  by_cases hnan : y.isNaN = true
  · rw [if_pos hnan]
    exact ⟨'N', by decide, by decide, by decide⟩
  · rw [if_neg hnan]
    by_cases hnegative : y.negative = true
    · rw [if_pos hnegative]
      exact ⟨'n', by simp, by decide, by decide⟩
    · rw [if_neg hnegative]
      exact ⟨'n', by simp, by decide, by decide⟩

end Binary64

namespace Value

open Binary64 (unitsPerOne unitsPerOne_pos)

variable {v e : Value} {z : Int}

/-! ## The forms of an integer -/

/-- An integer in whatever form is a number of its value. -/
theorem exists_number_of_integral (h : v.rational? = some (z : ℚ)) :
    ∃ a : Number, v = ofNumber a ∧ a.Finite ∧ a.units = z * unitsPerOne := by
  obtain ⟨a, rfl, ha, hvalue⟩ := exists_number h
  have hone : (unitsPerOne : ℚ) ≠ 0 := by exact_mod_cast unitsPerOne_pos.ne'
  rw [eq_div_iff hone] at hvalue
  exact ⟨a, rfl, ha, by exact_mod_cast hvalue.symm⟩

/-- An integer of the signed range has the same text in all its forms. -/
theorem textChars_of_integral (h : v.rational? = some (z : ℚ)) (hz : -2 ^ 63 ≤ z ∧ z < 2 ^ 63) :
    v.textChars = Json.integer z := by
  obtain ⟨a, rfl, ha, hunits⟩ := exists_number_of_integral h
  have hone : (unitsPerOne : Int) ≠ 0 := by exact_mod_cast unitsPerOne_pos.ne'
  cases a with
  | int n =>
      have hvalue : n.toInt = z := mul_right_cancel₀ hone hunits
      rw [← hvalue]
      rfl
  | uint n =>
      have hvalue : (n.toNat : Int) = z := mul_right_cancel₀ hone hunits
      rw [← hvalue]
      rfl
  | float x =>
      -- a float of the signed range is written as the signed integer that it is
      have hwhole : x.whole? = some z := (Binary64.whole?_eq_some_iff ha).2 hunits
      have hrange : -(signedBound : Int) ≤ z ∧ z < (signedBound : Int) := hz
      have hform : x.toInt64? = some (Int64.ofInt z) := by
        rw [Binary64.toInt64?, hwhole]
        exact if_pos hrange
      change x.text = Json.integer z
      rw [Binary64.text_of_toInt64? ha hform, Int64.toInt_ofInt_of_le hz.1 hz.2]

/-- The text of an integer holds digits and a minus only. -/
theorem isDigit_of_mem_integer {c : Char} (hc : c ∈ Json.integer z) (hminus : c ≠ '-') :
    c.isDigit = true := by
  rw [Json.integer_eq] at hc
  unfold Literal.signed at hc
  split at hc
  · exact Literal.isDigit_toDigits _ c ((List.mem_cons.1 hc).resolve_left hminus)
  · exact Literal.isDigit_toDigits _ c hc

/-- A float that is not taken for a number is not finite. -/
theorem not_isFinite_of_number? {x : Binary64} (h : (float x).number? = none) :
    x.isFinite = false := by
  rw [← Bool.not_eq_true]
  intro hx
  rw [number?, if_pos hx] at h
  cases h

/-- What is no number does not have the text of an integer. -/
theorem textChars_ne_integer (hz : -2 ^ 63 ≤ z ∧ z < 2 ^ 63) (h : e.number? = none) :
    e.textChars ≠ Json.integer z := by
  have hletter : ∀ {text : List Char}, (∃ c ∈ text, c.isDigit = false ∧ c ≠ '-') →
      text ≠ Json.integer z := by
    rintro text ⟨c, hc, hdigit, hminus⟩ rfl
    rw [isDigit_of_mem_integer hc hminus] at hdigit
    cases hdigit
  cases e with
  | int n => cases h
  | uint n => cases h
  | str s =>
      intro htext
      change s.toList = Json.integer z at htext
      have hhigh : z < (unsignedBound : Int) := Int.lt_trans hz.2 (by decide)
      obtain ⟨a, hread, -⟩ := Number.ofLiteral?_integer hz.1 hhigh
      rw [number?, htext, trimBlanks_integer, hread] at h
      cases h
  | float x => exact hletter (Binary64.exists_letter_of_not_isFinite (not_isFinite_of_number? h))
  | null => exact hletter ⟨'n', by decide, by decide, by decide⟩
  | bool b =>
      apply hletter
      cases b
      · exact ⟨'f', by decide, by decide, by decide⟩
      · exact ⟨'t', by decide, by decide, by decide⟩
  | list items => exact hletter ⟨'[', List.mem_cons_self, by decide, by decide⟩
  | map fields => exact hletter ⟨'\x7b', List.mem_cons_self, by decide, by decide⟩

/-- A finite number equals no value of its own kind that is no number. -/
theorem same_of_number?_eq_none {a : Number} (ha : a.Finite) (h : e.number? = none)
    (hkind : (ofNumber a).kind = e.kind) : (ofNumber a).same e = false := by
  cases a with
  | int n =>
      cases e with
      | int m => cases h
      | _ => simp [ofNumber, kind] at hkind
  | uint n =>
      cases e with
      | uint m => cases h
      | _ => simp [ofNumber, kind] at hkind
  | float x =>
      cases e with
      | float y => exact Binary64.sameNumber_of_not_isFinite ha (not_isFinite_of_number? h)
      | _ => simp [ofNumber, kind] at hkind

/-- **An integer in whatever form equals exactly the numbers of its value.** -/
theorem same_integral_iff (h : v.rational? = some (z : ℚ)) (hz : -2 ^ 63 ≤ z ∧ z < 2 ^ 63) :
    v.same e = true ↔ ∃ b, e.number? = some b ∧ b.units = z * unitsPerOne := by
  have htext := textChars_of_integral h hz
  obtain ⟨a, rfl, ha, hunits⟩ := exists_number_of_integral h
  have hnull : (ofNumber a).isNull = false := by cases a <;> rfl
  cases hnumber : e.number? with
  | some b =>
      rw [ofNumber_same_iff ha hnumber, hunits]
      constructor
      · intro hequal
        exact ⟨b, rfl, hequal.symm⟩
      · rintro ⟨b', hb', hequal⟩
        cases hb'
        exact hequal.symm
  | none =>
      have hnone : ¬ ∃ b : Number, none = some b ∧ b.units = z * unitsPerOne := by
        rintro ⟨b, hb, -⟩
        cases hb
      refine iff_of_false ?_ hnone
      by_cases hkind : (ofNumber a).kind = e.kind
      · rw [same_of_number?_eq_none ha hnumber hkind]
        exact Bool.false_ne_true
      · cases hnull' : e.isNull with
        | true =>
            rw [isNull_iff.1 hnull', same_null, hnull]
            exact Bool.false_ne_true
        | false =>
            rw [same_iff_textChars hkind hnull hnull' (.inr hnumber), htext]
            exact (textChars_ne_integer hz hnumber).symm

/-- **An integer in whatever form has the same place among the numbers.** -/
theorem compare_integral (h : v.rational? = some (z : ℚ)) (e : Value) :
    v.compare? e =
      e.number?.map fun b => compare (z * (unitsPerOne : Int)) b.units := by
  obtain ⟨a, rfl, ha, hunits⟩ := exists_number_of_integral h
  cases hnumber : e.number? with
  | none =>
      rw [compare?, number?_ofNumber ha, hnumber]
      rfl
  | some b =>
      rw [compare?_of_number? (number?_ofNumber ha) hnumber, hunits]
      rfl

end Value

end ScenarioRunner

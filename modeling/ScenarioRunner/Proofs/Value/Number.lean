import Mathlib.Algebra.Order.Field.Rat
import Mathlib.Tactic.NormNum
import ScenarioRunner.Proofs.Binary64.Integer
import ScenarioRunner.Proofs.Value.Equality

/-!
# Numbers are compared exactly

Integers and finite floats are compared as the rational numbers that they denote
(`numbers_compare_exactly`), although an integer is rounded before it is compared with a float that
is not taken as an integer. Rounding is harmless there: it moves only integers from `2 ^ 53` on, and
a float with a fraction lies below them while the other floats are greater than every 64-bit integer.
-/

set_option autoImplicit false

namespace ScenarioRunner

/-! ## Exact values -/

namespace Number

open Binary64

/-- The exact value of a number in units. -/
def units : Number → Int
  | int n => n.toInt * unitsPerOne
  | uint n => n.toNat * unitsPerOne
  | float x => x.units

/-- Whether a number is no infinity and no NaN. -/
def Finite : Number → Prop
  | float x => x.isFinite = true
  | _ => True

/-- A number is a float, or a 64-bit integer that is taken as itself and rounded for a comparison
with floats. -/
theorem float_or_integer (a : Number) :
    (∃ x, a = float x) ∨
      ∃ n : Int, n.natAbs ≤ 2 ^ 64 ∧ a.integer? = some n ∧ a.units = n * unitsPerOne ∧
        a.toBinary64 = ofInt n := by
  cases a with
  | int n =>
      refine .inr ⟨n.toInt, ?_, rfl, rfl, rfl⟩
      have hlow := n.le_toInt
      have hhigh := n.toInt_lt
      omega
  | uint n =>
      refine .inr ⟨n.toNat, ?_, rfl, rfl, rfl⟩
      have hhigh := n.toNat_lt
      omega
  | float x => exact .inl ⟨x, rfl⟩

/-- The integers of 64 bits are below the floats that are no longer taken as integers. -/
theorem two_pow_64_lt_integerLimit : 2 ^ 64 * unitsPerOne < integerLimit.magnitude := by
  decide +kernel

/-- A number is taken as an integer when it is one and below the limit. -/
theorem integer?_eq_some_iff {a : Number} (ha : a.Finite) {n : Int} :
    a.integer? = some n ↔
      a.units = n * unitsPerOne ∧ a.units.natAbs < integerLimit.magnitude := by
  rcases a.float_or_integer with ⟨x, rfl⟩ | ⟨m, hm, hinteger, hunits, -⟩
  · change (if x.magnitude < integerLimit.magnitude then x.whole? else none) = some n ↔
      x.units = n * unitsPerOne ∧ x.units.natAbs < integerLimit.magnitude
    rw [natAbs_units]
    split
    · next hlt => rw [whole?_eq_some_iff ha, and_iff_left hlt]
    · next hge => exact iff_of_false (by simp) fun h => hge h.2
  · have hlt : a.units.natAbs < integerLimit.magnitude := by
      rw [hunits, Int.natAbs_mul, Int.natAbs_natCast]
      exact Nat.lt_of_le_of_lt (Nat.mul_le_mul_right _ hm) two_pow_64_lt_integerLimit
    have hone : (unitsPerOne : Int) ≠ 0 := by exact_mod_cast unitsPerOne_pos.ne'
    rw [hinteger, Option.some.injEq, hunits]
    rw [hunits] at hlt
    rw [mul_left_inj' hone]
    exact (and_iff_left hlt).symm

/-- A float that is not taken as an integer is far from the integers that rounding moves. -/
theorem far_of_integer?_eq_none {x : Binary64} (hx : x.isFinite = true)
    (hnone : (float x).integer? = none) :
    x.magnitude < exponentWeight * unitsPerOne ∨ 2 ^ 64 * unitsPerOne < x.magnitude := by
  by_cases hlt : x.magnitude < integerLimit.magnitude
  · refine .inl ((dvd_or_lt hx).resolve_left ?_)
    rintro ⟨k, hk⟩
    have hdvd : (unitsPerOne : Int) ∣ x.units := by
      rw [Int.natCast_dvd, natAbs_units]
      exact ⟨k, hk⟩
    obtain ⟨n, hn⟩ := hdvd
    have hsome : (float x).integer? = some n :=
      (integer?_eq_some_iff (a := float x) hx).2
        ⟨hn.trans (Int.mul_comm _ _), (natAbs_units x).trans_lt hlt⟩
    rw [hnone] at hsome
    cases hsome
  · exact .inr (Nat.lt_of_lt_of_le two_pow_64_lt_integerLimit (Nat.le_of_not_lt hlt))

/-- Two integers of one sign are on the same side of a third one that is nearer to zero than both or
farther away. -/
theorem lt_iff_of_far {u v w : Int} (low high : Nat) (hsign : u < 0 ↔ v < 0)
    (hu : low ≤ u.natAbs ∧ u.natAbs ≤ high) (hv : low ≤ v.natAbs ∧ v.natAbs ≤ high)
    (hw : w.natAbs < low ∨ high < w.natAbs) : (u < w ↔ v < w) ∧ (w < u ↔ w < v) := by
  omega

/-- Rounding an integer does not move it past a float that is not taken as an integer. -/
theorem ofInt_lt_iff {x : Binary64} {n : Int}
    (hfar : x.magnitude < exponentWeight * unitsPerOne ∨ 2 ^ 64 * unitsPerOne < x.magnitude)
    (hn : n.natAbs ≤ 2 ^ 64) :
    ((ofInt n).units < x.units ↔ n * unitsPerOne < x.units) ∧
      (x.units < (ofInt n).units ↔ x.units < n * unitsPerOne) := by
  rcases Nat.lt_or_ge n.natAbs (2 * exponentWeight) with hsmall | hlarge
  · rw [units_ofInt hsmall]
    exact ⟨Iff.rfl, Iff.rfl⟩
  · obtain ⟨hlow, hhigh⟩ := magnitude_ofInt hlarge hn
    obtain ⟨-, hnegative, -⟩ := ofInt_facts hn
    have hone : 0 < (unitsPerOne : Int) := by exact_mod_cast unitsPerOne_pos
    have habs : (n * (unitsPerOne : Int)).natAbs = n.natAbs * unitsPerOne := by
      rw [Int.natAbs_mul, Int.natAbs_natCast]
    refine lt_iff_of_far (2 * exponentWeight * unitsPerOne) (2 ^ 64 * unitsPerOne) ?_ ?_ ?_ ?_
    · have hpos : 0 < (ofInt n).magnitude :=
        Nat.lt_of_lt_of_le (Nat.mul_pos (by decide) unitsPerOne_pos) hlow
      have hnone : ¬(0 < n ∧ (unitsPerOne : Int) < 0) := fun h => lt_asymm hone h.2
      rw [units_eq, hnegative, mul_neg_iff, or_iff_right hnone, and_iff_left hone]
      by_cases hneg : n < 0 <;> simp [hneg, hpos]
    · rw [natAbs_units]
      exact ⟨hlow, hhigh⟩
    · rw [habs]
      exact ⟨Nat.mul_le_mul_right _ hlarge, Nat.mul_le_mul_right _ hn⟩
    · rw [natAbs_units]
      refine hfar.imp_left fun hlt => Nat.lt_of_lt_of_le hlt (Nat.mul_le_mul_right _ ?_)
      exact Nat.le_mul_of_pos_left _ (by decide)

theorem compare_congr {α β : Type} [LinearOrder α] [LinearOrder β] {u v : α} {u' v' : β}
    (hlt : u < v ↔ u' < v') (hgt : v < u ↔ v' < u') : compare u v = compare u' v' := by
  rcases lt_trichotomy u v with h | h | h
  · rw [compare_lt_iff_lt.2 h, compare_lt_iff_lt.2 (hlt.1 h)]
  · have h' : u' = v' := le_antisymm (not_lt.1 fun hv => (hgt.2 hv).ne' h)
      (not_lt.1 fun hv => (hlt.2 hv).ne h)
    rw [compare_eq_iff_eq.2 h, compare_eq_iff_eq.2 h']
  · rw [compare_gt_iff_gt.2 h, compare_gt_iff_gt.2 (hgt.1 h)]

theorem binary64_compare?_eq {x y : Binary64} (hx : x.isFinite = true) (hy : y.isFinite = true) :
    x.compare? y = some (compare x.units y.units) := by
  simp [Binary64.compare?, isNaN_of_isFinite hx, isNaN_of_isFinite hy]

/-- The rounded comparison is exact where it is used: when one of the numbers is not taken as an
integer. -/
theorem toBinary64_compare?_eq {a b : Number} (ha : a.Finite) (hb : b.Finite)
    (hnone : a.integer? = none ∨ b.integer? = none) :
    a.toBinary64.compare? b.toBinary64 = some (compare a.units b.units) := by
  rcases a.float_or_integer with ⟨x, rfl⟩ | ⟨m, hm, hinteger, hunits, hrounded⟩
  · rcases b.float_or_integer with ⟨y, rfl⟩ | ⟨n, hn, hinteger, hunits, hrounded⟩
    · exact binary64_compare?_eq ha hb
    · have hfar := far_of_integer?_eq_none ha (hnone.resolve_right (by simp [hinteger]))
      rw [hrounded, hunits]
      change x.compare? (ofInt n) = some (compare x.units (n * unitsPerOne))
      obtain ⟨hbelow, habove⟩ := ofInt_lt_iff hfar hn
      rw [binary64_compare?_eq ha (ofInt_facts hn).1, compare_congr habove hbelow]
  · rcases b.float_or_integer with ⟨y, rfl⟩ | ⟨n, hn, hinteger', -, -⟩
    · have hfar := far_of_integer?_eq_none hb (hnone.resolve_left (by simp [hinteger]))
      rw [hrounded, hunits]
      change (ofInt m).compare? y = some (compare (m * unitsPerOne) y.units)
      obtain ⟨hbelow, habove⟩ := ofInt_lt_iff hfar hm
      rw [binary64_compare?_eq (ofInt_facts hm).1 hb, compare_congr hbelow habove]
    · simp [hinteger, hinteger'] at hnone

/-- Finite numbers are compared by their exact values. -/
theorem compare?_eq {a b : Number} (ha : a.Finite) (hb : b.Finite) :
    a.compare? b = some (compare a.units b.units) := by
  unfold compare?
  cases hm : a.integer? with
  | none => exact toBinary64_compare?_eq ha hb (.inl hm)
  | some m =>
      cases hn : b.integer? with
      | none => exact toBinary64_compare?_eq ha hb (.inr hn)
      | some n =>
          have hone : 0 < (unitsPerOne : Int) := by exact_mod_cast unitsPerOne_pos
          rw [((integer?_eq_some_iff ha).1 hm).1, ((integer?_eq_some_iff hb).1 hn).1]
          exact congrArg some (compare_congr (mul_lt_mul_iff_left₀ hone).symm
            (mul_lt_mul_iff_left₀ hone).symm)

/-- Finite numbers are equal when their exact values are. -/
theorem same_iff {a b : Number} (ha : a.Finite) (hb : b.Finite) :
    a.same b = true ↔ a.units = b.units := by
  unfold same
  cases hm : a.integer? with
  | none =>
      cases hn : b.integer? with
      | none =>
          simp [Binary64.sameNumber, toBinary64_compare?_eq ha hb (.inl hm)]
      | some n =>
          refine iff_of_false (by simp) fun hunits => ?_
          rw [(integer?_eq_some_iff ha).2 (hunits ▸ (integer?_eq_some_iff hb).1 hn)] at hm
          cases hm
  | some m =>
      cases hn : b.integer? with
      | none =>
          refine iff_of_false (by simp) fun hunits => ?_
          rw [(integer?_eq_some_iff hb).2 (hunits ▸ (integer?_eq_some_iff ha).1 hm)] at hn
          cases hn
      | some n =>
          have hone : (unitsPerOne : Int) ≠ 0 := by exact_mod_cast unitsPerOne_pos.ne'
          rw [((integer?_eq_some_iff ha).1 hm).1, ((integer?_eq_some_iff hb).1 hn).1,
            mul_left_inj' hone]
          exact beq_iff_eq

end Number

/-! ## Numeric values -/

namespace Value

open Binary64 (unitsPerOne unitsPerOne_pos)

/-- The rational number that an integer or a finite float denotes. -/
def rational? : Value → Option ℚ
  | int n => some n.toInt
  | uint n => some n.toNat
  | float x => if x.isFinite then some ((x.units : ℚ) / unitsPerOne) else none
  | _ => none

/-- A number as a value of its own kind. -/
def ofNumber : Number → Value
  | .int n => int n
  | .uint n => uint n
  | .float x => float x

theorem number?_ofNumber {a : Number} (ha : a.Finite) : (ofNumber a).number? = some a := by
  cases a with
  | int n => rfl
  | uint n => rfl
  | float x => exact if_pos ha

/-- A value that denotes a rational number is a finite number of this value. -/
theorem exists_number {v : Value} {p : ℚ} (h : v.rational? = some p) :
    ∃ a : Number, v = ofNumber a ∧ a.Finite ∧ p = (a.units : ℚ) / unitsPerOne := by
  have hone : (unitsPerOne : ℚ) ≠ 0 := by exact_mod_cast unitsPerOne_pos.ne'
  cases v with
  | int n =>
      cases h
      refine ⟨.int n, rfl, trivial, ?_⟩
      rw [Number.units, Int.cast_mul, Int.cast_natCast, mul_div_cancel_right₀ _ hone]
  | uint n =>
      cases h
      refine ⟨.uint n, rfl, trivial, ?_⟩
      rw [Number.units, Int.cast_mul, Int.cast_natCast, Int.cast_natCast,
        mul_div_cancel_right₀ _ hone]
  | float x =>
      by_cases hx : x.isFinite = true
      · rw [rational?, if_pos hx] at h
        cases h
        exact ⟨.float x, rfl, hx, rfl⟩
      · rw [rational?, if_neg hx] at h
        cases h
  | null | bool _ | str _ | list _ | map _ => cases h

/-- Finite numbers are equal as values when their exact values are, also two of one kind. -/
theorem same_ofNumber_iff {a b : Number} (ha : a.Finite) (hb : b.Finite) :
    (ofNumber a).same (ofNumber b) = true ↔ a.units = b.units := by
  have hone : (unitsPerOne : Int) ≠ 0 := by exact_mod_cast unitsPerOne_pos.ne'
  cases a <;> cases b
  case int.int m n =>
    change (m == n) = true ↔ m.toInt * (unitsPerOne : Int) = n.toInt * unitsPerOne
    rw [mul_left_inj' hone, Int64.toInt_inj, beq_iff_eq]
  case uint.uint m n =>
    change (m == n) = true ↔ (m.toNat : Int) * (unitsPerOne : Int) = n.toNat * unitsPerOne
    rw [mul_left_inj' hone, Int.natCast_inj, UInt64.toNat_inj, beq_iff_eq]
  case float.float x y =>
    simp [ofNumber, same, Number.units, Binary64.sameNumber, Number.binary64_compare?_eq ha hb]
  -- numbers of different kinds are compared as numbers
  all_goals
    rw [same_of_kind_ne (by simp [ofNumber, kind]) rfl rfl, sameAcrossKinds, number?_ofNumber ha,
      number?_ofNumber hb]
    exact Number.same_iff ha hb

/-- Finite numbers are compared as values by their exact values. -/
theorem compare?_ofNumber {a b : Number} (ha : a.Finite) (hb : b.Finite) :
    (ofNumber a).compare? (ofNumber b) = some (compare a.units b.units) := by
  rw [compare?, number?_ofNumber ha, number?_ofNumber hb]
  exact Number.compare?_eq ha hb

/-- A value compares as less than another one, or as equal to it. -/
def AtMost (a b : Value) : Prop := ∃ order, a.compare? b = some order ∧ order ≠ .gt

/-- **Integers and finite floats are compared as the rational numbers that they denote.** They are
equal when these are, their order is the order of these, equality is the order `eq`, and the order
is total and transitive. -/
theorem numbers_compare_exactly {a b c : Value} {p q r : ℚ} (ha : a.rational? = some p)
    (hb : b.rational? = some q) (hc : c.rational? = some r) :
    (a.same b = true ↔ p = q) ∧ a.compare? b = some (compare p q) ∧
      (a.same b = true ↔ a.compare? b = some .eq) ∧ (a.AtMost b ∨ b.AtMost a) ∧
      (a.AtMost b → b.AtMost c → a.AtMost c) := by
  have hone : (0 : ℚ) < unitsPerOne := by exact_mod_cast unitsPerOne_pos
  have hcompare : ∀ {v w : Value} {s t : ℚ}, v.rational? = some s → w.rational? = some t →
      v.compare? w = some (compare s t) := by
    intro v w s t hv hw
    obtain ⟨x, rfl, hx, rfl⟩ := exists_number hv
    obtain ⟨y, rfl, hy, rfl⟩ := exists_number hw
    rw [compare?_ofNumber hx hy]
    refine congrArg some (Number.compare_congr ?_ ?_)
    · rw [div_lt_div_iff_of_pos_right hone, Int.cast_lt]
    · rw [div_lt_div_iff_of_pos_right hone, Int.cast_lt]
  have hatMost : ∀ {v w : Value} {s t : ℚ}, v.rational? = some s → w.rational? = some t →
      (v.AtMost w ↔ s ≤ t) := by
    intro v w s t hv hw
    simp [AtMost, hcompare hv hw, compare_le_iff_le]
  have hsame : a.same b = true ↔ p = q := by
    obtain ⟨x, rfl, hx, rfl⟩ := exists_number ha
    obtain ⟨y, rfl, hy, rfl⟩ := exists_number hb
    rw [same_ofNumber_iff hx hy, div_left_inj' hone.ne', Int.cast_inj]
  refine ⟨hsame, hcompare ha hb, ?_, ?_, ?_⟩
  · rw [hsame, hcompare ha hb, Option.some.injEq, compare_eq_iff_eq]
  · rw [hatMost ha hb, hatMost hb ha]
    exact le_total p q
  · rw [hatMost ha hb, hatMost hb hc, hatMost ha hc]
    exact le_trans

/-- The least integer that rounding moves is greater than the float that it is rounded to, and below
the float next to `10 ^ 38`. -/
theorem above_two_pow_53_compared :
    (int 9007199254740993).rational? = some 9007199254740993 ∧
      (float ⟨0x4340000000000000⟩).rational? = some 9007199254740992 ∧
      (float Number.integerLimit).rational? = some 99999999999999997748809823456034029568 ∧
      (int 9007199254740993).same (float ⟨0x4340000000000000⟩) = false ∧
      (int 9007199254740993).compare? (float ⟨0x4340000000000000⟩) = some .gt ∧
      (float ⟨0x4340000000000000⟩).AtMost (int 9007199254740993) ∧
      (int 9007199254740993).AtMost (float Number.integerLimit) ∧
      (float ⟨0x4340000000000000⟩).AtMost (float Number.integerLimit) := by
  have hint : (int 9007199254740993).rational? = some 9007199254740993 := by decide +kernel
  have hnear : (float ⟨0x4340000000000000⟩).rational? = some 9007199254740992 := by decide +kernel
  have hgreat : (float Number.integerLimit).rational? =
      some 99999999999999997748809823456034029568 := by decide +kernel
  obtain ⟨hsame, hcompare, -, htotal, -⟩ := numbers_compare_exactly hint hnear hgreat
  obtain ⟨-, -, -, -, htrans⟩ := numbers_compare_exactly hnear hint hgreat
  have hgt : (int 9007199254740993).compare? (float ⟨0x4340000000000000⟩) = some .gt := by
    rw [hcompare, compare_gt_iff_gt.2 (by norm_num)]
  have hbelow : (float ⟨0x4340000000000000⟩).AtMost (int 9007199254740993) := by
    refine htotal.resolve_left ?_
    rintro ⟨order, horder, hne⟩
    rw [hgt] at horder
    cases horder
    exact hne rfl
  have habove : (int 9007199254740993).AtMost (float Number.integerLimit) :=
    ⟨.lt, by decide +kernel, by decide⟩
  refine ⟨hint, hnear, hgreat, ?_, hgt, hbelow, habove, htrans hbelow habove⟩
  rw [← Bool.not_eq_true, hsame]
  norm_num

end Value

end ScenarioRunner

import ScenarioRunner.Proofs.Value.FloatText

/-!
# Values equal their text

A value that is not `null` equals its own text form (`same_text_iff`): numbers are read back as what
they are, and all other kinds are compared by text. The exception are the floats whose text is read
as another integer.
-/

set_option autoImplicit false

namespace ScenarioRunner

namespace Value

variable {v : Value}

/-- Whether a value is a float whose text writes another integer. -/
def WritesOtherInteger : Value → Prop
  | float x => x.WritesOtherInteger
  | _ => False

/-- A value that is no number is compared with its text by text. -/
theorem same_text_of_number?_eq_none (hnull : v.isNull = false) (hkind : v.kind ≠ "string")
    (hnone : v.number? = none) : v.same (.str v.text) = true := by
  rw [same_iff_textChars hkind hnull rfl (.inl hnone), text_eq]
  exact String.toList_ofList.symm

/-- A number is compared with its text by the number that the text writes. -/
theorem same_text_of_number? {a b : Number} (hkind : v.kind ≠ "string")
    (hnumber : v.number? = some a) (ha : a.Finite)
    (htext : Number.ofLiteral? (trimBlanks v.textChars) = some b) :
    v.same (.str v.text) = true ↔ a.units = b.units := by
  have hread : (str v.text).number? = some b := by
    rw [number?, text_eq, String.toList_ofList, htext]
  rcases eq_ofNumber_or_str hnumber with rfl | ⟨s, rfl⟩
  · exact ofNumber_same_iff ha hread
  · exact absurd rfl hkind

/-- A 64-bit integer equals its text. -/
theorem same_text_of_integer {a : Number} {n : Int} (hkind : v.kind ≠ "string")
    (hnumber : v.number? = some a) (ha : a.Finite) (hunits : a.units = n * Binary64.unitsPerOne)
    (htext : v.textChars = Json.integer n) (hlow : -(signedBound : Int) ≤ n)
    (hhigh : n < (unsignedBound : Int)) : v.same (.str v.text) = true := by
  obtain ⟨b, hread, -, hunits'⟩ := Number.ofLiteral?_integer hlow hhigh
  rw [same_text_of_number? hkind hnumber ha (by rw [htext, trimBlanks_integer, hread]),
    hunits, hunits']

/-- **A value that is not `null` equals its own text form**, unless it is a float whose text writes
another integer. -/
theorem same_text_iff (hnull : v ≠ null) :
    v.same (.str v.text) = true ↔ ¬v.WritesOtherInteger := by
  cases v with
  | null => exact absurd rfl hnull
  | str s => simp [same, text, WritesOtherInteger]
  | bool b =>
      exact iff_of_true (same_text_of_number?_eq_none rfl (by simp [kind]) rfl) not_false
  | list items =>
      exact iff_of_true (same_text_of_number?_eq_none rfl (by simp [kind]) rfl) not_false
  | map fields =>
      exact iff_of_true (same_text_of_number?_eq_none rfl (by simp [kind]) rfl) not_false
  | int n =>
      have hlow := n.le_toInt
      have hhigh := n.toInt_lt
      exact iff_of_true (same_text_of_integer (v := int n) (by simp [kind]) rfl trivial rfl rfl
        (by unfold signedBound; omega) (by unfold unsignedBound; omega)) not_false
  | uint n =>
      have hhigh := n.toNat_lt
      exact iff_of_true (same_text_of_integer (v := uint n) (by simp [kind]) rfl trivial rfl rfl
        (by unfold signedBound; omega) (by unfold unsignedBound; omega)) not_false
  | float x =>
      by_cases hx : x.isFinite = true
      · obtain ⟨a, hread, -, hunits⟩ := Binary64.ofLiteral?_text hx
        have hnumber : (float x).number? = some (.float x) := if_pos hx
        rw [same_text_of_number? (by simp [kind]) hnumber hx
          (by rw [textChars, Binary64.trimBlanks_text hx, hread])]
        exact hunits
      · refine iff_of_true (same_text_of_number?_eq_none rfl (by simp [kind]) (if_neg hx)) ?_
        -- a float that is not finite denotes no integer at all
        rintro ⟨m, -, hm, -⟩
        simp [Binary64.whole?, hx] at hm

end Value

end ScenarioRunner

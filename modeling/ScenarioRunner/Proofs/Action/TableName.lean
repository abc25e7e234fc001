import ScenarioRunner.Action.SoftDelete
import ScenarioRunner.Proofs.Value.Path

/-!
# The names of tables

A name is written into a statement as it is, so it has to be an identifier, or several joined by
points. `TableName` says so without cutting the name at its points; it is what the check accepts
(`checkTable_eq_ok_iff`).
-/

set_option autoImplicit false

namespace ScenarioRunner

/-- A letter of ASCII. -/
def IsLetter (c : Char) : Prop := ('A' ≤ c ∧ c ≤ 'Z') ∨ ('a' ≤ c ∧ c ≤ 'z')

/-- A digit of ASCII. -/
def IsDecimal (c : Char) : Prop := '0' ≤ c ∧ c ≤ '9'

theorem isAlpha_iff (c : Char) : c.isAlpha = true ↔ IsLetter c := by
  have hupper : c.isUpper = true ↔ 'A' ≤ c ∧ c ≤ 'Z' := decide_eq_true_iff
  have hlower : c.isLower = true ↔ 'a' ≤ c ∧ c ≤ 'z' :=
    Bool.and_eq_true_iff.trans (and_congr decide_eq_true_iff decide_eq_true_iff)
  exact Bool.or_eq_true_iff.trans (or_congr hupper hlower)

theorem isAlphanum_iff (c : Char) : c.isAlphanum = true ↔ IsLetter c ∨ IsDecimal c := by
  rw [Char.isAlphanum, Bool.or_eq_true, isAlpha_iff]
  simp [Char.isDigit, IsDecimal, Char.le_def, UInt32.le_iff_toNat_le]

namespace SoftDelete

/-- A letter or an underscore, and behind it letters, digits and underscores. -/
def Identifier (text : List Char) : Prop :=
  ∃ c rest, text = c :: rest ∧ (IsLetter c ∨ c = '_') ∧
    ∀ d ∈ rest, IsLetter d ∨ IsDecimal d ∨ d = '_'

/-- One identifier, or several joined by points. -/
def TableName (table : String) : Prop :=
  ∃ parts : List (List Char), parts ≠ [] ∧ (∀ part ∈ parts, Identifier part) ∧
    table.toList = ['.'].intercalate parts

theorem isInitial_iff (c : Char) : isInitial c = true ↔ IsLetter c ∨ c = '_' := by
  rw [isInitial, Bool.or_eq_true, isAlpha_iff, beq_iff_eq]

theorem isInner_iff (c : Char) : isInner c = true ↔ IsLetter c ∨ IsDecimal c ∨ c = '_' := by
  rw [isInner, Bool.or_eq_true, isAlphanum_iff, beq_iff_eq, or_assoc]

theorem isIdentifier_iff (text : List Char) : isIdentifier text = true ↔ Identifier text := by
  cases text with
  | nil => simp [isIdentifier, Identifier]
  | cons c rest =>
      simp only [isIdentifier, Bool.and_eq_true, List.all_eq_true, isInitial_iff, isInner_iff]
      constructor
      · exact fun h => ⟨c, rest, rfl, h⟩
      · rintro ⟨_, _, heq, h⟩
        cases heq
        exact h

/-- There is no point in an identifier. -/
theorem Identifier.noPoint {part : List Char} (h : Identifier part) : '.' ∉ part := by
  obtain ⟨c, rest, rfl, hfirst, hrest⟩ := h
  have hpoint : ¬(IsLetter '.' ∨ '.' = '_') ∧ ¬(IsLetter '.' ∨ IsDecimal '.' ∨ '.' = '_') := by
    unfold IsLetter IsDecimal
    decide
  rintro hmem
  rcases List.mem_cons.1 hmem with rfl | hmem
  · exact hpoint.1 hfirst
  · exact hpoint.2 (hrest _ hmem)

/-- What is cut at its points is joined by them, and the other way round. -/
theorem isTableName_iff (table : String) : isTableName table.toList = true ↔ TableName table := by
  rw [isTableName, splitAtPoints_eq, List.all_eq_true]
  simp only [isIdentifier_iff]
  constructor
  · intro h
    refine ⟨table.toList.splitOn '.', List.splitOnP_ne_nil _ _, h, ?_⟩
    exact (List.intercalate_splitOn _).symm
  · rintro ⟨parts, hne, hparts, hjoined⟩
    rw [hjoined, List.splitOn_intercalate '.' (fun part hpart => (hparts part hpart).noPoint) hne]
    exact hparts

theorem TableName.ne_empty {table : String} (h : TableName table) : table ≠ "" := by
  rintro rfl
  rw [← isTableName_iff] at h
  cases h

/-- **A table is accepted exactly when its name is one.** -/
theorem checkTable_eq_ok_iff (table : String) : checkTable table = .ok () ↔ TableName table := by
  unfold checkTable
  by_cases hempty : table = ""
  · rw [if_pos (by simp [hempty])]
    exact iff_of_false (by simp) fun h => h.ne_empty hempty
  · rw [if_neg (by simpa using hempty), ← isTableName_iff]
    cases isTableName table.toList <;> simp

end SoftDelete

end ScenarioRunner

import Mathlib.Data.List.Infix
import ScenarioRunner.Text.Blank

/-!
# Trimming

Trimming takes a piece out of a text (`isInfix_trimBlanks`) and leaves no character out but blanks
(`mem_trimBlanks`). A text without blanks is trimmed, and a trimmed text stays trimmed behind a character
that is not blank (`trimBlanks_cons`).
-/

set_option autoImplicit false

namespace ScenarioRunner

theorem isPrefix_trimBlanks (text : List Char) : trimBlanks text <+: text.dropWhile isBlank := by
  rw [trimBlanks, ← List.reverse_suffix, List.reverse_reverse]
  exact List.dropWhile_suffix _

/-- A trimmed text stands in the text. -/
theorem isInfix_trimBlanks (text : List Char) : trimBlanks text <:+: text :=
  (isPrefix_trimBlanks text).isInfix.trans (List.dropWhile_suffix _).isInfix

/-- Trimming takes away blanks only. -/
theorem mem_trimBlanks {text : List Char} {c : Char} (hc : isBlank c = false) (h : c ∈ text) :
    c ∈ trimBlanks text := by
  have hdrop : ∀ part : List Char, c ∈ part → c ∈ part.dropWhile isBlank := by
    intro part hpart
    rw [← List.takeWhile_append_dropWhile (p := isBlank) (l := part), List.mem_append] at hpart
    refine hpart.resolve_left fun hblank => ?_
    rw [List.all_eq_true.1 List.all_takeWhile c hblank] at hc
    cases hc
  rw [trimBlanks, List.mem_reverse]
  exact hdrop _ (List.mem_reverse.2 (hdrop text h))

theorem trimBlanks_eq_self {text : List Char} (h : ∀ c ∈ text, isBlank c = false) :
    trimBlanks text = text := by
  have hdrop : ∀ part : List Char, (∀ c ∈ part, isBlank c = false) →
      part.dropWhile isBlank = part := by
    intro part hpart
    cases part with
    | nil => rfl
    | cons c rest => simp [hpart c List.mem_cons_self]
  rw [trimBlanks, hdrop text h, hdrop text.reverse (by simpa using h), List.reverse_reverse]

/-- A trimmed text has no blanks at its end. -/
theorem dropWhile_reverse_of_trimmed {text : List Char} (h : trimBlanks text = text) :
    text.reverse.dropWhile isBlank = text.reverse := by
  have hfront : text.dropWhile isBlank = text := by
    refine (List.dropWhile_suffix _).eq_of_length_le ?_
    have hlength := (isPrefix_trimBlanks text).length_le
    rwa [h] at hlength
  have hback := congrArg List.reverse h
  rwa [trimBlanks, hfront, List.reverse_reverse] at hback

/-- A character that is not blank before a trimmed text leaves nothing to trim. -/
theorem trimBlanks_cons {c : Char} {text : List Char} (hc : isBlank c = false)
    (h : trimBlanks text = text) : trimBlanks (c :: text) = c :: text := by
  have hback := dropWhile_reverse_of_trimmed h
  rw [trimBlanks, List.dropWhile_cons_of_neg (by simp [hc]), List.reverse_cons,
    List.dropWhile_append, hback]
  split
  · next hempty =>
      rw [List.isEmpty_iff, List.reverse_eq_nil_iff] at hempty
      simp [hempty, hc]
  · rw [List.reverse_append, List.reverse_reverse]
    rfl

end ScenarioRunner

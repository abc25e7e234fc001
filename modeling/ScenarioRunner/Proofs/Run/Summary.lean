import Mathlib.Algebra.Ring.Nat
import ScenarioRunner.Run.Result

/-!
# Counts of results

The counts of a run grow with each result that is read, and its outcome says which of them do
(`add_eq`). By induction on the results, each of them is counted once, under its outcome
(`ofResults_eq`), and what counts as failed or skipped is what has not passed
(`failed_add_skipped`).
-/

set_option autoImplicit false

namespace ScenarioRunner

theorem Outcome.isPassed_iff (outcome : Outcome) : outcome.isPassed = true ↔ outcome = .passed := by
  cases outcome <;> simp [isPassed]

namespace Summary

/-- One more result is counted under its outcome. -/
theorem add_eq (summary : Summary) (result : CaseResult) :
    summary.add result =
      { total := summary.total + 1
        passed := summary.passed + if result.outcome.isPassed then 1 else 0
        failed := summary.failed + if result.outcome.isFailed then 1 else 0
        skipped := summary.skipped + if result.outcome.isSkipped then 1 else 0
        duration := summary.duration + result.duration } := by
  unfold add
  cases result.outcome <;> rfl

/-- Further results add their numbers to what has been counted before them. -/
theorem foldl_add (results : List CaseResult) (summary : Summary) :
    results.foldl add summary =
      { total := summary.total + results.length
        passed := summary.passed + results.countP (·.outcome.isPassed)
        failed := summary.failed + results.countP (·.outcome.isFailed)
        skipped := summary.skipped + results.countP (·.outcome.isSkipped)
        duration := summary.duration + (results.map CaseResult.duration).sum } := by
  induction results generalizing summary with
  | nil => rfl
  | cons result rest ih =>
      rw [List.foldl_cons, ih, add_eq]
      simp only [List.length_cons, List.countP_cons, List.map_cons, List.sum_cons, mk.injEq]
      omega

variable (results : List CaseResult)

/-- **The counts are the numbers of results with each outcome.** -/
theorem ofResults_eq :
    ofResults results =
      { total := results.length
        passed := results.countP (·.outcome.isPassed)
        failed := results.countP (·.outcome.isFailed)
        skipped := results.countP (·.outcome.isSkipped)
        duration := (results.map CaseResult.duration).sum } := by
  rw [ofResults, foldl_add]
  simp only [Nat.zero_add]

/-- The results that have failed and those that were skipped are the ones that have not passed. -/
theorem failed_add_skipped :
    (ofResults results).failed + (ofResults results).skipped =
      results.countP fun result => decide (result.outcome ≠ .passed) := by
  have hone : ∀ outcome : Outcome,
      ((if outcome.isFailed then 1 else 0) + if outcome.isSkipped then 1 else 0) =
        if decide (outcome ≠ .passed) then 1 else 0 := by
    intro outcome
    cases outcome <;> rfl
  rw [ofResults_eq]
  induction results with
  | nil => rfl
  | cons result rest ih =>
      have hresult := hone result.outcome
      simp only [List.countP_cons] at ih ⊢
      omega

/-- Every result is counted once. -/
theorem passed_add_failed_add_skipped :
    (ofResults results).passed + (ofResults results).failed + (ofResults results).skipped =
      (ofResults results).total := by
  have hpassed : (ofResults results).passed =
      results.countP fun result => decide (result.outcome = .passed) := by
    rw [ofResults_eq]
    refine List.countP_congr fun result _ => ?_
    rw [decide_eq_true_eq, Outcome.isPassed_iff]
  have hlength :=
    results.length_eq_countP_add_countP fun result => decide (result.outcome = .passed)
  rw [Nat.add_assoc, failed_add_skipped, hpassed, ofResults_eq, hlength]
  simp only [decide_eq_true_eq, ne_eq]

end Summary

end ScenarioRunner

import ScenarioRunner.Proofs.Run.Deadline
import ScenarioRunner.Proofs.Run.Summary

/-!
# The time of a run

A case takes the time of its replies and of the waits between its attempts, up to the deadline
(`Turn.duration_eq`), and its result says so. The clock does not move otherwise between the setup and the
teardown, so the durations of the results add up to all of this time (`time_accounted_for`).
-/

set_option autoImplicit false

namespace ScenarioRunner

variable {σ : Type}

/-- A time, or the deadline if this comes first. -/
def cutAt (deadline : Option Nat) (time : Nat) : Nat :=
  match deadline with
  | none => time
  | some d => min time d

theorem cutAt_of_le {deadline : Option Nat} {time : Nat} (h : ∀ d, deadline = some d → time ≤ d) :
    cutAt deadline time = time := by
  cases deadline with
  | none => rfl
  | some d => exact Nat.min_eq_left (h d rfl)

namespace Case

variable {c : Case} {course : Course σ} {store : Fields Value}

instance (c : Case) (deadline : Option Nat) (left : Nat) (xs : List Exchange) :
    Decidable (c.WaitCut deadline left xs) :=
  inferInstanceAs (Decidable (xs.length ≤ left ∧ ∃ x ∈ xs.getLast?, x.InTime deadline ∧ x.Retryable ∧
    ∃ d ∈ deadline, d < x.time + x.reply.delay + c.retryPolicy.interval))

/-- How many waits for another attempt have begun: one before each further exchange, and the one that is
cut. -/
def waits (c : Case) (deadline : Option Nat) (left : Nat) (xs : List Exchange) : Nat :=
  xs.length - 1 + if c.WaitCut deadline left xs then 1 else 0

/-- The time of the replies and of the waits of a case, if none were cut. -/
def awaited (c : Case) (deadline : Option Nat) (left : Nat) (xs : List Exchange) : Nat :=
  xs.foldr (fun x time => x.reply.delay + time) 0 + c.waits deadline left xs * c.retryPolicy.interval

theorem awaited_singleton {deadline : Option Nat} {left : Nat} (x : Exchange) :
    c.awaited deadline left [x] =
      x.reply.delay + if c.WaitCut deadline left [x] then c.retryPolicy.interval else 0 := by
  rw [awaited, waits, List.foldr_cons, List.foldr_nil, List.length_singleton]
  split
  · omega
  · omega

/-- An exchange before others adds its reply and one wait. -/
theorem awaited_cons {deadline : Option Nat} {left : Nat} {x : Exchange} {rest : List Exchange}
    (hrest : rest ≠ []) :
    c.awaited deadline (left + 1) (x :: rest) =
      x.reply.delay + c.retryPolicy.interval + c.awaited deadline left rest := by
  have hlength : 0 < rest.length := List.length_pos_iff.2 hrest
  have hwaits : c.waits deadline (left + 1) (x :: rest) = c.waits deadline left rest + 1 := by
    simp only [waits, waitCut_cons_iff hrest, List.length_cons]
    omega
  rw [awaited, hwaits, awaited, List.foldr_cons, Nat.succ_mul]
  omega

/-- Attempts that begin by the deadline take the time that is awaited, up to the deadline. -/
theorem Attempts.clock_eq {left : Nat} {world : World σ} {xs : List Exchange} {sent : Sent σ}
    (h : c.Attempts course store left world xs sent)
    (hstart : ∀ d, course.deadline = some d → world.clock ≤ d) :
    sent.world.clock = cutAt course.deadline (world.clock + c.awaited course.deadline left xs) := by
  induction h with
  | @last left world behind outcome received final =>
      rw [awaited_singleton, if_neg (not_waitCut_of_final received final), Nat.add_zero]
      by_cases htime : (c.exchange course store world).InTime course.deadline
      · have hclock := (received_of_inTime htime).2
        rw [received] at hclock
        exact hclock.trans (cutAt_of_le htime).symm
      · obtain ⟨-, d, hd, hclock⟩ := received_of_not_inTime htime
        obtain ⟨d', hd', hlt⟩ := exists_lt_of_not_le htime
        rw [received] at hclock
        cases hd.symm.trans hd'
        have hle := hstart d hd
        have hlt : d < world.clock + (c.exchange course store world).reply.delay := hlt
        rw [hd, cutAt]
        dsimp only at hclock ⊢
        omega
  | @cut left world behind waited e cut received retryable wait =>
      obtain ⟨htime, -⟩ := inTime_of_retryable received retryable
      have hclock := (received_of_inTime htime).2
      rw [received] at hclock
      -- the wait counts as a whole in what is awaited, and the deadline takes off what is cut
      have hcut := waitCut_of_wait left received retryable wait
      obtain ⟨-, d, hd, hlt, rfl⟩ := World.of_wait_error wait
      have hle : behind.clock ≤ d := hclock ▸ htime d hd
      rw [awaited_singleton, if_pos hcut, hd, cutAt]
      dsimp only at hclock ⊢
      omega
  | @again left world behind waited e rest sent received retryable wait further ih =>
      obtain ⟨htime, -⟩ := inTime_of_retryable received retryable
      have hclock := (received_of_inTime htime).2
      rw [received] at hclock
      obtain ⟨hle, rfl⟩ := World.of_wait_ok wait
      dsimp only at hclock
      -- the further attempts begin behind the reply and the wait
      have hsplit : world.clock + c.awaited course.deadline (left + 1)
            (c.exchange course store world :: rest) =
          behind.clock + c.retryPolicy.interval + c.awaited course.deadline left rest := by
        rw [awaited_cons further.ne_nil, hclock]
        omega
      rw [hsplit]
      exact ih hle

end Case

namespace Turn

variable {turn : Turn σ} {executed : Executed σ}

/-- The time of the replies and of the waits of the case, if none were cut. -/
def awaited (turn : Turn σ) : Nat :=
  turn.case.awaited turn.course.deadline (turn.case.retryPolicy.attempts - 1) turn.exchanges

/-- The result of a turn takes the time by which the turn moves the clock. -/
theorem Ends.clock_add_duration (h : turn.Ends executed) :
    turn.world.clock + executed.result.duration = executed.world.clock := by
  have hjudged : turn.Starts →
      turn.world.clock + (turn.sent.world.clock - turn.world.clock) = turn.sent.world.clock :=
    fun starts => Nat.add_sub_of_le (attempts_of_starts starts).clock_le
  -- a case that is not sent leaves the world as it is, with a duration of zero
  cases h with
  | skipped closed => rfl
  | late opened deadline passed => rfl
  | unanswered starts outcome => exact hjudged starts
  | unreadable starts outcome body => exact hjudged starts
  | rejected starts outcome body check => exact hjudged starts
  | passed starts outcome body check => exact hjudged starts

theorem clock_add_duration (turn : Turn σ) :
    turn.world.clock + turn.result.duration = turn.executed.world.clock :=
  turn.ends.clock_add_duration

/-- A turn in which the case starts ends when its attempts are over. -/
theorem Ends.clock_of_starts (h : turn.Ends executed) (hstarts : turn.Starts) :
    executed.world.clock = turn.sent.world.clock := by
  cases h with
  | skipped closed => exact absurd hstarts (not_starts_of_closed closed)
  | late opened deadline passed => exact absurd hstarts (not_starts_of_late deadline passed)
  | unanswered starts outcome => rfl
  | unreadable starts outcome body => rfl
  | rejected starts outcome body check => rfl
  | passed starts outcome body check => rfl

/-- A turn in which the case does not start takes no time. -/
theorem duration_of_not_starts (h : ¬turn.Starts) : turn.result.duration = 0 := by
  have hclock := turn.clock_add_duration
  rcases turn.ends.clock_eq with hsame | ⟨hstarts, -⟩
  · omega
  · exact absurd hstarts h

/-- A case that is skipped has not started. -/
theorem not_starts_of_isSkipped (h : turn.result.outcome.isSkipped = true) : ¬turn.Starts := by
  unfold result at h
  generalize hexecuted : turn.executed = executed at h
  have hends := turn.ends
  rw [hexecuted] at hends
  cases hends with
  | skipped closed => exact not_starts_of_closed closed
  | late opened deadline passed => cases h
  | unanswered starts outcome => cases h
  | unreadable starts outcome body => cases h
  | rejected starts outcome body check => cases h
  | passed starts outcome body check => cases h

/-- **A case takes the time of its replies and its waits, up to the deadline.** -/
theorem duration_eq (turn : Turn σ) :
    turn.result.duration =
      cutAt (turn.course.deadline.map (· - turn.world.clock)) turn.awaited := by
  by_cases hstarts : turn.Starts
  · have hstart : ∀ d, turn.course.deadline = some d → turn.world.clock ≤ d :=
      fun d hd => Nat.le_of_lt (hstarts.2 d hd)
    have hsent := (attempts_of_starts hstarts).clock_eq hstart
    have hclock := turn.clock_add_duration
    rw [turn.ends.clock_of_starts hstarts, hsent] at hclock
    unfold awaited
    cases hdeadline : turn.course.deadline with
    | none =>
        rw [hdeadline] at hclock
        exact Nat.add_left_cancel hclock
    | some d =>
        rw [hdeadline] at hclock
        have hle := hstart d hdeadline
        simp only [cutAt, Option.map_some] at hclock ⊢
        omega
  · have hnone : turn.awaited = 0 := by
      rw [awaited, exchanges_of_not_starts hstarts]
      simp [Case.awaited, Case.waits, Case.WaitCut]
    rw [duration_of_not_starts hstarts, hnone]
    cases turn.course.deadline with
    | none => rfl
    | some d => exact (Nat.zero_min _).symm

end Turn

namespace Case

variable {course : Course σ}

/-- The durations of the results of cases add up to the time that the cases take. -/
theorem clock_add_duration_executeAll (past : List CaseResult) (store : Fields Value)
    (cases : List (String × Case)) (world : World σ) :
    world.clock + (Summary.ofResults (executeAll course past store cases world).results).duration =
      (executeAll course past store cases world).world.clock := by
  induction cases generalizing past store world with
  | nil => rfl
  | cons label rest ih =>
      have hturn := Turn.clock_add_duration ⟨course, label.1, label.2, past, store, world⟩
      simp only [executeAll, Summary.ofResults_eq, List.map_cons, List.sum_cons] at ih ⊢
      rw [← ih, ← Nat.add_assoc]
      exact congrArg (· + _) hturn

end Case

namespace Suite

variable {suite : Suite} {setting : Setting σ} {world : World σ} {report : Report}

/-- **The time of a run is that of its cases, neither lost nor counted twice.** The duration of a result is
the time by which the clock moves between the cases before it and those behind it: the time of the replies
and of the waits for further attempts, up to the deadline. A case that is skipped or comes after the
deadline takes no time. All durations add up to the time between the setup and the teardown. -/
theorem time_accounted_for (hrun : (suite.run setting world).1 = .ok report) :
    (∀ (i : Nat) (c : Case), suite.cases[i]? = some c →
      ∃ turn, (suite.turns setting world)[i]? = some turn ∧ turn.case = c ∧
        report.results[i]? = some turn.result ∧
        turn.world.clock = (suite.casePhaseAt setting world i).world.clock ∧
        turn.world.clock + turn.result.duration =
          (suite.casePhaseAt setting world (i + 1)).world.clock ∧
        turn.result.duration =
          cutAt (turn.course.deadline.map (· - turn.world.clock)) turn.awaited ∧
        (turn.result.outcome.isSkipped = true ∨
            (∃ d, turn.course.deadline = some d ∧ d ≤ turn.world.clock) →
          turn.result.duration = 0)) ∧
      (suite.setupPhase setting world).2.world.clock + (Summary.ofResults report.results).duration =
        (suite.casePhase setting world).world.clock := by
  constructor
  · intro i c hc
    obtain ⟨turn, hturn, hcase⟩ := turn_of_case hrun hc
    refine ⟨turn, hturn, hcase, result_of_turn hrun hturn, ?_, ?_, turn.duration_eq, ?_⟩
    · rw [(turn_eq hturn).2.2.2.2]
    · rw [world_casePhaseAt_succ hturn]
      exact turn.clock_add_duration
    · rintro (hskipped | ⟨d, hdeadline, hlate⟩)
      · exact Turn.duration_of_not_starts (Turn.not_starts_of_isSkipped hskipped)
      · exact Turn.duration_of_not_starts (Turn.not_starts_of_late hdeadline hlate)
  · have hsetup := setup_of_run hrun
    rw [run_of_setup hsetup] at hrun
    cases hrun
    rw [casePhase_eq]
    exact Case.clock_add_duration_executeAll _ _ _ _

set_option maxRecDepth 20000 in
/-- The setup ends after one millisecond. The order is created in 20, two replies and a wait, its reading is
cut after 3, and the last case is skipped, so the teardown begins at the deadline. -/
theorem orders_time :
    ∃ report, (Orders.suite.run Orders.hurried Orders.world).1 = .ok report ∧
      report.results.map CaseResult.duration = [20, 3, 0] ∧
      (Orders.suite.setupPhase Orders.hurried Orders.world).2.world.clock = 1 ∧
      (Orders.suite.casePhase Orders.hurried Orders.world).world.clock = 24 := by
  have hrun := run_of_setup Orders.hurried_setup_eq_none
  obtain ⟨-, htotal⟩ := time_accounted_for hrun
  dsimp only at htotal
  have hdurations : (Orders.suite.casePhase Orders.hurried Orders.world).results.map
      CaseResult.duration = [20, 3, 0] := by decide +kernel
  have hsetup : (Orders.suite.setupPhase Orders.hurried Orders.world).2.world.clock = 1 := by
    decide +kernel
  have hsum : (Summary.ofResults
      (Orders.suite.casePhase Orders.hurried Orders.world).results).duration = 23 := by decide +kernel
  rw [hsetup, hsum] at htotal
  exact ⟨_, hrun, hdurations, hsetup, htotal.symm⟩

end Suite

end ScenarioRunner

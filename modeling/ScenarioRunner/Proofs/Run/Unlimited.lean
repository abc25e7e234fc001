import ScenarioRunner.Proofs.Run.Deadline
import ScenarioRunner.Proofs.Run.Phases

/-!
# A run beside the same run without a limit

The deadline stops a case that is cut off, and a case whose turn comes when it has passed. As long
as no case has been stopped the deadline leaves no trace: each turn of a run does exactly what it
does in the run without a limit (`executed_unlimited`), so that the two runs stay in the same state
(`getElem?_turns_unlimited`). A run of which no case is stopped is the same (`run_unlimited`).
-/

set_option autoImplicit false

namespace ScenarioRunner

variable {σ : Type}

/-- The same surroundings without a limit. -/
def Setting.unlimited (setting : Setting σ) : Setting σ := { setting with limit := none }

/-- The same course without a deadline. -/
def Course.unlimited (course : Course σ) : Course σ :=
  { course with setting := course.setting.unlimited, deadline := none }

namespace Case

variable {c : Case} {course : Course σ} {store : Fields Value}

/-- Without a deadline a reply that is in time is received just the same. -/
theorem received_unlimited {world : World σ}
    (h : (c.exchange course store world).InTime course.deadline) :
    c.received course.unlimited store world = c.received course store world := by
  have helapse := elapse_of_le h
  unfold exchange at helapse
  simp only [received, Setting.sendWithin, Course.unlimited, Setting.unlimited, helapse]
  rfl

/-- Without a deadline a wait for another attempt that is not cut is the same. -/
theorem wait_unlimited {world waited : World σ} {delay : Nat}
    (h : world.wait course.deadline delay = (.ok (), waited)) :
    world.wait course.unlimited.deadline delay = (.ok (), waited) := by
  obtain ⟨-, rfl⟩ := World.of_wait_ok h
  rfl

/-- Without a deadline a case that is not cut off makes the same attempts. -/
theorem Attempts.attempt_unlimited {left : Nat} {world : World σ} {xs : List Exchange}
    {sent : Sent σ} (h : c.Attempts course store left world xs sent)
    (hfree : ¬ c.CutOff course.deadline left xs) :
    c.attempt course.unlimited store left world = sent := by
  induction h with
  | @last left world behind outcome received final =>
      have htime : (c.exchange course store world).InTime course.deadline := by
        by_cases htime : (c.exchange course store world).InTime course.deadline
        · exact htime
        · exact absurd (.inl ⟨_, List.mem_singleton.2 rfl, htime⟩) hfree
      exact (attempt_of_last left ((received_unlimited htime).trans received) final).1
  | @cut left world behind waited e cut received retryable wait =>
      -- the wait that is cut cuts the case off
      exact absurd (.inr (waitCut_of_wait left received retryable wait)) hfree
  | @again left world behind waited e rest sent received retryable wait further ih =>
      have htime := (inTime_of_retryable received retryable).1
      have hrest := ih fun hcut => hfree ((cutOff_cons_iff htime further.ne_nil).2 hcut)
      rw [(attempt_of_again left ((received_unlimited htime).trans received) retryable
        (wait_unlimited wait)).1, hrest]
      rfl

end Case

namespace Turn

variable {turn : Turn σ}

/-- The same turn without a deadline. -/
def unlimited (turn : Turn σ) : Turn σ := { turn with course := turn.course.unlimited }

/-- The gate is open, but the deadline has passed. -/
def Late (turn : Turn σ) : Prop :=
  turn.case.gate turn.past = .ok () ∧ ∃ d ∈ turn.course.deadline, d ≤ turn.world.clock

/-- The deadline makes the case fail: it is cut off, or its turn comes too late. -/
def Stopped (turn : Turn σ) : Prop := turn.CutOff ∨ turn.Late

instance : DecidablePred (Stopped (σ := σ)) := fun turn =>
  decidable_of_iff (turn.CutOff ∨ ((turn.case.gate turn.past).toOption = some () ∧
      ∃ d ∈ turn.course.deadline, d ≤ turn.world.clock)) (by
    unfold Stopped Late
    cases turn.case.gate turn.past with
    | error e => simp [Except.toOption]
    | ok _ => simp [Except.toOption])

/-- **Without a deadline a turn is the same, unless the deadline stops it.** -/
theorem executed_unlimited (hfree : ¬ turn.Stopped) : turn.unlimited.executed = turn.executed := by
  unfold executed Case.execute
  rcases hgate : turn.case.gate turn.past with e | _
  · simp only [unlimited, hgate]
  · have hearly : turn.Early := by
      intro d hd
      refine Nat.lt_of_not_le fun hlate => hfree (.inr ⟨hgate, d, hd, hlate⟩)
    have hsent : turn.unlimited.sent = turn.sent := by
      have hcut : ¬ turn.CutOff := fun hcut => hfree (.inl hcut)
      exact (attempts_of_starts ⟨hgate, hearly⟩).attempt_unlimited hcut
    have hlate := early_iff.1 hearly
    simp only [unlimited, hgate]
    rw [hlate]
    unfold sent at hsent
    simp only [Case.perform]
    rw [show turn.case.send turn.course.unlimited turn.store turn.world = _ from hsent]
    rfl

end Turn

namespace Action

variable (setting : Setting σ) (baseUrl : String) (store : Fields Value)

/-- An action does not look at the limit. -/
theorem perform_unlimited (action : Action) (world : World σ) :
    action.perform setting.unlimited baseUrl store world =
      action.perform setting baseUrl store world := by
  cases action <;> rfl

/-- Actions that run up to the first failure do not look at the limit. -/
theorem performUntilFailure_unlimited (actions : List Action) (world : World σ) :
    performUntilFailure setting.unlimited baseUrl store actions world =
      performUntilFailure setting baseUrl store actions world := by
  induction actions generalizing world with
  | nil => rfl
  | cons action rest ih => simp only [performUntilFailure, perform_unlimited, ih]

/-- Actions of which all run do not look at the limit. -/
theorem performAll_unlimited (actions : List Action) (world : World σ) :
    performAll setting.unlimited baseUrl store actions world =
      performAll setting baseUrl store actions world := by
  induction actions generalizing world with
  | nil => rfl
  | cons action rest ih => simp only [performAll, perform_unlimited, ih]

end Action

namespace Case

variable {course : Course σ}

/-- Cases of which none is stopped run the same without a deadline. -/
theorem executeAll_unlimited (past : List CaseResult) (store : Fields Value)
    (cases : List (String × Case)) (world : World σ)
    (hfree : ∀ turn ∈ turns course past store cases world, ¬ turn.Stopped) :
    executeAll course.unlimited past store cases world =
      executeAll course past store cases world := by
  induction cases generalizing past store world with
  | nil => rfl
  | cons label rest ih =>
      -- the first case leaves the same state behind, from which the others run
      rw [turns] at hfree
      have hfirst := Turn.executed_unlimited (hfree _ List.mem_cons_self)
      have hrest := ih _ _ _ fun turn hturn => hfree turn (List.mem_cons_of_mem _ hturn)
      unfold Turn.executed Turn.unlimited at hfirst
      simp only [executeAll, hfirst]
      exact congrArg (fun phase : CasePhase σ => (⟨_ :: phase.results, phase.store,
        _ ++ phase.events, phase.world⟩ : CasePhase σ)) hrest

end Case

namespace Suite

variable {suite : Suite} {setting : Setting σ} {world : World σ}

/-- The setup does not look at the limit. -/
theorem setupPhase_unlimited (suite : Suite) (setting : Setting σ) (world : World σ) :
    suite.setupPhase setting.unlimited world = suite.setupPhase setting world :=
  Action.performUntilFailure_unlimited _ _ _ _ _

/-- As long as no case has been stopped, the cases lead to the same state without a limit. -/
theorem casePhaseAt_unlimited {k : Nat}
    (hfree : ∀ turn ∈ (suite.turns setting world).take k, ¬ turn.Stopped)
    (hsetup : (suite.setupPhase setting world).1 = none) :
    suite.casePhaseAt setting.unlimited world k = suite.casePhaseAt setting world k := by
  rw [turns_of_setup hsetup, Case.take_turns] at hfree
  unfold casePhaseAt
  rw [setupPhase_unlimited]
  exact Case.executeAll_unlimited _ _ _ _ hfree

/-- As long as no case has been stopped, each case has the same turn without a limit. -/
theorem getElem?_turns_unlimited {k : Nat}
    (hfree : ∀ turn ∈ (suite.turns setting world).take k, ¬ turn.Stopped) {j : Nat} (hj : j ≤ k) :
    (suite.turns setting.unlimited world)[j]? =
      (suite.turns setting world)[j]?.map Turn.unlimited := by
  cases hsetup : (suite.setupPhase setting world).1 with
  | some e =>
      have hnone : (suite.setupPhase setting.unlimited world).1 = some e := by
        rw [setupPhase_unlimited, hsetup]
      unfold turns
      rw [hsetup, hnone]
      rfl
  | none =>
      have hunlimited : (suite.setupPhase setting.unlimited world).1 = none := by
        rw [setupPhase_unlimited, hsetup]
      have hearlier : ∀ turn ∈ (suite.turns setting world).take j, ¬ turn.Stopped :=
        fun turn hturn => hfree turn (List.take_subset_take_left _ hj hturn)
      have hphase := casePhaseAt_unlimited hearlier hsetup
      unfold casePhaseAt at hphase
      rw [turns_of_setup hsetup, turns_of_setup hunlimited, Case.getElem?_turns,
        Case.getElem?_turns, Option.map_map]
      congr
      funext label
      simp only [hphase, Function.comp, Turn.unlimited]
      rfl

/-- As long as no case has been stopped, the cases have the same results without a limit. -/
theorem results_unlimited {k : Nat}
    (hfree : ∀ turn ∈ (suite.turns setting world).take k, ¬ turn.Stopped) :
    ((suite.turns setting.unlimited world).take k).map Turn.result =
      ((suite.turns setting world).take k).map Turn.result := by
  have hturns : (suite.turns setting.unlimited world).take k =
      ((suite.turns setting world).take k).map Turn.unlimited := by
    refine List.ext_getElem? fun j => ?_
    rw [List.getElem?_map, List.getElem?_take, List.getElem?_take]
    split
    · next hj => exact getElem?_turns_unlimited hfree (Nat.le_of_lt hj)
    · rfl
  rw [hturns, List.map_map]
  exact List.map_congr_left fun turn hturn =>
    congrArg Executed.result (Turn.executed_unlimited (hfree turn hturn))

/-- A run of which no case is stopped is the same without a limit. -/
theorem run_unlimited (hfree : ∀ turn ∈ suite.turns setting world, ¬ turn.Stopped) :
    suite.run setting.unlimited world = suite.run setting world := by
  have hsetups := setupPhase_unlimited suite setting world
  cases hsetup : (suite.setupPhase setting world).1 with
  | some e =>
      have hfailure : suite.setupPhase setting world =
          (some e, (suite.setupPhase setting world).2) := Prod.ext hsetup rfl
      rw [run_of_failure hfailure, run_of_failure (hsetups.trans hfailure)]
  | none =>
      have hunlimited : (suite.setupPhase setting.unlimited world).1 = none := by
        rw [hsetups, hsetup]
      have hcases : suite.casePhase setting.unlimited world = suite.casePhase setting world := by
        rw [turns_of_setup hsetup] at hfree
        rw [casePhase_eq, casePhase_eq, hsetups]
        exact Case.executeAll_unlimited _ _ _ _ hfree
      have hteardown : suite.teardownPhase setting.unlimited world =
          suite.teardownPhase setting world := by
        unfold teardownPhase
        rw [hcases, Action.performAll_unlimited]
      refine Prod.ext ?_ ?_
      · rw [run_of_setup hsetup, run_of_setup hunlimited, hsetups, hcases, hteardown]
      · rw [world_of_setup hsetup, world_of_setup hunlimited, hteardown]

/-- **The deadline of a run is invisible until it stops a case.** As long as no case has been cut
off at the deadline or come too late, each case has the result that it has without a limit, and
sends the same requests at the same times; and the next case finds the same variables, at the same
time. If no case is stopped at all, the run is the same as without a limit. -/
theorem deadline_invisible_until_case_stopped (k : Nat)
    (hfree : ∀ turn ∈ (suite.turns setting world).take k, ¬ turn.Stopped) :
    suite.setupPhase setting.unlimited world = suite.setupPhase setting world ∧
      (∀ (j : Nat) (turn : Turn σ), j < k → (suite.turns setting world)[j]? = some turn →
        ∃ free, (suite.turns setting.unlimited world)[j]? = some free ∧ free.case = turn.case ∧
          free.result = turn.result ∧ free.events = turn.events) ∧
      (∀ turn : Turn σ, (suite.turns setting world)[k]? = some turn →
        ∃ free, (suite.turns setting.unlimited world)[k]? = some free ∧ free.case = turn.case ∧
          free.past = turn.past ∧ free.store = turn.store ∧ free.world = turn.world) ∧
      (∀ report, (suite.run setting world).1 = .ok report →
        ∃ free, (suite.run setting.unlimited world).1 = .ok free ∧
          free.results.take k = report.results.take k) ∧
      ((suite.turns setting world).length ≤ k →
        suite.run setting.unlimited world = suite.run setting world) := by
  refine ⟨setupPhase_unlimited _ _ _, ?_, ?_, ?_, ?_⟩
  · intro j turn hj hturn
    have hunlimited := getElem?_turns_unlimited hfree (Nat.le_of_lt hj)
    rw [hturn] at hunlimited
    have hmem : turn ∈ (suite.turns setting world).take k := by
      apply List.mem_of_getElem? (i := j)
      rw [List.getElem?_take_of_lt hj, hturn]
    have hexecuted := Turn.executed_unlimited (hfree turn hmem)
    exact ⟨_, hunlimited, rfl, congrArg Executed.result hexecuted,
      congrArg Executed.events hexecuted⟩
  · intro turn hturn
    have hunlimited := getElem?_turns_unlimited hfree (Nat.le_refl k)
    rw [hturn] at hunlimited
    exact ⟨_, hunlimited, rfl, rfl, rfl, rfl⟩
  · intro report hrun
    have hsetup := setup_of_run hrun
    have hunlimited := run_of_setup
      (show (suite.setupPhase setting.unlimited world).1 = none by
        rw [setupPhase_unlimited, hsetup])
    refine ⟨_, hunlimited, ?_⟩
    rw [(report_of_run hunlimited).1, (report_of_run hrun).1, ← List.map_take, ← List.map_take]
    exact results_unlimited hfree
  · intro hlength
    rw [List.take_of_length_le hlength] at hfree
    exact run_unlimited hfree

set_option maxRecDepth 20000 in
/-- Until the reading of the order is cut off, the run is the one without a limit, in which the
reading gets its reply. -/
theorem orders_unhurried :
    (∀ turn ∈ (Orders.suite.turns Orders.hurried Orders.world).take 1, ¬ turn.Stopped) ∧
      ∃ turn free, (Orders.suite.turns Orders.hurried Orders.world)[1]? = some turn ∧
        (Orders.suite.turns Orders.hurried.unlimited Orders.world)[1]? = some free ∧
        turn.Stopped ∧ free.store = turn.store ∧ free.world = turn.world ∧
        turn.result.response.isSome = false ∧ free.result.response.isSome = true := by
  have hfree : ∀ turn ∈ (Orders.suite.turns Orders.hurried Orders.world).take 1, ¬ turn.Stopped := by
    decide +kernel
  have hturn : ((Orders.suite.turns Orders.hurried Orders.world)[1]?.map fun turn =>
      (decide turn.Stopped, turn.result.response.isSome)) = some (true, false) := by decide +kernel
  have hfound : ((Orders.suite.turns Orders.hurried.unlimited Orders.world)[1]?.map fun turn =>
      turn.result.response.isSome) = some true := by decide +kernel
  obtain ⟨turn, hsome, hstopped⟩ := Option.map_eq_some_iff.1 hturn
  obtain ⟨-, -, hsame, -⟩ := deadline_invisible_until_case_stopped 1 hfree
  obtain ⟨free, hunlimited, -, -, hstore, hworld⟩ := hsame turn hsome
  rw [hunlimited] at hfound
  obtain ⟨hdecided, hnone⟩ := Prod.mk.inj hstopped
  exact ⟨hfree, turn, free, hsome, hunlimited, of_decide_eq_true hdecided, hstore, hworld, hnone,
    Option.some.inj hfound⟩

end Suite

end ScenarioRunner

import ScenarioRunner.Proofs.Run.Clock

/-!
# The deadline of a run

The deadline is counted from before the setup, and the cases have to keep it. A case is cut off when
the wait for a reply or the wait for another attempt would end after the deadline; `Case.CutOff` says
so of the exchanges of a case. Then the case fails, and the clock is at the deadline
(`Attempts.of_cutOff`), so that no later case is sent (`late_of_cutOff`, `Ends.of_late`).
-/

set_option autoImplicit false

namespace ScenarioRunner

variable {σ : Type}

namespace Case

/-- The last exchange could be followed by another attempt, but the wait for that attempt is cut at
the deadline. Behind the first attempt there are `left` others. -/
def WaitCut (c : Case) (deadline : Option Nat) (left : Nat) (xs : List Exchange) : Prop :=
  xs.length ≤ left ∧ ∃ x ∈ xs.getLast?, x.InTime deadline ∧ x.Retryable ∧
    ∃ d ∈ deadline, d < x.time + x.reply.delay + c.retryPolicy.interval

/-- The wait for a reply or the wait for another attempt is cut at the deadline. -/
def CutOff (c : Case) (deadline : Option Nat) (left : Nat) (xs : List Exchange) : Prop :=
  (∃ x ∈ xs, ¬ x.InTime deadline) ∨ c.WaitCut deadline left xs

instance (c : Case) (deadline : Option Nat) (left : Nat) (xs : List Exchange) :
    Decidable (c.CutOff deadline left xs) :=
  inferInstanceAs (Decidable ((∃ x ∈ xs, ¬ x.InTime deadline) ∨
    (xs.length ≤ left ∧ ∃ x ∈ xs.getLast?, x.InTime deadline ∧ x.Retryable ∧
      ∃ d ∈ deadline, d < x.time + x.reply.delay + c.retryPolicy.interval)))

variable {c : Case} {course : Course σ} {store : Fields Value}

theorem waitCut_singleton_iff {deadline : Option Nat} {left : Nat} {x : Exchange} :
    c.WaitCut deadline left [x] ↔ 1 ≤ left ∧ x.InTime deadline ∧ x.Retryable ∧
      ∃ d, deadline = some d ∧ d < x.time + x.reply.delay + c.retryPolicy.interval := by
  simp [WaitCut]

/-- The wait that is cut is behind the last exchange. -/
theorem waitCut_cons_iff {deadline : Option Nat} {left : Nat} {x : Exchange} {rest : List Exchange}
    (hrest : rest ≠ []) : c.WaitCut deadline (left + 1) (x :: rest) ↔ c.WaitCut deadline left rest := by
  have hlast : (x :: rest).getLast? = rest.getLast? := List.getLast?_cons_of_ne_nil hrest
  unfold WaitCut
  rw [hlast, List.length_cons, Nat.add_le_add_iff_right]

/-- No wait follows the last attempt. -/
theorem not_waitCut_of_final {left : Nat} {world behind : World σ} {outcome : Except Error Response}
    (received : c.received course store world = (outcome, behind))
    (final : left = 0 ∨ ∀ e, outcome = .error e → e.isRetryable = false) :
    ¬c.WaitCut course.deadline left [c.exchange course store world] := by
  intro hcut
  obtain ⟨hleft, htime, ⟨e, hreply, hretry⟩, -⟩ := waitCut_singleton_iff.1 hcut
  have houtcome := (received_of_inTime htime).1
  rw [received, hreply] at houtcome
  rw [final.resolve_left (by omega) e houtcome] at hretry
  cases hretry

/-- A wait that is cut comes behind a single exchange with another attempt left. -/
theorem waitCut_of_wait (left : Nat) {world behind waited : World σ} {e cut : Error}
    (received : c.received course store world = (.error e, behind))
    (retryable : e.isRetryable = true)
    (wait : behind.wait course.deadline c.retryPolicy.interval = (.error cut, waited)) :
    c.WaitCut course.deadline (left + 1) [c.exchange course store world] := by
  obtain ⟨htime, hretry⟩ := inTime_of_retryable received retryable
  obtain ⟨-, d, hd, hlt, -⟩ := World.of_wait_error wait
  have hclock := (received_of_inTime htime).2
  rw [received] at hclock
  refine waitCut_singleton_iff.2 ⟨by omega, htime, hretry, d, hd, ?_⟩
  rw [show (c.exchange course store world).time = world.clock from rfl, ← hclock]
  exact hlt

/-- Behind an exchange that is in time it is up to the further ones whether a case is cut off. -/
theorem cutOff_cons_iff {deadline : Option Nat} {left : Nat} {x : Exchange} {rest : List Exchange}
    (hx : x.InTime deadline) (hrest : rest ≠ []) :
    c.CutOff deadline (left + 1) (x :: rest) ↔ c.CutOff deadline left rest := by
  unfold CutOff
  rw [waitCut_cons_iff hrest]
  simp only [List.mem_cons, exists_eq_or_imp, hx, not_true_eq_false, false_or]

/-- A single exchange that is in time is cut off by the wait behind it. -/
theorem cutOff_singleton_iff {deadline : Option Nat} {left : Nat} {x : Exchange}
    (hx : x.InTime deadline) : c.CutOff deadline left [x] ↔ c.WaitCut deadline left [x] := by
  simp [CutOff, hx]

/-- Attempts that are cut off lead to the error of the deadline, at which the clock then is. -/
theorem Attempts.of_cutOff {left : Nat} {world : World σ} {xs : List Exchange} {sent : Sent σ}
    (h : c.Attempts course store left world xs sent)
    (hcut : c.CutOff course.deadline left xs) :
    sent.outcome = .error deadlineExceeded ∧
      ∀ d, course.deadline = some d → d ≤ sent.world.clock := by
  induction h with
  | @last left world behind outcome received final =>
      by_cases htime : (c.exchange course store world).InTime course.deadline
      · have hwait := (cutOff_singleton_iff htime).1 hcut
        exact absurd hwait (not_waitCut_of_final received final)
      · obtain ⟨houtcome, d, hd, hclock⟩ := received_of_not_inTime htime
        rw [received] at houtcome hclock
        refine ⟨houtcome, fun d' hd' => ?_⟩
        rw [hd] at hd'
        cases hd'
        exact Nat.le_trans (Nat.le_max_right _ _) (Nat.le_of_eq hclock.symm)
  | @cut left world behind waited e cut received retryable wait =>
      obtain ⟨rfl, d, hd, -, rfl⟩ := World.of_wait_error wait
      refine ⟨rfl, fun d' hd' => ?_⟩
      rw [hd] at hd'
      cases hd'
      exact Nat.le_max_right _ _
  | @again left world behind waited e rest sent received retryable wait further ih =>
      have htime := (inTime_of_retryable received retryable).1
      exact ih ((cutOff_cons_iff htime further.ne_nil).1 hcut)

end Case

namespace Turn

variable {turn : Turn σ} {executed : Executed σ}

/-- An attempt of the case or a wait between two attempts is cut at the deadline. -/
def CutOff (turn : Turn σ) : Prop :=
  turn.case.CutOff turn.course.deadline (turn.case.retryPolicy.attempts - 1) turn.exchanges

instance : DecidablePred (CutOff (σ := σ)) := fun turn =>
  inferInstanceAs (Decidable (turn.case.CutOff turn.course.deadline
    (turn.case.retryPolicy.attempts - 1) turn.exchanges))

/-- Only a case that starts can be cut off. -/
theorem CutOff.starts (h : turn.CutOff) : turn.Starts := by
  refine Classical.byContradiction fun hstarts => ?_
  unfold CutOff Case.CutOff Case.WaitCut at h
  rw [exchanges_of_not_starts hstarts] at h
  simp at h

/-- A turn whose attempts lead to an error ends with it. -/
theorem Ends.of_error (h : turn.Ends executed) (starts : turn.Starts) {e : Error}
    (hsent : turn.sent.outcome = .error e) :
    executed = turn.judged (turn.failure e none) turn.store turn.sent.world.supply := by
  cases h with
  | skipped closed => exact absurd starts (not_starts_of_closed closed)
  | late opened deadline passed => exact absurd starts (not_starts_of_late deadline passed)
  | unanswered starts outcome =>
      obtain rfl := Except.error.inj (hsent.symm.trans outcome)
      rfl
  | unreadable starts outcome body =>
      rw [hsent] at outcome
      cases outcome
  | rejected starts outcome body check =>
      rw [hsent] at outcome
      cases outcome
  | passed starts outcome body check =>
      rw [hsent] at outcome
      cases outcome

/-- A case that is cut off fails without a response, saves nothing, and ends at the deadline. -/
theorem executed_of_cutOff (h : turn.CutOff) :
    turn.result.outcome = .failed deadlineExceeded ∧ turn.result.response = none ∧
      turn.executed.store = turn.store ∧
      ∀ d, turn.course.deadline = some d → d ≤ turn.executed.world.clock := by
  obtain ⟨houtcome, hclock⟩ := (attempts_of_starts h.starts).of_cutOff h
  have hexecuted := turn.ends.of_error h.starts houtcome
  unfold result
  rw [hexecuted]
  exact ⟨rfl, rfl, rfl, hclock⟩

/-- A case whose turn comes once the deadline has passed is skipped, or fails without being sent. It
leaves everything as it is. -/
theorem Ends.of_late (h : turn.Ends executed) {d : Nat} (hd : turn.course.deadline = some d)
    (hlate : d ≤ turn.world.clock) :
    executed.events = [] ∧ executed.world = turn.world ∧ executed.store = turn.store ∧
      executed.result.duration = 0 ∧ executed.result.response = none ∧
      (executed.result.outcome.isSkipped = true ∨ executed.result.outcome =
        .failed (.timeout "run deadline passed before the case started")) := by
  have hstarts := not_starts_of_late hd hlate
  cases h with
  | skipped closed => exact ⟨rfl, rfl, rfl, rfl, rfl, .inl rfl⟩
  | late opened deadline passed => exact ⟨rfl, rfl, rfl, rfl, rfl, .inr rfl⟩
  | unanswered starts outcome => exact absurd starts hstarts
  | unreadable starts outcome body => exact absurd starts hstarts
  | rejected starts outcome body check => exact absurd starts hstarts
  | passed starts outcome body check => exact absurd starts hstarts

/-- The first attempt of a case is made before the deadline, and none is made after it. -/
theorem time_lt_deadline {d : Nat} (hd : turn.course.deadline = some d) :
    (∀ x ∈ turn.exchanges.head?, x.time < d) ∧ ∀ x ∈ turn.exchanges, x.time ≤ d := by
  by_cases hstarts : turn.Starts
  · have hstart := hstarts.2 d hd
    have hattempts := attempts_of_starts hstarts
    refine ⟨fun x hx => ?_, (hattempts.le_deadline hd (Nat.le_of_lt hstart)).1⟩
    rw [hattempts.head_time x hx]
    exact hstart
  · rw [exchanges_of_not_starts hstarts]
    simp

end Turn

namespace Suite

variable {suite : Suite} {setting : Setting σ} {world : World σ} {report : Report}

/-- The deadline of a run is its limit, counted from before the setup. -/
theorem deadline_of_turn {limit : Nat} (hlimit : setting.limit = some limit) {i : Nat}
    {turn : Turn σ} (hturn : (suite.turns setting world)[i]? = some turn) :
    turn.course.deadline = some (world.clock + limit) := by
  rw [(turn_eq hturn).2.1, course, hlimit]
  rfl

/-- Once a case has been cut off, the turns of all later cases come when the deadline has passed. -/
theorem late_of_cutOff {limit : Nat} (hlimit : setting.limit = some limit) {i j : Nat}
    {turn later : Turn σ} (hturn : (suite.turns setting world)[i]? = some turn)
    (hlater : (suite.turns setting world)[j]? = some later) (hij : i < j) (hcut : turn.CutOff) :
    world.clock + limit ≤ later.world.clock := by
  have hclock := (Turn.executed_of_cutOff hcut).2.2.2 _ (deadline_of_turn hlimit hturn)
  rw [← world_casePhaseAt_succ hturn] at hclock
  rw [(turn_eq hlater).2.2.2.2]
  exact Nat.le_trans hclock (suite.clock_casePhaseAt_le setting world hij)

/-- **The cases of a run keep its deadline.** The cases are over at the deadline, unless the setup
has taken longer. The first request of a case is sent before the deadline and no other one after it.
A case that is cut off at the deadline fails with the error of the deadline, without a response, and
saves nothing; each later case is skipped or fails, at once and without being sent, so that it leaves
the world and the variables as they are. -/
theorem cases_keep_deadline {limit : Nat} (hlimit : setting.limit = some limit)
    (hrun : (suite.run setting world).1 = .ok report) :
    (suite.casePhase setting world).world.clock ≤
        max (world.clock + limit) (suite.setupPhase setting world).2.world.clock ∧
      ∀ (i : Nat) (c : Case), suite.cases[i]? = some c →
        ∃ turn, (suite.turns setting world)[i]? = some turn ∧ turn.case = c ∧
          report.results[i]? = some turn.result ∧
          turn.events = turn.exchanges.map Exchange.event ∧
          (∀ x ∈ turn.exchanges.head?, x.time < world.clock + limit) ∧
          (∀ x ∈ turn.exchanges.tail, x.time ≤ world.clock + limit) ∧
          (turn.CutOff →
            turn.result.outcome = .failed deadlineExceeded ∧ turn.result.response = none ∧
            turn.executed.store = turn.store ∧
            ∀ (j : Nat) (later : Turn σ), i < j → (suite.turns setting world)[j]? = some later →
              later.events = [] ∧ later.executed.world = later.world ∧
                later.executed.store = later.store ∧ later.result.duration = 0 ∧
                later.result.response = none ∧
                (later.result.outcome.isSkipped = true ∨ later.result.outcome =
                  .failed (.timeout "run deadline passed before the case started"))) := by
  have hdeadline : (suite.course setting world).deadline = some (world.clock + limit) := by
    rw [course, hlimit]
    rfl
  refine ⟨casePhase_eq suite setting world ▸ Case.clock_executeAll_le _ _ _ _ hdeadline, ?_⟩
  intro i c hc
  obtain ⟨turn, hturn, hcase⟩ := turn_of_case hrun hc
  obtain ⟨hfirst, hall⟩ := Turn.time_lt_deadline (deadline_of_turn hlimit hturn)
  refine ⟨turn, hturn, hcase, result_of_turn hrun hturn, turn.events_eq, hfirst,
    fun x hx => hall x (List.mem_of_mem_tail hx), ?_⟩
  intro hcut
  obtain ⟨houtcome, hresponse, hstore, -⟩ := Turn.executed_of_cutOff hcut
  refine ⟨houtcome, hresponse, hstore, ?_⟩
  intro j later hij hlater
  exact later.ends.of_late (deadline_of_turn hlimit hlater)
    (late_of_cutOff hlimit hturn hlater hij hcut)

end Suite

namespace Orders

/-- The same transport, but the cases have to end within 24 milliseconds. -/
def hurried : Setting Script := { setting with limit := some 24 }

set_option maxRecDepth 20000 in
/-- The setup succeeds in this run as well. -/
theorem hurried_setup_eq_none : (suite.setupPhase hurried world).1 = none := by decide +kernel

end Orders

namespace Suite

set_option maxRecDepth 20000 in
/-- The order is created in time, but the reply to its reading would come after the deadline. -/
theorem orders_cut_off :
    Orders.hurried.limit = some 24 ∧
      ∃ report, (Orders.suite.run Orders.hurried Orders.world).1 = .ok report ∧
        (Orders.suite.casePhase Orders.hurried Orders.world).world.clock ≤ 24 ∧
        ∃ turn, (Orders.suite.turns Orders.hurried Orders.world)[1]? = some turn ∧ turn.CutOff ∧
          turn.exchanges ≠ [] ∧ turn.result.outcome = .failed deadlineExceeded ∧
          ∃ later, (Orders.suite.turns Orders.hurried Orders.world)[2]? = some later ∧
            later.events = [] ∧ later.result.outcome.isSkipped = true := by
  have hlimit : Orders.hurried.limit = some 24 := rfl
  have hrun := run_of_setup Orders.hurried_setup_eq_none
  obtain ⟨hclock, hturns⟩ := cases_keep_deadline hlimit hrun
  have hsetup : (Orders.suite.setupPhase Orders.hurried Orders.world).2.world.clock = 1 := by
    decide +kernel
  obtain ⟨turn, hturn, -, -, -, -, -, hcutOff⟩ := hturns 1 _ rfl
  obtain ⟨later, hlater, -⟩ := hturns 2 _ rfl
  have hcut : ((Orders.suite.turns Orders.hurried Orders.world)[1]?.map fun turn =>
      (decide turn.CutOff, turn.exchanges.isEmpty)) = some (true, false) := by decide +kernel
  have hskipped : ((Orders.suite.turns Orders.hurried Orders.world)[2]?.map fun turn =>
      turn.result.outcome.isSkipped) = some true := by decide +kernel
  rw [hturn] at hcut
  rw [hlater] at hskipped
  obtain ⟨hdecided, hsent⟩ := Prod.mk.inj (Option.some.inj hcut)
  have hcut := of_decide_eq_true hdecided
  obtain ⟨houtcome, -, -, hnone⟩ := hcutOff hcut
  refine ⟨hlimit, _, hrun, ?_, turn, hturn, hcut, ?_, houtcome, later, hlater,
    (hnone 2 later (by decide) hlater).1, Option.some.inj hskipped⟩
  · rw [hsetup] at hclock
    exact hclock
  · intro hempty
    rw [hempty] at hsent
    cases hsent

end Suite

end ScenarioRunner

import ScenarioRunner.Proofs.Run.History

/-!
# The phases of a run

A run has a setup, its cases and a teardown. `Action.deeds` lists what actions lead to when they run
one after another, and `Action.Conduct` says what a single one does: a call sends one request, and
any other action is handed over once, or fails if nothing takes it. The setup runs up to its first
failure, and then the run is over (`performUntilFailure_of_error`); the teardown runs as a whole
(`events_performAll`), whatever its actions and the cases before them have come to.
-/

set_option autoImplicit false

namespace ScenarioRunner

variable {σ : Type}

namespace Action

variable (setting : Setting σ) (baseUrl : String) (store : Fields Value)

/-! ## One action -/

/-- The request that a call sends in a world. -/
def callRequest (template : RequestTemplate) (world : World σ) : Request :=
  (template.build baseUrl ⟨store, setting.environment⟩ world.supply).1

/-- The reply to the request that a call sends in a world. -/
def callReply (template : RequestTemplate) (world : World σ) : Reply :=
  (setting.send (callRequest setting baseUrl store template world) world.state).1

/-- The world behind a call: one request has been sent, and its reply has been awaited. -/
def callWorld (template : RequestTemplate) (world : World σ) : World σ :=
  { clock := world.clock + (callReply setting baseUrl store template world).delay
    supply := (template.build baseUrl ⟨store, setting.environment⟩ world.supply).2
    state := (setting.send (callRequest setting baseUrl store template world) world.state).2 }

/-- What an action leads to in a world, by its kind. -/
structure Conduct (world : World σ) (action : Action) (acted : Acted σ) : Prop where
  /-- A call sends one request, and nothing more happens to the surroundings. -/
  sends : ∀ template, action = .apiCall template →
    acted.events = [.request world.clock (callRequest setting baseUrl store template world)] ∧
      acted.world = callWorld setting baseUrl store template world
  /-- A call fails when no response comes back, or one with a failing status. -/
  fails_iff : ∀ template, action = .apiCall template →
    ((∃ e, acted.outcome = .error e) ↔
      (∃ e, (callReply setting baseUrl store template world).outcome = .error e) ∨
        ∃ response, (callReply setting baseUrl store template world).outcome = .ok response ∧
          400 ≤ response.status)
  /-- Any other action is handed over once, and its outcome is what comes back. -/
  handed_over : (∀ template, action ≠ .apiCall template) → ∀ handle,
    setting.cleanup = some handle →
      acted.events = [.cleanup action (handle action world.state).statements] ∧
        acted.outcome = (handle action world.state).outcome ∧
        acted.world = { world with state := (handle action world.state).state }
  /-- An action that nothing takes fails. -/
  unhandled : (∀ template, action ≠ .apiCall template) → setting.cleanup = none →
    acted.events = [] ∧ acted.world = world ∧
      acted.outcome = .error (.cleanup action.kind "no cleanup handler configured")

variable {setting baseUrl store}

/-- A call fails when no response comes back, or one with a failing status. -/
theorem callOutcome_error_iff (kind : String) (received : Except Error Response) :
    (∃ e, callOutcome kind received = .error e) ↔
      (∃ e, received = .error e) ∨ ∃ response, received = .ok response ∧ 400 ≤ response.status := by
  cases received with
  | error e => simp [callOutcome]
  | ok response =>
      by_cases hstatus : failingStatus ≤ response.status
      · simp [callOutcome, hstatus, show 400 ≤ response.status from hstatus]
      · simp [callOutcome, hstatus, show ¬ 400 ≤ response.status from hstatus]

/-- An action that is no call is handed over, if there is something that takes it. -/
theorem perform_of_no_call {action : Action} (hno : ∀ template, action ≠ .apiCall template)
    (world : World σ) :
    action.perform setting baseUrl store world =
      match setting.cleanup with
      | none => ⟨.error (.cleanup action.kind "no cleanup handler configured"), [], world⟩
      | some handle =>
        ⟨(handle action world.state).outcome,
          [.cleanup action (handle action world.state).statements],
          { world with state := (handle action world.state).state }⟩ := by
  cases action with
  | apiCall template => exact absurd rfl (hno template)
  | _ => rfl

/-- Each action conducts itself as its kind says. -/
theorem conduct_perform (action : Action) (world : World σ) :
    Conduct setting baseUrl store world action (action.perform setting baseUrl store world) := by
  by_cases hcall : ∃ template, action = .apiCall template
  · obtain ⟨template, rfl⟩ := hcall
    refine ⟨?_, ?_, fun hno => absurd rfl (hno template), fun hno => absurd rfl (hno template)⟩
    · intro other hother
      cases hother
      exact ⟨rfl, rfl⟩
    · intro other hother
      cases hother
      exact callOutcome_error_iff _ _
  · have hno : ∀ template, action ≠ .apiCall template := fun template h => hcall ⟨template, h⟩
    refine ⟨fun template h => absurd h (hno template), fun template h => absurd h (hno template),
      ?_, ?_⟩
    · intro _ handle hhandle
      rw [perform_of_no_call hno, hhandle]
      exact ⟨rfl, rfl, rfl⟩
    · intro _ hnone
      rw [perform_of_no_call hno, hnone]
      exact ⟨rfl, rfl, rfl⟩

/-! ## Actions one after another -/

variable (setting baseUrl store)

/-- What each of some actions leads to when all of them run, one after another. -/
def deeds : List Action → World σ → List (Acted σ)
  | [], _ => []
  | action :: rest, world =>
    let acted := action.perform setting baseUrl store world
    acted :: deeds rest acted.world

variable {setting baseUrl store}

theorem length_deeds (actions : List Action) (world : World σ) :
    (deeds setting baseUrl store actions world).length = actions.length := by
  induction actions generalizing world with
  | nil => rfl
  | cons action rest ih => rw [deeds, List.length_cons, List.length_cons, ih]

/-- The first deeds are those of the first actions. -/
theorem take_deeds (actions : List Action) (world : World σ) (k : Nat) :
    (deeds setting baseUrl store actions world).take k =
      deeds setting baseUrl store (actions.take k) world := by
  induction actions generalizing world k with
  | nil => simp [deeds]
  | cons action rest ih =>
      cases k with
      | zero => rfl
      | succ k => rw [List.take_succ_cons, deeds, deeds, List.take_succ_cons, ih]

/-- The events of actions are those of their deeds. -/
theorem events_performAll (actions : List Action) (world : World σ) :
    (performAll setting baseUrl store actions world).events =
      (deeds setting baseUrl store actions world).flatMap Acted.events := by
  induction actions generalizing world with
  | nil => rfl
  | cons action rest ih =>
      rw [performAll, deeds, List.flatMap_cons]
      exact congrArg (_ ++ ·) (ih _)

/-- Actions of which all run are the ones that are attempted. -/
theorem actions_performAll (actions : List Action) (world : World σ) :
    (performAll setting baseUrl store actions world).attempted.map Attempted.action = actions := by
  induction actions generalizing world with
  | nil => rfl
  | cons action rest ih =>
      rw [performAll, List.map_cons]
      exact congrArg (_ :: ·) (ih _)

/-- Some actions and then another one lead to the world behind the latter. -/
theorem world_performAll_concat (actions : List Action) (action : Action) (world : World σ) :
    (performAll setting baseUrl store (actions ++ [action]) world).world =
      (action.perform setting baseUrl store
        (performAll setting baseUrl store actions world).world).world := by
  induction actions generalizing world with
  | nil => rfl
  | cons first rest ih =>
      rw [List.cons_append, performAll, performAll]
      exact ih _

/-- An action is performed in the world behind the actions before it. -/
theorem getElem?_deeds (actions : List Action) (world : World σ) (i : Nat) :
    (deeds setting baseUrl store actions world)[i]? = actions[i]?.map fun action =>
      action.perform setting baseUrl store
        (performAll setting baseUrl store (actions.take i) world).world := by
  induction actions generalizing world i with
  | nil => rfl
  | cons action rest ih =>
      cases i with
      | zero => rfl
      | succ i =>
          rw [deeds, List.getElem?_cons_succ, List.getElem?_cons_succ, List.take_succ_cons, ih]
          rfl

/-- The world behind some actions is the one that the last deed leaves behind. -/
theorem world_of_deed {actions : List Action} {world : World σ} {i : Nat} {acted : Acted σ}
    (h : (deeds setting baseUrl store actions world)[i]? = some acted) :
    (performAll setting baseUrl store (actions.take (i + 1)) world).world = acted.world := by
  rw [getElem?_deeds] at h
  obtain ⟨action, haction, rfl⟩ := Option.map_eq_some_iff.1 h
  rw [List.take_add_one, haction, Option.toList_some, world_performAll_concat]

/-- Each deed is that of the action in its place. -/
theorem conduct_of_deed {actions : List Action} {world : World σ} {i : Nat} {acted : Acted σ}
    (h : (deeds setting baseUrl store actions world)[i]? = some acted) :
    ∃ action, actions[i]? = some action ∧ Conduct setting baseUrl store
      (performAll setting baseUrl store (actions.take i) world).world action acted := by
  rw [getElem?_deeds] at h
  obtain ⟨action, haction, rfl⟩ := Option.map_eq_some_iff.1 h
  exact ⟨action, haction, conduct_perform _ _⟩

/-! ## Up to the first failure -/

/-- Actions that all succeed run as a whole. -/
theorem performUntilFailure_of_ok {actions : List Action} {world : World σ}
    (h : ∀ acted ∈ deeds setting baseUrl store actions world, acted.outcome = .ok ()) :
    performUntilFailure setting baseUrl store actions world =
      (none, performAll setting baseUrl store actions world) := by
  induction actions generalizing world with
  | nil => rfl
  | cons action rest ih =>
      rw [deeds] at h
      obtain ⟨hfirst, hrest⟩ := List.forall_mem_cons.1 h
      simp only [performUntilFailure, performAll, hfirst, ih hrest]

/-- The first action that fails is the last one that runs. -/
theorem performUntilFailure_of_error {actions : List Action} {world : World σ} {k : Nat}
    {acted : Acted σ} {e : Error}
    (hbefore : ∀ earlier ∈ (deeds setting baseUrl store actions world).take k,
      earlier.outcome = .ok ())
    (hk : (deeds setting baseUrl store actions world)[k]? = some acted)
    (hfailed : acted.outcome = .error e) :
    performUntilFailure setting baseUrl store actions world =
      (some e, performAll setting baseUrl store (actions.take (k + 1)) world) := by
  induction actions generalizing world k with
  | nil => simp [deeds] at hk
  | cons action rest ih =>
      rw [deeds] at hk hbefore
      cases k with
      | zero =>
          obtain rfl := Option.some.inj hk
          simp only [performUntilFailure, List.take_succ_cons, List.take_zero, performAll, hfailed,
            List.append_nil]
      | succ k =>
          -- the first action succeeds, so the failure is among the others
          rw [List.take_succ_cons] at hbefore
          obtain ⟨hfirst, hrest⟩ := List.forall_mem_cons.1 hbefore
          simp only [performUntilFailure, List.take_succ_cons, performAll, hfirst, ih hrest hk]

end Action

/-- The message of the error of an action that has failed. -/
def Acted.error? (acted : Acted σ) : Option String :=
  match acted.outcome with
  | .ok _ => none
  | .error e => some e.message

/-- The errors of actions are those of their deeds. -/
theorem Action.errors_performAll {setting : Setting σ} {baseUrl : String} {store : Fields Value}
    (actions : List Action) (world : World σ) :
    (performAll setting baseUrl store actions world).attempted.filterMap Attempted.error? =
      (deeds setting baseUrl store actions world).filterMap Acted.error? := by
  induction actions generalizing world with
  | nil => rfl
  | cons action rest ih =>
      have hfirst : ∀ acted : Acted σ, Attempted.error? ⟨action, acted.outcome⟩ = acted.error? :=
        fun _ => rfl
      simp only [performAll, deeds, List.filterMap_cons, hfirst, ih]

/-! ## The whole run -/

namespace Suite

variable {suite : Suite} {setting : Setting σ} {world : World σ}

/-- A run whose setup fails is over. -/
theorem run_of_failure {e : Error} {setup : Phase σ}
    (h : suite.setupPhase setting world = (some e, setup)) :
    suite.run setting world = (.error ⟨e, setup.attempted, setup.events⟩, setup.world) := by
  unfold setupPhase at h
  simp only [run, h]

/-- A run whose setup succeeds ends in the world behind its teardown. -/
theorem world_of_setup (hsetup : (suite.setupPhase setting world).1 = none) :
    (suite.run setting world).2 = (suite.teardownPhase setting world).world := by
  rcases hphase : suite.setupPhase setting world with ⟨failure, setup⟩
  obtain rfl : failure = none := by rw [hphase] at hsetup; exact hsetup
  unfold setupPhase at hphase
  simp only [run, hphase, casePhase, teardownPhase, course, setupPhase]

/-- If the cases of other scenarios lead to the same as those of a suite, but for a change to the
results, then so does the whole run. -/
theorem run_of_casePhase {scenarios : List Scenario} (change : List CaseResult → List CaseResult)
    (hcases : (suite.setupPhase setting world).1 = none →
      ({ suite with scenarios } : Suite).casePhase setting world =
        { suite.casePhase setting world with
          results := change (suite.casePhase setting world).results }) :
    ({ suite with scenarios } : Suite).run setting world =
      ((suite.run setting world).1.map fun report =>
          { report with results := change report.results },
        (suite.run setting world).2) := by
  cases hsetup : (suite.setupPhase setting world).1 with
  | some e =>
      have hfailure : suite.setupPhase setting world =
          (some e, (suite.setupPhase setting world).2) := Prod.ext hsetup rfl
      have hother : ({ suite with scenarios } : Suite).setupPhase setting world =
          (some e, (suite.setupPhase setting world).2) := hfailure
      rw [run_of_failure hfailure, run_of_failure hother]
      rfl
  | none =>
      have hphase := hcases hsetup
      have hother : (({ suite with scenarios } : Suite).setupPhase setting world).1 = none := hsetup
      have hteardown : ({ suite with scenarios } : Suite).teardownPhase setting world =
          suite.teardownPhase setting world := by
        unfold teardownPhase
        rw [hphase]
      refine Prod.ext ?_ ?_
      · rw [run_of_setup hother, run_of_setup hsetup, hphase, hteardown]
        rfl
      · rw [world_of_setup hother, world_of_setup hsetup, hteardown]

/-- **A run is its setup, its cases and its teardown.** If an action of the setup fails, the run is
over: it gives the error of this action, and what it has done are the deeds of the setup up to this
action. Otherwise the run does the deeds of the whole setup, then what its cases do in their turns,
and then the deeds of the whole teardown, with the variables that the cases leave behind; its
teardown errors are those of the deeds that fail, and its results are those without a teardown. Each
action has one deed, and conducts itself in it as its kind says, in the world behind the actions
before it; the actions after it find the world that it leaves behind. -/
theorem run_is_setup_cases_teardown (suite : Suite) (setting : Setting σ) (world : World σ) :
    let setup := Action.deeds setting suite.baseUrl suite.bindings suite.setup world
    (∀ (k : Nat) (acted : Acted σ) (e : Error),
      (∀ earlier ∈ setup.take k, earlier.outcome = .ok ()) → setup[k]? = some acted →
      acted.outcome = .error e →
      ∃ failure, suite.run setting world = (.error failure, acted.world) ∧ failure.error = e ∧
        failure.events = (setup.take (k + 1)).flatMap Acted.events ∧
        failure.setup.map Attempted.action = suite.setup.take (k + 1)) ∧
    ((∀ acted ∈ setup, acted.outcome = .ok ()) →
      ∃ report, (suite.run setting world).1 = .ok report ∧
        let teardown := Action.deeds setting suite.baseUrl report.store suite.teardown
          (suite.casePhase setting world).world
        report.setup.map Attempted.action = suite.setup ∧
        (suite.turns setting world).map Turn.case = suite.cases ∧
        report.teardown.map Attempted.action = suite.teardown ∧
        report.events = setup.flatMap Acted.events ++
          ((suite.turns setting world).flatMap fun turn => turn.exchanges.map Exchange.event) ++
          teardown.flatMap Acted.events ∧
        report.teardownErrors = teardown.filterMap Acted.error? ∧
        (suite.run setting world).2 = (Action.performAll setting suite.baseUrl report.store
          suite.teardown (suite.casePhase setting world).world).world ∧
        ∃ bare, ({ suite with teardown := [] }.run setting world).1 = .ok bare ∧
          bare.results = report.results) ∧
    ∀ (store : Fields Value) (actions : List Action) (start : World σ),
      let behind := fun i =>
        (Action.performAll setting suite.baseUrl store (actions.take i) start).world
      (Action.deeds setting suite.baseUrl store actions start).length = actions.length ∧
      ∀ (i : Nat) (acted : Acted σ),
        (Action.deeds setting suite.baseUrl store actions start)[i]? = some acted →
        behind (i + 1) = acted.world ∧
          ∃ action, actions[i]? = some action ∧
            action.Conduct setting suite.baseUrl store (behind i) acted := by
  intro setup
  refine ⟨?_, ?_, ?_⟩
  · intro k acted e hbefore hk hfailed
    have hrun := run_of_failure (Action.performUntilFailure_of_error hbefore hk hfailed)
    rw [Action.world_of_deed hk] at hrun
    refine ⟨_, hrun, rfl, ?_, Action.actions_performAll _ _⟩
    rw [Action.take_deeds]
    exact Action.events_performAll _ _
  · intro hok
    have hphase : suite.setupPhase setting world =
        (none, Action.performAll setting suite.baseUrl suite.bindings suite.setup world) :=
      Action.performUntilFailure_of_ok hok
    have hsetup : (suite.setupPhase setting world).1 = none := by rw [hphase]
    have hrun := run_of_setup hsetup
    -- the teardown has no part in the setup and in the cases
    have hbare := run_of_setup
      (show (Suite.setupPhase { suite with teardown := [] } setting world).1 = none from hsetup)
    refine ⟨_, hrun, ?_, ?_, Action.actions_performAll _ _, ?_, Action.errors_performAll _ _,
      world_of_setup hsetup, _, hbare, rfl⟩
    · rw [hphase]
      exact Action.actions_performAll _ _
    · rw [cases_eq_map_labelledCases, ← labels_of_turns hsetup, List.map_map]
      rfl
    · have hturns : Turn.events = fun turn : Turn σ => turn.exchanges.map Exchange.event :=
        funext Turn.events_eq
      rw [(report_of_run hrun).2.2, hphase, hturns, Action.events_performAll]
      unfold teardownPhase
      rw [Action.events_performAll]
  · intro store actions start behind
    exact ⟨Action.length_deeds _ _,
      fun i acted h => ⟨Action.world_of_deed h, Action.conduct_of_deed h⟩⟩

end Suite

namespace Orders

/-- Resets the shop and writes that down before the cases, and closes the shop behind them. -/
def tended : Suite :=
  { suite with
    setup := [.apiCall { path := "/reset" }, .sql "INSERT INTO log VALUES (1)"]
    teardown := [.apiCall { path := "/close/\x7b\x7bid\x7d\x7d" }, .shell "rm log"] }

/-- The same transport beside something that takes statements, but no commands. -/
def handled : Setting Script :=
  { setting with
    cleanup := some fun action script =>
      match action with
      | .sql statement => ⟨.ok (), [statement], script⟩
      | _ => ⟨.error (.cleanup action.kind "not supported"), [], script⟩ }

end Orders

namespace Suite

set_option maxRecDepth 20000 in
/-- Without anything that takes statements the run ends in its setup, after one request. Otherwise
the cases run, the shop is closed with the identifier of the order, and the command that fails is
reported. -/
theorem orders_tended :
    (∃ failure, (Orders.tended.run Orders.setting Orders.world).1 = .error failure ∧
      failure.error = .cleanup "sql" "no cleanup handler configured" ∧ failure.events.length = 1) ∧
    ∃ report, (Orders.tended.run Orders.handled Orders.world).1 = .ok report ∧
      report.results.map (fun result => result.outcome.isPassed) = [true, false, false] ∧
      report.events.length = 7 ∧
      (report.events.any fun event =>
        match event with
        | .request _ request => request.url == "/close/7"
        | .cleanup .. => false) = true ∧
      report.teardownErrors = ["shell action failed: not supported"] := by
  constructor
  · obtain ⟨hfailure, -, -⟩ :=
      run_is_setup_cases_teardown Orders.tended Orders.setting Orders.world
    obtain ⟨failure, hrun, herror, hevents, -⟩ := hfailure 1 _ _ (by
      intro earlier hearlier
      obtain rfl := List.mem_singleton.1 hearlier
      rfl) rfl rfl
    exact ⟨failure, by rw [hrun], herror, by rw [hevents]; rfl⟩
  · obtain ⟨-, hcompleted, -⟩ :=
      run_is_setup_cases_teardown Orders.tended Orders.handled Orders.world
    obtain ⟨report, hrun, -, -, -, hevents, herrors, -⟩ := hcompleted (by
      intro acted hacted
      rcases List.mem_cons.1 hacted with rfl | hacted
      · rfl
      · obtain rfl := List.mem_singleton.1 hacted
        rfl)
    refine ⟨report, hrun, ?_, ?_, ?_, ?_⟩
    · rw [(report_of_run hrun).1]
      decide +kernel
    · rw [hevents, (report_of_run hrun).2.1]
      decide +kernel
    · rw [hevents, (report_of_run hrun).2.1]
      decide +kernel
    · rw [herrors, (report_of_run hrun).2.1]
      decide +kernel

end Suite

end ScenarioRunner

import ScenarioRunner.Proofs.Run.Retries

/-!
# A run beside the same run without retried failures

From one turn to the next the run on a reduced script keeps up with the original one: it has the
same results so far, apart from durations, and the same variables, and its script lacks what is
marked further on (`executeAll_abridged`). So a failure of the transport from which a case has
recovered is seen nowhere in the rest of the run. The failures of a case that has used up its
attempts are another matter: when they are taken out, the case may pass.
-/

set_option autoImplicit false

namespace ScenarioRunner

variable {τ : Type}

/-! ## The cases -/

namespace Case

variable {cleanup : Option (Action → τ → Cleaned τ)} {environment : String → Option String}
  {baseUrl : String} {further : List Bool}

/-- Cases lead to the same results, apart from durations, when the script lacks the replies that are
marked as recovered. -/
theorem executeAll_abridged {cases : List (String × Case)}
    (hsteady : ∀ label ∈ cases, label.2.request.Steady ∧ label.2.expect.Steady)
    {past past' : List CaseResult} (store : Fields Value) {reduced world : World (Script × τ)}
    (hpast : past'.map CaseResult.timeless = past.map CaseResult.timeless) :
    let course := Course.scripted cleanup environment baseUrl
    let phase := executeAll course past store cases world
    let marks := (turns course past store cases world).flatMap fun turn =>
      Exchange.recovered turn.exchanges
    reduced.state = abridge (marks ++ further) world.state →
    ∃ other, executeAll course past' store cases reduced = other ∧
      other.results.map CaseResult.timeless = phase.results.map CaseResult.timeless ∧
      other.store = phase.store ∧
      Abridged marks further world.state other.events phase.events other.world.state
        phase.world.state := by
  intro course phase marks hstate
  induction cases generalizing past past' store reduced world with
  | nil => exact ⟨_, rfl, rfl, rfl, .nil hstate⟩
  | cons label rest ih =>
      obtain ⟨scenario, c⟩ := label
      obtain ⟨hfirst, hrest⟩ := List.forall_mem_cons.1 hsteady
      simp only [marks, turns, List.flatMap_cons, List.append_assoc] at hstate
      obtain ⟨executed, hexecuted, hresult, hstore, habridged⟩ :=
        execute_abridged hfirst.1 hfirst.2 scenario hpast hstate
      -- the results so far agree behind this turn as well
      have hpast' : (past' ++ [executed.result]).map CaseResult.timeless =
          (past ++ [Turn.result ⟨course, scenario, c, past, store, world⟩]).map
            CaseResult.timeless := by
        rw [List.map_append, List.map_append, hpast]
        exact congrArg (_ ++ [·]) hresult
      obtain ⟨other, hother, hresults, hfinal, hfurther⟩ := ih hrest _ hpast' habridged.state_eq
      rw [← hstore] at hother
      refine ⟨⟨executed.result :: other.results, other.store, executed.events ++ other.events,
        other.world⟩, ?_, ?_, hfinal, habridged.append hfurther⟩
      · rw [executeAll, show c.execute course scenario past' store reduced = executed from hexecuted]
        simp only [hother]
      · exact (congrArg (_ :: ·) hresults).trans (congrArg (· :: _) hresult)

end Case

/-! ## The whole run -/

namespace Suite

section Marks

variable {σ : Type} (suite : Suite) (setting : Setting σ) (world : World σ)

/-- Marks on the requests of a run up to its teardown, by a rule for the exchanges of a case. None
of the requests of the setup is marked. -/
def marks (rule : List Exchange → List Bool) : List Bool :=
  Event.unmarked (suite.setupPhase setting world).2.events ++
    (suite.turns setting world).flatMap fun turn => rule turn.exchanges

end Marks

variable {suite : Suite} {cleanup : Option (Action → τ → Cleaned τ)}
  {environment : String → Option String} {world : World (Script × τ)}

/-- The cases of a run lead to the same results, apart from durations, when the script lacks the
replies that are marked as recovered. -/
theorem casePhase_abridged (hsteady : suite.Steady) {setting : Setting (Script × τ)}
    (hsetting : setting = .scripted cleanup environment) {reduced : World (Script × τ)}
    (hsetup : (suite.setupPhase setting world).1 = none)
    (hstate : reduced.state =
      abridge (suite.marks setting world Exchange.recovered) world.state) :
    (suite.setupPhase setting reduced).1 = none ∧
      (suite.casePhase setting reduced).results.map CaseResult.timeless =
        (suite.casePhase setting world).results.map CaseResult.timeless ∧
      (suite.casePhase setting reduced).store = (suite.casePhase setting world).store ∧
      Abridged (suite.marks setting world Exchange.recovered) [] world.state
        ((suite.setupPhase setting reduced).2.events ++ (suite.casePhase setting reduced).events)
        ((suite.setupPhase setting world).2.events ++ (suite.casePhase setting world).events)
        (suite.casePhase setting reduced).world.state
        (suite.casePhase setting world).world.state := by
  subst hsetting
  unfold marks at hstate ⊢
  rw [turns_of_setup hsetup] at hstate ⊢
  have hactions : ∀ action ∈ suite.setup, action.Steady := fun action haction =>
    hsteady.actions action (List.mem_append_left _ haction)
  have hcases : ∀ label ∈ suite.labelledCases,
      label.2.request.Steady ∧ label.2.expect.Steady := by
    intro label hlabel
    have hmem : label.2 ∈ suite.cases := by
      rw [cases_eq_map_labelledCases]
      exact List.mem_map_of_mem hlabel
    exact ⟨hsteady.requests _ hmem, hsteady.expectations _ hmem⟩
  -- no reply is marked behind those of the cases
  rw [← List.append_nil (List.flatMap _ _)] at hstate
  obtain ⟨setup, hother, -, habridged⟩ :=
    Action.performUntilFailure_abridged hactions (Prod.ext hsetup rfl) hstate
  obtain ⟨cases, hphase, hresults, hstore, hfurther⟩ :=
    Case.executeAll_abridged hcases suite.bindings rfl habridged.state_eq
  have hsetup' : suite.setupPhase (.scripted cleanup environment) reduced = (none, setup) := hother
  have hcases' : suite.casePhase (.scripted cleanup environment) reduced = cases := by
    rw [casePhase_eq, hsetup']
    exact hphase
  rw [hsetup', hcases', casePhase_eq]
  exact ⟨rfl, hresults, hstore, habridged.append hfurther⟩

/-- The teardown of a run is the same when the script lacks the replies that are marked as
recovered. -/
theorem teardownPhase_abridged (hsteady : suite.Steady) {setting : Setting (Script × τ)}
    (hsetting : setting = .scripted cleanup environment) {reduced : World (Script × τ)}
    (hstore : (suite.casePhase setting reduced).store = (suite.casePhase setting world).store)
    (hstate : (suite.casePhase setting reduced).world.state =
      abridge [] (suite.casePhase setting world).world.state) :
    (suite.teardownPhase setting reduced).attempted =
        (suite.teardownPhase setting world).attempted ∧
      Event.requests (suite.teardownPhase setting reduced).events =
        Event.requests (suite.teardownPhase setting world).events := by
  subst hsetting
  have hactions : ∀ action ∈ suite.teardown, action.Steady := fun action haction =>
    hsteady.actions action (List.mem_append_right _ haction)
  have hunmarked : (suite.casePhase (.scripted cleanup environment) reduced).world.state =
      abridge (Event.unmarked (suite.teardownPhase (.scripted cleanup environment) world).events ++ [])
        (suite.casePhase (.scripted cleanup environment) world).world.state := by
    unfold abridge
    rw [hstate, List.append_nil, Event.unmarked, withoutMarked_map_false]
    rfl
  obtain ⟨other, hother, hattempted, habridged⟩ :=
    Action.performAll_abridged hactions rfl hunmarked
  have hrequests := habridged.requests_eq
  rw [Event.unmarked, withoutMarked_map_false] at hrequests
  rw [← hstore] at hother
  rw [show suite.teardownPhase (.scripted cleanup environment) reduced = other from hother]
  exact ⟨hattempted, hrequests⟩

/-- **Failures that a retry has recovered from are invisible.** Take a suite without fresh
identifiers, run it on a script without a limit, and take out of the script each failure of the
transport behind which there was another attempt of the same case, unless that case has used up its
attempts. If the setup fails, the run stays as it is. Otherwise the run on the reduced script has
the same results, apart from durations, the same variables and the same teardown errors, and of the
requests those are missing whose replies are. -/
theorem run_without_recovered_failures (hsteady : suite.Steady)
    (cleanup : Option (Action → τ → Cleaned τ)) (environment : String → Option String)
    (world : World (Script × τ)) :
    let setting := Setting.scripted cleanup environment
    let marks := suite.marks setting world Exchange.recovered
    let reduced : World (Script × τ) := { world with state := abridge marks world.state }
    (∀ turn ∈ suite.turns setting world,
      (∀ j : Nat, (Exchange.recovered turn.exchanges)[j]? = some true ↔
        j + 1 < turn.exchanges.length ∧ ¬ Exchange.UsedUp turn.exchanges) ∧
      (Exchange.UsedUp turn.exchanges →
        turn.exchanges.length = max 1 turn.case.retryPolicy.attempts)) ∧
    (∀ failure, (suite.run setting world).1 = .error failure →
      suite.run setting reduced = suite.run setting world) ∧
    ∀ report, (suite.run setting world).1 = .ok report →
      (∀ i : Nat, marks[i]? = some true →
        ∃ reply : Reply, world.state.1[i]? = some reply ∧ reply.Failed) ∧
      ∃ other, (suite.run setting reduced).1 = .ok other ∧
        other.results.map CaseResult.timeless = report.results.map CaseResult.timeless ∧
        other.store = report.store ∧ other.teardownErrors = report.teardownErrors ∧
        Event.requests other.events = withoutMarked marks (Event.requests report.events) := by
  intro setting marks reduced
  refine ⟨?_, ?_, ?_⟩
  · intro turn hturn
    obtain ⟨i, hi⟩ := List.mem_iff_getElem?.1 hturn
    have hdeadline : turn.course.deadline = none := by rw [(turn_eq hi).2.1]; rfl
    exact ⟨fun j => Exchange.recovered_iff _ _, Turn.length_of_usedUp hdeadline⟩
  · intro failure hrun
    have hmarks : marks = Event.unmarked (suite.setupPhase setting world).2.events := by
      cases hsetup : (suite.setupPhase setting world).1 with
      | none =>
          rw [run_of_setup hsetup] at hrun
          cases hrun
      | some e => simp only [marks, Suite.marks, turns, hsetup, List.flatMap_nil, List.append_nil]
    have hreduced : reduced = world := by
      simp only [reduced, hmarks, abridge, Event.unmarked, withoutMarked_map_false]
    rw [hreduced]
  · intro report hrun
    have hsetup := setup_of_run hrun
    obtain ⟨hsetup', hresults, hstore, habridged⟩ :=
      casePhase_abridged hsteady rfl hsetup (show reduced.state = abridge marks world.state from rfl)
    obtain ⟨hattempted, hrequests⟩ := teardownPhase_abridged hsteady rfl hstore habridged.state_eq
    rw [run_of_setup hsetup] at hrun
    cases hrun
    refine ⟨habridged.failed, _, run_of_setup hsetup', hresults, hstore, ?_, ?_⟩
    · exact congrArg (List.filterMap Attempted.error?) hattempted
    · -- the requests of the teardown stand behind all marks
      have hsplit := withoutMarked_append habridged.length_eq []
        (Event.requests (suite.teardownPhase setting world).events)
      rw [List.append_nil, ← Event.requests_append] at hsplit
      refine Eq.trans ?_ hsplit.symm
      exact (Event.requests_append _ _).trans
        ((congrArg (· ++ _) habridged.requests_eq).trans (congrArg (_ ++ ·) hrequests))

end Suite

/-! ## Attempts that are used up -/

namespace Orders

/-- A transport that replies from a script, without a limit and without a cleanup. -/
def scripted : Setting (Script × Unit) := .scripted none fun _ => none

/-- The order is created by the second attempt, and cannot be read. -/
def unreliable : World (Script × Unit) :=
  ⟨0, 0, [⟨1, .ok ⟨204, [], []⟩⟩, ⟨5, .error (.transport "refused")⟩,
    ⟨5, .ok ⟨201, [], Utf8.encode "\x7b\"id\":7\x7d"⟩⟩, ⟨5, .error (.transport "reset")⟩], ()⟩

/-- Neither of the two attempts creates the order. -/
def refused : World (Script × Unit) :=
  ⟨0, 0, [⟨1, .ok ⟨204, [], []⟩⟩, ⟨5, .error (.transport "refused")⟩,
    ⟨5, .error (.transport "reset")⟩], ()⟩

end Orders

namespace Suite

set_option maxRecDepth 20000 in
/-- The failure before the order is created is taken out, and that of the only attempt to read it
stays. -/
theorem orders_recovered :
    Orders.suite.Steady ∧
      Orders.suite.marks Orders.scripted Orders.unreliable Exchange.recovered =
        [false, true, false, false] ∧
      ∃ report other, (Orders.suite.run Orders.scripted Orders.unreliable).1 = .ok report ∧
        (Orders.suite.run Orders.scripted { Orders.unreliable with
          state := abridge [false, true, false, false] Orders.unreliable.state }).1 = .ok other ∧
        other.results.map CaseResult.timeless = report.results.map CaseResult.timeless ∧
        other.results.map (fun result => result.outcome.isPassed) = [true, false, false] ∧
        (Event.requests report.events).length = 4 ∧ (Event.requests other.events).length = 3 := by
  have hsteady : Orders.suite.Steady := by decide +kernel
  have hmarks : Orders.suite.marks (.scripted none fun _ => none) Orders.unreliable
      Exchange.recovered = [false, true, false, false] := by decide +kernel
  have hsetup : (Orders.suite.setupPhase Orders.scripted Orders.unreliable).1 = none := by
    decide +kernel
  have hrun := run_of_setup hsetup
  obtain ⟨-, -, hcompleted⟩ := run_without_recovered_failures hsteady none (fun _ => none)
    Orders.unreliable
  obtain ⟨-, other, hother, hresults, -, -, hrequests⟩ := hcompleted _ hrun
  rw [hmarks] at hother hrequests
  refine ⟨hsteady, hmarks, _, other, hrun, hother, hresults, ?_, ?_, ?_⟩
  · have hpassed := congrArg (List.map fun result => result.outcome.isPassed) hresults
    rw [List.map_map] at hpassed
    refine Eq.trans hpassed ?_
    decide +kernel
  · decide +kernel
  · rw [hrequests]
    decide +kernel

set_option maxRecDepth 20000 in
/-- When both attempts to create the order fail, the first failure has to stay as well: without it
there is an attempt left behind the second one, and the order is created. -/
theorem order_created_without_retried_failure :
    Orders.suite.validate = .ok () ∧ Orders.suite.Steady ∧
      ∃ report other, (Orders.suite.run Orders.scripted Orders.refused).1 = .ok report ∧
        (Orders.suite.run Orders.scripted { Orders.refused with
          state := abridge (Orders.suite.marks Orders.scripted Orders.refused Exchange.retried)
            Orders.refused.state }).1 = .ok other ∧
        report.results.map (fun result => result.outcome.isPassed) = [false, false, false] ∧
        other.results.map (fun result => result.outcome.isPassed) = [true, true, true] ∧
        other.results.map CaseResult.timeless ≠ report.results.map CaseResult.timeless := by
  have hrun := run_of_setup
    (show (Orders.suite.setupPhase Orders.scripted Orders.refused).1 = none by decide +kernel)
  have hother := run_of_setup
    (show (Orders.suite.setupPhase Orders.scripted { Orders.refused with
      state := abridge (Orders.suite.marks Orders.scripted Orders.refused Exchange.retried)
        Orders.refused.state }).1 = none by decide +kernel)
  refine ⟨Orders.validate_eq_ok, by decide +kernel, _, _, hrun, hother, ?_, ?_, ?_⟩
  · decide +kernel
  · decide +kernel
  · intro hsame
    have hpassed := congrArg (List.map fun result => result.outcome.isPassed) hsame
    rw [List.map_map, List.map_map] at hpassed
    revert hpassed
    decide +kernel

end Suite

end ScenarioRunner

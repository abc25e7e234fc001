import ScenarioRunner.Proofs.Run.History
import ScenarioRunner.Proofs.Suite.Names

/-!
# The results of a run

A run completes when its setup succeeds, and then it has one result for each case, in the order of
the cases. Nothing that becomes of a case keeps another one from its result.
-/

set_option autoImplicit false

namespace ScenarioRunner

variable {σ : Type}

/-- Actions run up to the first failure do not fail exactly when all of them succeed. -/
theorem Action.performUntilFailure_eq_none_iff (setting : Setting σ) (baseUrl : String)
    (store : Fields Value) (actions : List Action) (world : World σ) :
    (performUntilFailure setting baseUrl store actions world).1 = none ↔
      ∀ attempted ∈ (performAll setting baseUrl store actions world).attempted,
        attempted.outcome = .ok () := by
  induction actions generalizing world with
  | nil => simp [performUntilFailure, performAll]
  | cons action rest ih =>
      rw [performUntilFailure, performAll]
      cases houtcome : (action.perform setting baseUrl store world).outcome with
      | error e => simp
      | ok _ =>
          simp only [List.mem_cons, forall_eq_or_imp, true_and]
          exact ih _

/-- A turn records its result under the names of its scenario and its case. -/
theorem Turn.Ends.label {turn : Turn σ} {executed : Executed σ} (h : turn.Ends executed) :
    executed.result.scenario = turn.scenario ∧ executed.result.name = turn.case.name := by
  cases h <;> exact ⟨rfl, rfl⟩

namespace Suite

variable (suite : Suite) (setting : Setting σ) (world : World σ)

/-- All actions of the setup succeed. -/
def SetupSucceeds : Prop :=
  ∀ attempted ∈
      (Action.performAll setting suite.baseUrl suite.bindings suite.setup world).attempted,
    attempted.outcome = .ok ()

variable {suite setting world} {report : Report}

theorem setupSucceeds_iff :
    suite.SetupSucceeds setting world ↔ (suite.setupPhase setting world).1 = none :=
  (Action.performUntilFailure_eq_none_iff _ _ _ _ _).symm

/-- A completed run reports the cases under their names, in their order. -/
theorem labels_of_run (hrun : (suite.run setting world).1 = .ok report) :
    report.results.map (fun result => (result.scenario, result.name)) =
      suite.labelledCases.map fun label => (label.1, label.2.name) := by
  have hlabel : ∀ turn : Turn σ, (turn.result.scenario, turn.result.name) =
      (turn.scenario, turn.case.name) := by
    intro turn
    obtain ⟨hscenario, hname⟩ := turn.ends.label
    exact Prod.ext hscenario hname
  rw [(report_of_run hrun).1, ← labels_of_turns (setup_of_run hrun), List.map_map, List.map_map]
  exact List.map_congr_left fun turn _ => hlabel turn

/-- The results of a completed run have the names of the cases. -/
theorem names_of_run (hrun : (suite.run setting world).1 = .ok report) :
    report.results.map CaseResult.name = suite.cases.map Case.name := by
  have hlabels := congrArg (List.map Prod.snd) (labels_of_run hrun)
  rw [List.map_map, List.map_map] at hlabels
  rw [cases_eq_map_labelledCases, List.map_map]
  exact hlabels

/-- A result has the name of the case in its place. -/
theorem name_of_result (hrun : (suite.run setting world).1 = .ok report) (i : Nat) :
    report.results[i]?.map CaseResult.name = suite.cases[i]?.map Case.name := by
  rw [← List.getElem?_map, ← List.getElem?_map, names_of_run hrun]

theorem name_eq_of_result (hrun : (suite.run setting world).1 = .ok report) {i : Nat} {c : Case}
    (hc : suite.cases[i]? = some c) {result : CaseResult}
    (hresult : report.results[i]? = some result) : result.name = c.name := by
  have hname := name_of_result hrun i
  rw [hresult, hc] at hname
  exact Option.some.inj hname

/-- Each result of a completed run keeps one verdict. -/
theorem agrees_of_run (hrun : (suite.run setting world).1 = .ok report) {result : CaseResult}
    (hresult : result ∈ report.results) : result.Agrees := by
  rw [(report_of_run hrun).1] at hresult
  obtain ⟨turn, -, rfl⟩ := List.mem_map.1 hresult
  exact turn.ends.agrees

/-- In a completed run of a well-formed suite each case has one result. -/
theorem count_results (hvalid : suite.validate = .ok ())
    (hrun : (suite.run setting world).1 = .ok report) {c : Case} (hc : c ∈ suite.cases) :
    report.results.countP (fun result => result.name == c.name) = 1 := by
  have hcount : (report.results.map CaseResult.name).count c.name = 1 := by
    rw [names_of_run hrun, (nodup_names hvalid).count, if_pos (List.mem_map_of_mem hc)]
  rw [List.count, List.countP_map] at hcount
  exact hcount

/-- **Each case of a run is recorded once.** When the setup of a well-formed suite succeeds, the run
completes, and its results are those of the turns of its cases, in the order of the scenarios and of
the cases in them, whatever the transport, the cleanup and the deadline make of the cases. -/
theorem run_records_each_case_once (hvalid : suite.validate = .ok ())
    (hsetup : suite.SetupSucceeds setting world) :
    ∃ report, (suite.run setting world).1 = .ok report ∧
      report.results = (suite.turns setting world).map Turn.result ∧
      report.results.map (fun result => (result.scenario, result.name)) =
        (suite.scenarios.flatMap fun scenario =>
          scenario.cases.map fun c => (scenario.name, c.name)) ∧
      ∀ c ∈ suite.cases, report.results.countP (fun result => result.name == c.name) = 1 := by
  have hrun := run_of_setup (setupSucceeds_iff.1 hsetup)
  refine ⟨_, hrun, (report_of_run hrun).1, ?_, fun c hc => count_results hvalid hrun hc⟩
  rw [labels_of_run hrun, labelledCases, List.map_flatMap]
  congr
  funext scenario
  rw [Scenario.labelledCases, List.map_map]
  rfl

set_option maxRecDepth 20000 in
/-- A case that fails to be read and one that is skipped are recorded like one that passes. -/
theorem orders_recorded :
    Orders.suite.validate = .ok () ∧ Orders.suite.SetupSucceeds Orders.setting Orders.world ∧
    ∃ report, (Orders.suite.run Orders.setting Orders.world).1 = .ok report ∧
      report.results.map (fun result => (result.scenario, result.name)) =
        [("orders", "create"), ("orders", "read"), ("orders", "list")] ∧
      report.results.map (fun result => result.outcome.isPassed) = [true, false, false] := by
  have hvalid := Orders.validate_eq_ok
  have hsetup : Orders.suite.SetupSucceeds Orders.setting Orders.world :=
    setupSucceeds_iff.2 Orders.setup_eq_none
  obtain ⟨report, hrun, hresults, hlabels, -⟩ := run_records_each_case_once hvalid hsetup
  refine ⟨hvalid, hsetup, report, hrun, hlabels, ?_⟩
  rw [hresults]
  decide +kernel

end Suite

end ScenarioRunner

import ScenarioRunner.Proofs.Run.Gate
import ScenarioRunner.Proofs.Run.Phases
import ScenarioRunner.Proofs.Run.Summary

/-!
# Scenarios are labels

A run writes the name of its scenario on the result of each case, and does not look at it. So to
take these labels off is the same before a run and behind it: the unlabelled results of a suite are
those of the suite in which all cases stand in one scenario without a name (`run_ungrouped`). Two
suites that differ in their scenarios only have the same run, apart from these labels.
-/

set_option autoImplicit false

namespace ScenarioRunner

variable {σ : Type}

/-! ## Labels of results -/

/-- A result apart from the name of its scenario. -/
def CaseResult.unlabelled (result : CaseResult) : CaseResult := { result with scenario := "" }

/-- What a case led to, apart from the name of its scenario. -/
def Executed.unlabelled (executed : Executed σ) : Executed σ :=
  { executed with result := executed.result.unlabelled }

/-- What cases led to, apart from the names of their scenarios. -/
def CasePhase.unlabelled (phase : CasePhase σ) : CasePhase σ :=
  { phase with results := phase.results.map CaseResult.unlabelled }

theorem CasePhase.unlabelled_before (executed : Executed σ) (phase : CasePhase σ) :
    (executed.before phase).unlabelled = executed.unlabelled.before phase.unlabelled := rfl

/-- Labels do not count. -/
theorem Summary.ofResults_unlabelled (results : List CaseResult) :
    ofResults (results.map CaseResult.unlabelled) = ofResults results := by
  rw [ofResults_eq, ofResults_eq, List.length_map, List.countP_map, List.countP_map,
    List.countP_map, List.map_map]
  rfl

namespace Case

variable (c : Case) (course : Course σ) (scenario : String) (store : Fields Value)
  (world : World σ)

/-- A gate does not look at labels. -/
theorem gate_unlabelled (past : List CaseResult) :
    c.gate (past.map CaseResult.unlabelled) = c.gate past :=
  c.gate_map CaseResult.unlabelled (fun _ => rfl) (fun _ => rfl) past

/-- A case that is sent does not look at its scenario. -/
theorem perform_unlabelled :
    (c.perform course scenario store world).unlabelled = c.perform course "" store world := by
  simp only [perform]
  rcases (c.send course store world).outcome with e | response
  · rfl
  · simp only
    rcases c.judge ⟨store, course.setting.environment⟩ response
      (c.send course store world).world.supply with ⟨verdict, snapshot, supply⟩
    cases verdict with
    | error e => rfl
    | ok _ => rfl

/-- **A case does not look at its scenario, nor at those of the cases before it.** -/
theorem execute_unlabelled (past : List CaseResult) :
    (c.execute course scenario past store world).unlabelled =
      c.execute course "" (past.map CaseResult.unlabelled) store world := by
  unfold execute
  rw [gate_unlabelled]
  rcases c.gate past with e | _
  · rfl
  · simp only
    split
    · rfl
    · exact perform_unlabelled c course scenario store world

/-- Cases do not look at their scenarios. -/
theorem executeAll_unlabelled (past : List CaseResult) (store : Fields Value)
    (cases : List (String × Case)) (world : World σ) :
    (executeAll course past store cases world).unlabelled =
      executeAll course (past.map CaseResult.unlabelled) store
        (cases.map fun label => ("", label.2)) world := by
  -- the results so far grow at their end, and lose their labels there
  induction cases generalizing past store world with
  | nil => rfl
  | cons label rest ih =>
      obtain ⟨scenario, c⟩ := label
      have hfirst := execute_unlabelled c course scenario store world past
      rw [List.map_cons, executeAll_cons, executeAll_cons, ← hfirst]
      generalize c.execute course scenario past store world = executed
      have hrest := ih (past ++ [executed.result]) executed.store executed.world
      rw [List.map_append] at hrest
      exact (CasePhase.unlabelled_before _ _).trans (congrArg executed.unlabelled.before hrest)

end Case

/-! ## Labels of cases -/

namespace Suite

variable {suite other : Suite} {setting : Setting σ} {world : World σ}

/-- All cases in one scenario without a name. -/
def ungrouped (suite : Suite) : Suite :=
  { suite with scenarios := [{ name := "", cases := suite.cases }] }

theorem labelledCases_ungrouped (suite : Suite) :
    suite.ungrouped.labelledCases = suite.labelledCases.map fun label => ("", label.2) := by
  have hsingle : suite.ungrouped.labelledCases = suite.cases.map fun c => ("", c) :=
    List.append_nil _
  rw [hsingle, cases_eq_map_labelledCases, List.map_map]
  rfl

/-- **To take the labels off is the same before a run and behind it.** -/
theorem run_ungrouped (suite : Suite) (setting : Setting σ) (world : World σ) :
    suite.ungrouped.run setting world =
      ((suite.run setting world).1.map fun report =>
          { report with results := report.results.map CaseResult.unlabelled },
        (suite.run setting world).2) := by
  refine run_of_casePhase (List.map CaseResult.unlabelled) fun _ => ?_
  change suite.ungrouped.casePhase setting world = (suite.casePhase setting world).unlabelled
  rw [casePhase_eq, casePhase_eq, labelledCases_ungrouped, Case.executeAll_unlabelled]
  rfl

/-- Two suites have the same header, and the same cases in the same order, in any scenarios. -/
structure Regroups (suite other : Suite) : Prop where
  name : other.name = suite.name
  baseUrl : other.baseUrl = suite.baseUrl
  setup : other.setup = suite.setup
  teardown : other.teardown = suite.teardown
  bindings : other.bindings = suite.bindings
  cases : other.cases = suite.cases

theorem Regroups.ungrouped_eq (h : suite.Regroups other) : other.ungrouped = suite.ungrouped := by
  unfold ungrouped
  rw [h.cases]
  obtain ⟨name, baseUrl, setup, teardown, bindings, scenarios⟩ := other
  obtain ⟨rfl, rfl, rfl, rfl, rfl, -⟩ := h
  rfl

/-- **The scenarios of a suite are only labels.** Two suites with the same header and the same
cases, in whatever scenarios these stand, end in the same world, fail in their setup alike or both
complete; and then they have done the same at the same times, and have the same variables, teardown
errors and counts, and the same results apart from the names of the scenarios. -/
theorem grouping_is_a_label (hregroups : suite.Regroups other) (setting : Setting σ)
    (world : World σ) :
    (other.run setting world).2 = (suite.run setting world).2 ∧
      (∀ failure, (suite.run setting world).1 = .error failure →
        (other.run setting world).1 = .error failure) ∧
      ∀ report, (suite.run setting world).1 = .ok report →
        ∃ regrouped, (other.run setting world).1 = .ok regrouped ∧
          regrouped.events = report.events ∧ regrouped.store = report.store ∧
          regrouped.setup = report.setup ∧ regrouped.teardown = report.teardown ∧
          regrouped.teardownErrors = report.teardownErrors ∧
          Summary.ofResults regrouped.results = Summary.ofResults report.results ∧
          regrouped.results.map CaseResult.unlabelled =
            report.results.map CaseResult.unlabelled := by
  -- without labels both are the run of one and the same suite
  have hsame := run_ungrouped other setting world
  rw [hregroups.ungrouped_eq, run_ungrouped] at hsame
  obtain ⟨houtcome, hworld⟩ := Prod.mk.inj hsame
  refine ⟨hworld.symm, ?_, ?_⟩
  · intro failure hrun
    rw [hrun] at houtcome
    rcases hother : (other.run setting world).1 with failure' | regrouped
    · rw [hother] at houtcome
      exact houtcome.symm
    · rw [hother] at houtcome
      cases houtcome
  · intro report hrun
    rw [hrun] at houtcome
    rcases hother : (other.run setting world).1 with failure | regrouped
    · rw [hother] at houtcome
      cases houtcome
    · rw [hother] at houtcome
      have hreport := Except.ok.inj houtcome
      have hresults := congrArg Report.results hreport
      have hteardown := congrArg Report.teardown hreport
      refine ⟨regrouped, rfl, (congrArg Report.events hreport).symm,
        (congrArg Report.store hreport).symm, (congrArg Report.setup hreport).symm,
        hteardown.symm, congrArg (List.filterMap Attempted.error?) hteardown.symm, ?_,
        hresults.symm⟩
      rw [← Summary.ofResults_unlabelled, ← Summary.ofResults_unlabelled report.results]
      exact congrArg Summary.ofResults hresults.symm

end Suite

namespace Orders

/-- The same cases in two scenarios, with an empty one between them. -/
def regrouped : Suite :=
  { suite with
    scenarios :=
      [{ name := "writing", cases := suite.cases.take 1 }, { name := "nothing" },
        { name := "reading", cases := suite.cases.drop 1 }] }

end Orders

namespace Suite

set_option maxRecDepth 20000 in
/-- The order is read in another scenario than it is created in. -/
theorem orders_regrouped :
    Orders.suite.Regroups Orders.regrouped ∧
      ∃ report regrouped, (Orders.suite.run Orders.setting Orders.world).1 = .ok report ∧
        (Orders.regrouped.run Orders.setting Orders.world).1 = .ok regrouped ∧
        report.results.map CaseResult.scenario = ["orders", "orders", "orders"] ∧
        regrouped.results.map CaseResult.scenario = ["writing", "reading", "reading"] ∧
        regrouped.events = report.events ∧
        regrouped.results.map CaseResult.unlabelled =
          report.results.map CaseResult.unlabelled := by
  have hregroups : Orders.suite.Regroups Orders.regrouped := ⟨rfl, rfl, rfl, rfl, rfl, rfl⟩
  have hrun := run_of_setup Orders.setup_eq_none
  obtain ⟨-, -, hcompleted⟩ := grouping_is_a_label hregroups Orders.setting Orders.world
  obtain ⟨regrouped, hregrouped, hevents, -, -, -, -, -, hresults⟩ := hcompleted _ hrun
  refine ⟨hregroups, _, regrouped, hrun, hregrouped, ?_, ?_, hevents, hresults⟩
  · decide +kernel
  · rw [(report_of_run hregrouped).1]
    decide +kernel

end Suite

end ScenarioRunner

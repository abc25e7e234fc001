import ScenarioRunner.Proofs.Run.Dependencies
import ScenarioRunner.Proofs.Run.Gate
import ScenarioRunner.Proofs.Run.Phases
import Mathlib.Data.List.ModifyLast

/-!
# A suite with more cases at its end

A run goes through its cases in their order, and nothing that a case finds depends on the cases
behind it. So the turns of a suite are the first ones of every suite that goes on behind it
(`turns_extended`). This is so whatever names the further cases have: a case that depends on one of
them does not see it (`skipped_of_unknown`).
-/

set_option autoImplicit false

namespace ScenarioRunner

variable {σ : Type}

namespace Suite

/-- A suite with more cases in its last scenario, and with further scenarios behind that. -/
def extended (suite : Suite) (more : List Case) (further : List Scenario) : Suite :=
  { suite with
    scenarios :=
      (suite.scenarios.modifyLast fun last => { last with cases := last.cases ++ more }) ++
        further }

/-- What a run does before its teardown. -/
def mainEvents (suite : Suite) (setting : Setting σ) (world : World σ) : List Event :=
  (suite.setupPhase setting world).2.events ++ (suite.turns setting world).flatMap Turn.events

variable {suite : Suite} {setting : Setting σ} {world : World σ} {report : Report}

/-- The cases of a suite come first when it is extended. -/
theorem labelledCases_extended (suite : Suite) (more : List Case) (further : List Scenario) :
    suite.labelledCases <+: (suite.extended more further).labelledCases := by
  unfold labelledCases Scenario.labelledCases extended
  rw [List.flatMap_append]
  rcases List.eq_nil_or_concat suite.scenarios with hnone | ⟨scenarios, last, hlast⟩
  · rw [hnone]
    exact List.nil_prefix
  · -- the cases of the last scenario come before those that are added to it
    rw [hlast, List.concat_eq_append, List.modifyLast_concat, List.flatMap_append,
      List.flatMap_append, List.flatMap_singleton, List.flatMap_singleton, List.map_append,
      ← List.append_assoc, List.append_assoc]
    exact List.prefix_append _ _

/-- **The turns of a suite come first when it is extended, and are the same.** -/
theorem turns_extended (suite : Suite) (more : List Case) (further : List Scenario)
    (setting : Setting σ) (world : World σ) :
    suite.turns setting world <+: (suite.extended more further).turns setting world := by
  cases hsetup : (suite.setupPhase setting world).1 with
  | some e =>
      have hnone : suite.turns setting world = [] := by
        unfold turns
        rw [hsetup]
      rw [hnone]
      exact List.nil_prefix
  | none =>
      have hother : ((suite.extended more further).setupPhase setting world).1 = none := hsetup
      rw [turns_of_setup hsetup, turns_of_setup hother,
        List.prefix_iff_eq_take.1 (labelledCases_extended suite more further), ← Case.take_turns]
      exact List.take_prefix _ _

/-- A completed run reports what it does before its teardown, and then what it does in it. -/
theorem events_of_run (hrun : (suite.run setting world).1 = .ok report) :
    report.events =
      suite.mainEvents setting world ++ (suite.teardownPhase setting world).events :=
  (report_of_run hrun).2.2

theorem attempted_of_run (hrun : (suite.run setting world).1 = .ok report) :
    report.setup = (suite.setupPhase setting world).2.attempted := by
  rw [run_of_setup (setup_of_run hrun)] at hrun
  exact congrArg Report.setup (Except.ok.inj hrun).symm

/-- The phase of a setup that makes a run fail, with its error. -/
theorem setupPhase_of_failure {failure : SetupFailure}
    (hrun : (suite.run setting world).1 = .error failure) :
    suite.setupPhase setting world = (some failure.error, (suite.setupPhase setting world).2) := by
  rcases hphase : suite.setupPhase setting world with ⟨failed, setup⟩
  cases failed with
  | none =>
      rw [run_of_setup (by rw [hphase])] at hrun
      cases hrun
  | some e =>
      rw [run_of_failure hphase] at hrun
      cases hrun
      rfl

/-- What a suite does before its teardown comes first when the suite is extended. -/
theorem mainEvents_extended (suite : Suite) (more : List Case) (further : List Scenario)
    (setting : Setting σ) (world : World σ) :
    suite.mainEvents setting world <+: (suite.extended more further).mainEvents setting world := by
  obtain ⟨later, hturns⟩ := turns_extended suite more further setting world
  unfold mainEvents
  rw [← hturns, List.flatMap_append, ← List.append_assoc]
  exact List.prefix_append _ _

/-- A case that depends on a name that no case has is skipped. -/
theorem skipped_of_unknown (hrun : (suite.run setting world).1 = .ok report) {i : Nat} {c : Case}
    {name : String} (hc : suite.cases[i]? = some c) (hdependency : c.dependency = some name)
    (hunknown : name ∉ suite.cases.map Case.name) :
    ∃ result, report.results[i]? = some result ∧
      result.outcome = .skipped (.dependency name "has not run") := by
  obtain ⟨turn, hturn, rfl⟩ := turn_of_case hrun hc
  have hnone : CaseResult.find? turn.past name = none := by
    rw [← Option.not_isSome_iff_eq_none, CaseResult.isSome_find?_iff]
    rintro ⟨result, hmem, hname⟩
    rw [past_of_turn hrun hturn] at hmem
    rw [← names_of_run hrun, ← hname] at hunknown
    exact hunknown (List.mem_map_of_mem (List.mem_of_mem_take hmem))
  refine ⟨turn.result, result_of_turn hrun hturn, turn.ends.outcome_eq_skipped_iff.2 ?_⟩
  exact Case.gate_of_not_found hdependency hnone

/-- **Later cases do not matter to earlier ones.** When cases are added at the end of a suite, a
setup that fails does so as before. Otherwise both runs complete, and the results of the suite come
first among those of the extended one, from turns that are the same; so does all that it does before
its teardown, at the same times. A case that depends on a name that only a later case has is skipped
with the same error in both, as if there were no such name. -/
theorem later_cases_do_not_matter (suite : Suite) (more : List Case) (further : List Scenario)
    (setting : Setting σ) (world : World σ) :
    (∀ failure, (suite.run setting world).1 = .error failure →
      (suite.extended more further).run setting world = suite.run setting world) ∧
    ∀ report, (suite.run setting world).1 = .ok report →
      ∃ longer, ((suite.extended more further).run setting world).1 = .ok longer ∧
        longer.setup = report.setup ∧
        report.results <+: longer.results ∧
        suite.turns setting world <+: (suite.extended more further).turns setting world ∧
        report.events =
          suite.mainEvents setting world ++ (suite.teardownPhase setting world).events ∧
        longer.events = (suite.extended more further).mainEvents setting world ++
          ((suite.extended more further).teardownPhase setting world).events ∧
        suite.mainEvents setting world <+:
          (suite.extended more further).mainEvents setting world ∧
        ∀ (i : Nat) (c : Case) (name : String), suite.cases[i]? = some c →
          c.dependency = some name → name ∉ suite.cases.map Case.name →
          ∃ result, report.results[i]? = some result ∧ longer.results[i]? = some result ∧
            result.outcome = .skipped (.dependency name "has not run") := by
  constructor
  · -- the setup of a suite does not look at its cases
    intro failure hrun
    have hphase := setupPhase_of_failure hrun
    have hother : (suite.extended more further).setupPhase setting world =
        (some failure.error, (suite.setupPhase setting world).2) := hphase
    rw [run_of_failure hphase, run_of_failure hother]
  · intro report hrun
    have hsetup := setup_of_run hrun
    have hother : ((suite.extended more further).setupPhase setting world).1 = none := hsetup
    obtain ⟨longer, hlonger⟩ : ∃ longer,
        ((suite.extended more further).run setting world).1 = .ok longer :=
      ⟨_, run_of_setup hother⟩
    have hturns := turns_extended suite more further setting world
    have hresults : report.results <+: longer.results := by
      rw [(report_of_run hrun).1, (report_of_run hlonger).1]
      exact hturns.map _
    refine ⟨longer, hlonger, ?_, hresults, hturns, events_of_run hrun, events_of_run hlonger,
      mainEvents_extended suite more further setting world, ?_⟩
    · rw [attempted_of_run hrun, attempted_of_run hlonger]
      rfl
    · intro i c name hc hdependency hunknown
      obtain ⟨result, hresult, houtcome⟩ := skipped_of_unknown hrun hc hdependency hunknown
      refine ⟨result, hresult, ?_, houtcome⟩
      -- the result stands in the same place of both runs, as the one list begins with the other
      obtain ⟨hlength, hget⟩ := List.getElem?_eq_some_iff.1 hresult
      rw [List.getElem?_eq_some_iff]
      exact ⟨Nat.lt_of_lt_of_le hlength hresults.length_le,
        (hresults.getElem hlength).symm.trans hget⟩

end Suite

namespace Orders

/-- The orders are checked when they have been audited, which no case of the suite does. -/
def checked : Suite := suite.extended [{ name := "check", dependsOn := some "audit" }] []

/-- A scenario that audits the orders. -/
def auditing : Scenario := { name := "audits", cases := [{ name := "audit" }] }

end Orders

namespace Suite

set_option maxRecDepth 20000 in
/-- An audit behind the check does not help it. -/
theorem orders_audited_late :
    ∃ report longer, (Orders.checked.run Orders.setting Orders.world).1 = .ok report ∧
      ((Orders.checked.extended [] [Orders.auditing]).run Orders.setting Orders.world).1 =
        .ok longer ∧
      report.results.length = 4 ∧ longer.results.length = 5 ∧ report.results <+: longer.results ∧
      longer.results[3]?.map CaseResult.outcome =
        some (.skipped (.dependency "audit" "has not run")) ∧
      report.events.length = 4 ∧ longer.events.length = 5 := by
  have hsetup : (Orders.checked.setupPhase Orders.setting Orders.world).1 = none :=
    Orders.setup_eq_none
  have hrun := run_of_setup hsetup
  obtain ⟨-, hcompleted⟩ :=
    later_cases_do_not_matter Orders.checked [] [Orders.auditing] Orders.setting Orders.world
  obtain ⟨longer, hlonger, -, hresults, -, -, hevents, -, hskipped⟩ := hcompleted _ hrun
  obtain ⟨result, -, hresult, houtcome⟩ :=
    hskipped 3 { name := "check", dependsOn := some "audit" } "audit" rfl rfl (by decide)
  refine ⟨_, longer, hrun, hlonger, ?_, ?_, hresults, ?_, ?_, ?_⟩
  · decide +kernel
  · rw [(report_of_run hlonger).1]
    decide +kernel
  · rw [hresult, Option.map_some, houtcome]
  · decide +kernel
  · rw [hevents]
    decide +kernel

end Suite

end ScenarioRunner

import Mathlib.Algebra.Ring.Nat
import ScenarioRunner.Command.Execute
import ScenarioRunner.Proofs.Run.Results
import ScenarioRunner.Proofs.Run.Summary

/-!
# Results, counts and the outcome of a command

A result keeps its verdict as a flag, as a message and as an outcome, and these have readers of their
own: the gates and the failures read the flag, the counts and the outcome of a command read the
outcome. In the results of a run they agree, as each of the ways in which a case can end sets them
alike (`Turn.Ends.agrees`). So the failures are the results that count as failed or skipped
(`failures_eq_filter`), and a run command succeeds exactly when all cases have passed
(`runOutcome_eq_ok_iff`).
-/

set_option autoImplicit false

namespace ScenarioRunner

variable {σ τ : Type}

/-! ## Counts -/

/-- Among results that agree with themselves, what has not passed has failed or was skipped. -/
theorem CaseResult.failures_eq_filter {results : List CaseResult}
    (hagree : ∀ result ∈ results, result.Agrees) :
    failures results =
      results.filter fun result => result.outcome.isFailed || result.outcome.isSkipped := by
  unfold failures
  refine List.filter_congr fun result hresult => ?_
  have hpassed := (hagree result hresult).passed_iff
  cases houtcome : result.outcome with
  | passed =>
      rw [hpassed.2 houtcome]
      rfl
  | failed e =>
      rw [houtcome] at hpassed
      simpa [Outcome.isFailed] using hpassed
  | skipped e =>
      rw [houtcome] at hpassed
      simpa [Outcome.isFailed, Outcome.isSkipped] using hpassed

section Counts

variable (results : List CaseResult)

theorem runOutcome_eq :
    runOutcome results =
      let failed := results.countP fun result => decide (result.outcome ≠ .passed)
      if failed = 0 then .ok () else .error (.runFailed failed results.length) := by
  have htotal : (Summary.ofResults results).total = results.length := by
    rw [Summary.ofResults_eq]
  unfold runOutcome
  simp only [Summary.failed_add_skipped, htotal]

/-- No result counts as not passed exactly when all cases have passed. -/
theorem countP_not_passed_eq_zero_iff :
    (results.countP fun result => decide (result.outcome ≠ .passed)) = 0 ↔
      ∀ result ∈ results, result.outcome = .passed := by
  rw [List.countP_eq_zero]
  simp only [decide_eq_true_eq, ne_eq, Classical.not_not]

/-- A run has succeeded exactly when all cases have passed. -/
theorem runOutcome_eq_ok_iff :
    runOutcome results = .ok () ↔ ∀ result ∈ results, result.outcome = .passed := by
  rw [runOutcome_eq, ← countP_not_passed_eq_zero_iff]
  dsimp only
  split
  · exact iff_of_true rfl ‹_›
  · exact iff_of_false (by simp) ‹_›

/-- A run in which a case has not passed has failed, with the count of such cases. -/
theorem runOutcome_of_not_passed (h : ∃ result ∈ results, result.outcome ≠ .passed) :
    runOutcome results = .error
      (.runFailed (results.countP fun result => decide (result.outcome ≠ .passed))
        results.length) := by
  rw [runOutcome_eq]
  refine if_neg fun hnone => ?_
  obtain ⟨result, hmem, hresult⟩ := h
  exact hresult ((countP_not_passed_eq_zero_iff results).1 hnone result hmem)

end Counts

/-! ## Runs and commands -/

/-- The results of the cases of a suite agree with themselves, and with what is read off them. -/
structure Suite.Accounted (suite : Suite) (results : List CaseResult) : Prop where
  passed : ∀ result ∈ results, result.passed = true ↔ result.outcome = .passed
  error : ∀ result ∈ results, result.error? = none ↔ result.outcome = .passed
  message : ∀ result ∈ results, ∀ e, result.outcome = .failed e ∨ result.outcome = .skipped e →
    result.error? = some e.message
  skipped : ∀ result ∈ results, result.outcome.isSkipped = true →
    result.duration = 0 ∧ result.response = none
  total : (Summary.ofResults results).total = suite.cases.length
  counts : Summary.ofResults results =
    { total := results.length
      passed := results.countP (·.outcome.isPassed)
      failed := results.countP (·.outcome.isFailed)
      skipped := results.countP (·.outcome.isSkipped)
      duration := (results.map CaseResult.duration).sum }
  sum : (Summary.ofResults results).total = (Summary.ofResults results).passed +
    (Summary.ofResults results).failed + (Summary.ofResults results).skipped
  failures : CaseResult.failures results =
    results.filter fun result => result.outcome.isFailed || result.outcome.isSkipped

namespace Suite

variable {suite : Suite} {setting : Setting σ} {world : World σ} {report : Report}

/-- The results of a completed run agree with themselves, and with what is read off them. -/
theorem accounted_of_run (hrun : (suite.run setting world).1 = .ok report) :
    suite.Accounted report.results where
  passed result hresult := (agrees_of_run hrun hresult).passed_iff
  error result hresult := (agrees_of_run hrun hresult).error_iff
  message result hresult := (agrees_of_run hrun hresult).message_eq
  skipped result hresult := (agrees_of_run hrun hresult).of_skipped
  total := by
    have hnames := congrArg List.length (names_of_run hrun)
    rw [List.length_map, List.length_map] at hnames
    rw [Summary.ofResults_eq]
    exact hnames
  counts := Summary.ofResults_eq report.results
  sum := (Summary.passed_add_failed_add_skipped report.results).symm
  failures := CaseResult.failures_eq_filter fun _ hresult => agrees_of_run hrun hresult

end Suite

namespace Command

variable {options : RunOptions} {around : Surroundings τ} {world after : World (Site τ)}
  {prepared : PreparedRun τ} {report : Report}

/-- The results can be written to the file that is asked for, if there is one. -/
def ExportSucceeds (options : RunOptions) (around : Surroundings τ) (world : World (Site τ))
    (results : List CaseResult) : Prop :=
  ∀ path, options.exportPath = some path → ∃ files,
    world.state.files.write around.directory path (Utf8.encode (exportText results)) = .ok files

/-- Once a run has completed and its results are written, the command ends as its cases did. -/
theorem outcome_execute_run (colours : Bool)
    (hprepare : options.prepare around world.state.files = .ok prepared)
    (hrun : prepared.suite.run prepared.setting world = (.ok report, after))
    (hexport : ExportSucceeds options around after report.results) :
    ((Command.run options).execute around colours world).outcome = runOutcome report.results := by
  simp only [execute, hprepare, PreparedRun.start, hrun, PreparedRun.conclude]
  rcases hpath : options.exportPath with _ | path
  · rfl
  · obtain ⟨files, hwrite⟩ := hexport path hpath
    simp only [hwrite]

/-- **Results, counts and the outcome of a command agree.** In every completed run a result has its
flag and lacks a message exactly when the case has passed, and else the message is that of the error
in the outcome; what was skipped has taken no time and has no response; every case is counted once,
and the failures are those that have failed or were skipped. A run command whose setup succeeds and whose results can be written succeeds exactly when
all cases have passed; otherwise its error counts the cases that have not passed and all cases,
whatever became of the teardown. -/
theorem results_counts_and_outcome_agree :
    (∀ (suite : Suite) (setting : Setting σ) (world : World σ) (report : Report),
      (suite.run setting world).1 = .ok report → suite.Accounted report.results) ∧
    ∀ (options : RunOptions) (around : Surroundings τ) (colours : Bool) (world : World (Site τ))
      (prepared : PreparedRun τ),
      options.prepare around world.state.files = .ok prepared →
      prepared.suite.SetupSucceeds prepared.setting world →
      ∃ report after, prepared.suite.run prepared.setting world = (.ok report, after) ∧
        (ExportSucceeds options around after report.results →
          let outcome := ((Command.run options).execute around colours world).outcome
          (outcome = .ok () ↔ ∀ result ∈ report.results, result.outcome = .passed) ∧
          ((∃ result ∈ report.results, result.outcome ≠ .passed) →
            outcome = .error (.runFailed
              (report.results.countP fun result => decide (result.outcome ≠ .passed))
              prepared.suite.cases.length))) := by
  refine ⟨fun suite setting world report => Suite.accounted_of_run, ?_⟩
  intro options around colours world prepared hprepare hsetup
  -- a run whose setup succeeds completes
  obtain ⟨report, hcompleted⟩ : ∃ report,
      (prepared.suite.run prepared.setting world).1 = .ok report :=
    ⟨_, Suite.run_of_setup (Suite.setupSucceeds_iff.1 hsetup)⟩
  have hrun : prepared.suite.run prepared.setting world =
      (.ok report, (prepared.suite.run prepared.setting world).2) := Prod.ext hcompleted rfl
  refine ⟨report, _, hrun, fun hexport => ?_⟩
  have houtcome := outcome_execute_run colours hprepare hrun hexport
  have hcases : report.results.length = prepared.suite.cases.length := by
    have htotal := (Suite.accounted_of_run hcompleted).total
    rwa [Summary.ofResults_eq] at htotal
  dsimp only
  rw [houtcome, ← hcases]
  exact ⟨runOutcome_eq_ok_iff _, runOutcome_of_not_passed _⟩

/-- What can be seen of a run command: how many cases there are and how many have not passed, how
many failures there are in the teardown, and whether the results can be written to a file. -/
def sight (options : RunOptions) (around : Surroundings τ) (world : World (Site τ))
    (path : String) : Option (Nat × Nat × Nat × Bool) := do
  let prepared ← (options.prepare around world.state.files).toOption
  let (ended, after) := prepared.suite.run prepared.setting world
  let report ← ended.toOption
  let written := after.state.files.write around.directory path
    (Utf8.encode (exportText report.results))
  return (prepared.suite.cases.length,
    report.results.countP fun result => decide (result.outcome ≠ .passed),
    report.teardownErrors.length, written.toOption.isSome)

/-- Something can be seen of a command when its run is prepared and completes. -/
theorem completed_of_sight {path : String} {cases failed errors : Nat} {writable : Bool}
    (h : sight options around world path = some (cases, failed, errors, writable)) :
    ∃ prepared report after, options.prepare around world.state.files = .ok prepared ∧
      prepared.suite.run prepared.setting world = (.ok report, after) ∧
      prepared.suite.cases.length = cases ∧
      (report.results.countP fun result => decide (result.outcome ≠ .passed)) = failed ∧
      report.teardownErrors.length = errors ∧
      (after.state.files.write around.directory path
        (Utf8.encode (exportText report.results))).toOption.isSome = writable := by
  unfold sight at h
  rcases hprepare : options.prepare around world.state.files with e | prepared
  · simp [hprepare, Except.toOption] at h
  rcases hrun : prepared.suite.run prepared.setting world with ⟨failure | report, after⟩
  · simp [hprepare, hrun, Except.toOption] at h
  · simp only [hprepare, hrun, Except.toOption, Option.bind_eq_bind, Option.bind_some,
      Option.pure_def, Option.some.injEq, Prod.mk.injEq] at h
    exact ⟨prepared, report, after, rfl, hrun, h⟩

/-! ## A command whose first case passes -/

/-- Three cases, of which the last one needs the second, and a teardown without a database. -/
def shopText : String :=
  "suite: \x7bname: shop, teardown: [\x7btype: sql, sql: x\x7d]\x7d\n" ++
  "scenarios: [\x7bname: orders, testcases: [\x7bname: a, request: \x7b\x7d\x7d," ++
  " \x7bname: b, request: \x7b\x7d\x7d, \x7bname: c, request: \x7b\x7d, depends_on: b\x7d]\x7d]"

/-- A transport that replies from a script. -/
def shopSurroundings : Surroundings Script :=
  { directory := []
    settingsPath := none
    environment := []
    send := fun _ _ script => script.next }

/-- The first case passes, and the reply to the second is a list, which is no object. -/
def shopWorld : World (Site Script) :=
  ⟨0, 0, ⟨.directory [("shop.yaml", .file (Utf8.encode shopText))],
    [⟨5, .ok ⟨201, [], []⟩⟩, ⟨5, .ok ⟨200, [], Utf8.encode "[]"⟩⟩]⟩⟩

/-- The results are exported. -/
def shopOptions : RunOptions := { path := "shop.yaml", exportPath := some "results.json" }

set_option maxRecDepth 20000 in
theorem sight_shop :
    sight shopOptions shopSurroundings shopWorld "results.json" = some (3, 2, 1, true) := by
  decide +kernel

/-- A case that fails and one that is skipped make the command fail; the failure of the teardown
does not count. -/
theorem shop_fails :
    ∃ prepared, shopOptions.prepare shopSurroundings shopWorld.state.files = .ok prepared ∧
      prepared.suite.SetupSucceeds prepared.setting shopWorld ∧
      ∃ report after, prepared.suite.run prepared.setting shopWorld = (.ok report, after) ∧
        prepared.suite.Accounted report.results ∧ report.teardownErrors.length = 1 ∧
        ExportSucceeds shopOptions shopSurroundings after report.results ∧
        ((Command.run shopOptions).execute shopSurroundings false shopWorld).outcome =
          .error (.runFailed 2 3) := by
  obtain ⟨haccounted, hcommand⟩ :=
    results_counts_and_outcome_agree (σ := Site Script) (τ := Script)
  obtain ⟨prepared, report, after, hprepare, hrun, hcases, hfailed, hteardown, hwritten⟩ :=
    completed_of_sight sight_shop
  have hcompleted := congrArg Prod.fst hrun
  have hsetup := Suite.setupSucceeds_iff.2 (Suite.setup_of_run hcompleted)
  obtain ⟨report', after', hrun', houtcome⟩ := hcommand _ _ false _ _ hprepare hsetup
  obtain ⟨rfl, rfl⟩ : report = report' ∧ after = after' := by simpa [hrun] using hrun'
  have hexport : ExportSucceeds shopOptions shopSurroundings after report.results := by
    intro path hpath
    cases hpath
    rcases hwrite : after.state.files.write shopSurroundings.directory "results.json"
      (Utf8.encode (exportText report.results)) with e | files
    · rw [hwrite] at hwritten
      cases hwritten
    · exact ⟨files, rfl⟩
  have hsome : ∃ result ∈ report.results, result.outcome ≠ .passed := by
    obtain ⟨result, hmem, hresult⟩ := List.countP_pos_iff.1 (hfailed ▸ Nat.zero_lt_two)
    exact ⟨result, hmem, of_decide_eq_true hresult⟩
  refine ⟨prepared, hprepare, hsetup, report, after, hrun, haccounted _ _ _ _ hcompleted, hteardown,
    hexport, ?_⟩
  rw [(houtcome hexport).2 hsome, hfailed, hcases]

end Command

end ScenarioRunner

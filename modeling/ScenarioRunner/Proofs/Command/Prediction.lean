import Mathlib.Data.List.Infix
import ScenarioRunner.Command.Execute
import ScenarioRunner.Proofs.Run.Phases

/-!
# What a check says about a run

A run loads its suite as a check does. Then it gives the suite the base that is asked for and checks
it once more, but no check looks at the base (`validate_withBaseUrl`), and the suite has been checked
when it was loaded (`validate_of_load`). So with settings that can be loaded and a transport that can
be built, the suite alone decides whether a run begins (`prepare_eq`), and it decides as the check does.
-/

set_option autoImplicit false

namespace ScenarioRunner

variable {τ : Type}

namespace Suite

variable {suite checkedSuite : Suite}

/-! ## The two checks of a suite -/

theorem validate_withBaseUrl (suite : Suite) (baseUrl : Option String) :
    (suite.withBaseUrl baseUrl).validate = suite.validate := by
  cases baseUrl with
  | none => rfl
  | some baseUrl => rfl

theorem checked_eq_ok_iff :
    suite.checked = .ok checkedSuite ↔ suite.validate = .ok () ∧ suite = checkedSuite := by
  unfold checked
  cases suite.validate with
  | error e => simp
  | ok valid => simp

/-- A suite that has been loaded has been checked. -/
theorem validate_of_load {files : FileTree} {directory : List String} {path : String}
    (h : load files directory path = .ok suite) : suite.validate = .ok () := by
  unfold load at h
  cases hread : files.readText directory path with
  | error e =>
      rw [hread] at h
      cases h
  | ok text =>
      rw [hread] at h
      cases hparse : parse text with
      | error e =>
          simp only [hparse] at h
          cases h
      | ok parsed =>
          simp only [hparse] at h
          obtain rfl : parsed = suite := Except.ok.inj h
          unfold parse at hparse
          split at hparse
          · obtain ⟨hvalid, rfl⟩ := checked_eq_ok_iff.1 hparse
            exact hvalid
          · cases hparse

/-- A suite that has been loaded passes its check again, whatever base it is given. -/
theorem checked_withBaseUrl_of_load {files : FileTree} {directory : List String} {path : String}
    (h : load files directory path = .ok suite) (baseUrl : Option String) :
    (suite.withBaseUrl baseUrl).checked = .ok (suite.withBaseUrl baseUrl) := by
  rw [checked_eq_ok_iff, validate_withBaseUrl]
  exact ⟨validate_of_load h, rfl⟩

end Suite

/-! ## Preparing a run -/

namespace RunOptions

variable {options : RunOptions} {around : Surroundings τ} {files : FileTree} {settings : Settings}

/-- With settings and a transport, a run is prepared when its suite is loaded, and fails as the loading
does otherwise. -/
theorem prepare_eq
    (hsettings : Settings.load files around.directory options.settingsPath around.settingsPath =
      .ok settings)
    (hclient : settings.checkUserAgent = .ok ()) :
    options.prepare around files =
      (Suite.load files around.directory options.path).map fun suite =>
        ⟨suite.withBaseUrl options.baseUrl, options.setting settings around⟩ := by
  unfold prepare
  rw [hsettings]
  cases hload : Suite.load files around.directory options.path with
  | error e => rfl
  | ok suite =>
      have hagain := Suite.checked_withBaseUrl_of_load hload options.baseUrl
      simp only [bind, Except.bind, hclient, hagain]
      rfl

end RunOptions

/-! ## The beginning of a run -/

namespace PreparedRun

variable (prepared : PreparedRun τ) (options : RunOptions) (around : Surroundings τ)
  (colours : Bool) (world : World (Site τ))

/-- A run announces its suite before all else. -/
theorem title_prefix_start :
    titleLines colours "Running Suite:" prepared.suite.name <+:
      (prepared.start options around colours world).lines := by
  unfold start
  rcases prepared.suite.run prepared.setting world with ⟨failure | report, after⟩
  · exact List.prefix_append _ _
  · have hreport : titleLines colours "Running Suite:" prepared.suite.name <+:
        options.reportLines colours prepared.suite report := by
      unfold RunOptions.reportLines Report.lines
      simp only [List.append_assoc]
      exact List.prefix_append _ _
    dsimp only
    unfold conclude
    -- what is said about an export stands behind the report
    split
    · exact hreport
    · dsimp only
      split
      · exact hreport
      · exact hreport.trans (List.prefix_append _ _)

/-- What a run does, its export apart, is what its suite does. -/
theorem events_conclude (report : Report) :
    (prepared.conclude options around colours report world).events = report.events := by
  unfold conclude
  split
  · rfl
  · dsimp only
    split
    · rfl
    · rfl

/-- The setup comes before all else that a run does. -/
theorem setup_prefix_start :
    (prepared.suite.setupPhase prepared.setting world).2.events <+:
      (prepared.start options around colours world).events := by
  unfold start
  cases hsetup : (prepared.suite.setupPhase prepared.setting world).1 with
  | some e =>
      -- a run whose setup fails has done nothing else
      rw [Suite.run_of_failure (Prod.ext hsetup rfl)]
  | none =>
      rcases hrun : prepared.suite.run prepared.setting world with ⟨ended, after⟩
      have hcompleted := Suite.run_of_setup hsetup
      rw [hrun] at hcompleted
      obtain rfl := hcompleted
      dsimp only
      rw [events_conclude, List.append_assoc]
      exact List.prefix_append _ _

/-- A run whose setup fails ends with the error of the setup. -/
theorem outcome_start_of_failure {e : Error}
    (h : (prepared.suite.setupPhase prepared.setting world).1 = some e) :
    (prepared.start options around colours world).outcome = .error e := by
  unfold start
  rw [Suite.run_of_failure (Prod.ext h rfl)]

end PreparedRun

namespace Command

/-- A command has got as far as the setup of a suite: the suite is announced, and what has been done
begins with its setup, whose failure is that of the command. -/
structure ReachesSetup (conclusion : Conclusion τ) (suite : Suite) (setting : Setting (Site τ))
    (colours : Bool) (world : World (Site τ)) : Prop where
  announced : titleLines colours "Running Suite:" suite.name <+: conclusion.lines
  begun : (suite.setupPhase setting world).2.events <+: conclusion.events
  failure : ∀ e, (suite.setupPhase setting world).1 = some e → conclusion.outcome = .error e

variable {options : RunOptions} {around : Surroundings τ} {settings : Settings}

theorem reachesSetup_start (prepared : PreparedRun τ) (options : RunOptions)
    (around : Surroundings τ) (colours : Bool) (world : World (Site τ)) :
    ReachesSetup (prepared.start options around colours world) prepared.suite prepared.setting
      colours world where
  announced := prepared.title_prefix_start options around colours world
  begun := prepared.setup_prefix_start options around colours world
  failure _ h := prepared.outcome_start_of_failure options around colours world h

/-- A command that prints nothing has not got as far as a setup. -/
theorem not_reachesSetup_of_lines {conclusion : Conclusion τ} {suite : Suite}
    {setting : Setting (Site τ)} {colours : Bool} {world : World (Site τ)}
    (h : conclusion.lines = []) : ¬ReachesSetup conclusion suite setting colours world := by
  intro hreaches
  have hannounced := hreaches.announced
  rw [h, List.prefix_nil] at hannounced
  cases hannounced

/-- **A check predicts a run.** Let the settings of a run be there, and its transport. Then the check of
its suite succeeds exactly if the run gets as far as the setup, and this is the setup of the suite
that was checked, with the base that is asked for. If the check fails, the run fails with the same
error, and has neither run an action nor sent a request, nor printed or changed anything. -/
theorem check_predicts_run (options : RunOptions) (around : Surroundings τ) (colours : Bool)
    (world : World (Site τ))
    (hsettings : Settings.load world.state.files around.directory options.settingsPath
      around.settingsPath = .ok settings)
    (hclient : settings.checkUserAgent = .ok ()) :
    let checked := (Command.validate options.path).execute around colours world
    let conclusion := (Command.run options).execute around colours world
    let setting := options.setting settings around
    (checked.outcome = .ok () ↔ ∃ suite, ReachesSetup conclusion suite setting colours world) ∧
    (∀ suite, Suite.load world.state.files around.directory options.path = .ok suite →
      ReachesSetup conclusion (suite.withBaseUrl options.baseUrl) setting colours world) ∧
    ∀ e, checked.outcome = .error e → conclusion.outcome = .error e ∧ conclusion.events = [] ∧
      conclusion.lines = [] ∧ conclusion.world = world := by
  have hprepare := RunOptions.prepare_eq hsettings hclient
  dsimp only
  unfold execute
  dsimp only
  rw [hprepare]
  -- both commands now do nothing but load the suite, and part only if there is one
  cases hload : Suite.load world.state.files around.directory options.path with
  | error e =>
      refine ⟨?_, ?_, ?_⟩
      · constructor
        · intro hok
          cases hok
        · rintro ⟨suite, hreaches⟩
          exact absurd hreaches (not_reachesSetup_of_lines rfl)
      · intro suite hsuite
        cases hsuite
      · intro other hother
        cases hother
        exact ⟨rfl, rfl, rfl, rfl⟩
  | ok suite =>
      have hreaches := reachesSetup_start
        ⟨suite.withBaseUrl options.baseUrl, options.setting settings around⟩ options around colours
        world
      refine ⟨?_, ?_, ?_⟩
      · constructor
        · intro _
          exact ⟨_, hreaches⟩
        · intro _
          rfl
      · intro other hother
        cases hother
        exact hreaches
      · intro e he
        cases he

/-! ## Two files -/

/-- A suite with one action in its setup, and one without a name. -/
def shelf : FileTree :=
  .directory
    [("nameless.yaml", .file (Utf8.encode "suite: \x7bname: ''\x7d")),
      ("shop.yaml",
        .file (Utf8.encode "suite: \x7bname: shop, setup: [\x7btype: sql, sql: x\x7d]\x7d"))]

/-- There is no network behind it, and no file of settings. -/
def offline : Surroundings Unit :=
  { directory := []
    settingsPath := none
    environment := []
    send := fun _ _ _ => (⟨0, .error (.transport "offline")⟩, ()) }

set_option maxRecDepth 20000 in
theorem outcome_check_shop :
    ((Command.validate "shop.yaml").execute offline false ⟨0, 0, shelf, ()⟩).outcome = .ok () := by
  decide +kernel

set_option maxRecDepth 20000 in
theorem outcome_check_nameless :
    ((Command.validate "nameless.yaml").execute offline false ⟨0, 0, shelf, ()⟩).outcome =
      .error (.config "suite name is required") := by
  decide +kernel

/-- A run of the one suite gets as far as its setup; a run of the other one fails as its check does. -/
theorem shop_begun_nameless_refused :
    let world : World (Site Unit) := ⟨0, 0, shelf, ()⟩
    let shop : RunOptions := { path := "shop.yaml", baseUrl := some "http://shop" }
    let nameless : RunOptions := { path := "nameless.yaml", exportPath := some "results.json" }
    (∃ suite, ReachesSetup ((Command.run shop).execute offline false world) suite
      (shop.setting {} offline) false world) ∧
    ((Command.run nameless).execute offline false world).outcome =
      .error (.config "suite name is required") ∧
    ((Command.run nameless).execute offline false world).events = [] := by
  intro world shop nameless
  have hclient : ({} : Settings).checkUserAgent = .ok () := by decide +kernel
  obtain ⟨hshop, -, -⟩ := check_predicts_run shop offline false world rfl hclient
  obtain ⟨-, -, hnameless⟩ := check_predicts_run nameless offline false world rfl hclient
  obtain ⟨houtcome, hevents, -, -⟩ := hnameless _ outcome_check_nameless
  exact ⟨hshop.1 outcome_check_shop, houtcome, hevents⟩

end Command

end ScenarioRunner

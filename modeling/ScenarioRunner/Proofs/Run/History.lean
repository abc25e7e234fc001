import ScenarioRunner.Proofs.Run.Turn
import ScenarioRunner.Run.Suite
import ScenarioRunner.Suite.Validation

/-!
# The history of a run

A run goes through its scenarios, and through the cases of each. By induction over the scenarios this
is to go through one list of cases, each under the name of its scenario (`casePhase_eq`). The history
of a run is the list of the turns of these cases. A run that completes reports the results of these
turns, in their order, and their events stand between those of the setup and those of the teardown
(`report_of_run`). The state in which a case finds a run is the one behind the cases before it
(`getElem?_turns`).
-/

set_option autoImplicit false

namespace ScenarioRunner

variable {σ : Type}

/-- What some cases led to, and behind it what others led to. -/
def CasePhase.followedBy (first second : CasePhase σ) : CasePhase σ :=
  ⟨first.results ++ second.results, second.store, first.events ++ second.events, second.world⟩

/-- What a case led to, and behind it what others led to. -/
def Executed.before (executed : Executed σ) (phase : CasePhase σ) : CasePhase σ :=
  ⟨executed.result :: phase.results, phase.store, executed.events ++ phase.events, phase.world⟩

theorem CasePhase.followedBy_assoc (first second third : CasePhase σ) :
    (first.followedBy second).followedBy third = first.followedBy (second.followedBy third) := by
  simp only [followedBy, List.append_assoc]

namespace Case

variable (course : Course σ)

/-- Runs cases, each under the name of its scenario, behind others with some results. -/
def executeAll (past : List CaseResult) (store : Fields Value) :
    List (String × Case) → World σ → CasePhase σ
  | [], world => ⟨[], store, [], world⟩
  | (scenario, c) :: rest, world =>
    let executed := c.execute course scenario past store world
    let phase := executeAll (past ++ [executed.result]) executed.store rest executed.world
    ⟨executed.result :: phase.results, phase.store, executed.events ++ phase.events, phase.world⟩

/-- The turns of cases, behind others with some results. -/
def turns (past : List CaseResult) (store : Fields Value) :
    List (String × Case) → World σ → List (Turn σ)
  | [], _ => []
  | (scenario, c) :: rest, world =>
    let turn : Turn σ := ⟨course, scenario, c, past, store, world⟩
    turn :: turns (past ++ [turn.result]) turn.executed.store rest turn.executed.world

variable {course}

/-- The first of some cases runs, and then the others do behind it. -/
theorem executeAll_cons (past : List CaseResult) (store : Fields Value) (scenario : String)
    (c : Case) (rest : List (String × Case)) (world : World σ) :
    executeAll course past store ((scenario, c) :: rest) world =
      let executed := c.execute course scenario past store world
      executed.before
        (executeAll course (past ++ [executed.result]) executed.store rest executed.world) :=
  rfl

/-- The cases of a run leave the results of their turns behind. -/
theorem results_executeAll (past : List CaseResult) (store : Fields Value)
    (cases : List (String × Case)) (world : World σ) :
    (executeAll course past store cases world).results =
      (turns course past store cases world).map Turn.result := by
  induction cases generalizing past store world with
  | nil => rfl
  | cons label rest ih =>
      rw [executeAll, turns, List.map_cons]
      exact congrArg (_ :: ·) (ih _ _ _)

/-- The cases of a run do to the surroundings what is done in their turns. -/
theorem events_executeAll (past : List CaseResult) (store : Fields Value)
    (cases : List (String × Case)) (world : World σ) :
    (executeAll course past store cases world).events =
      (turns course past store cases world).flatMap Turn.events := by
  induction cases generalizing past store world with
  | nil => rfl
  | cons label rest ih =>
      rw [executeAll, turns, List.flatMap_cons]
      exact congrArg (_ ++ ·) (ih _ _ _)

/-- Some cases and then others run like all of them. -/
theorem executeAll_append (past : List CaseResult) (store : Fields Value)
    (first second : List (String × Case)) (world : World σ) :
    executeAll course past store (first ++ second) world =
      let phase := executeAll course past store first world
      phase.followedBy
        (executeAll course (past ++ phase.results) phase.store second phase.world) := by
  induction first generalizing past store world with
  | nil => simp [executeAll, CasePhase.followedBy]
  | cons label rest ih =>
      simp only [List.cons_append, executeAll, ih, CasePhase.followedBy, List.append_assoc,
        List.nil_append]

/-- The turn of a case starts where the cases before it have ended. -/
theorem getElem?_turns (past : List CaseResult) (store : Fields Value)
    (cases : List (String × Case)) (world : World σ) (i : Nat) :
    (turns course past store cases world)[i]? = cases[i]?.map fun label =>
      let phase := executeAll course past store (cases.take i) world
      ⟨course, label.1, label.2, past ++ phase.results, phase.store, phase.world⟩ := by
  -- the results so far grow at their end, while the cases are taken from the front
  induction cases generalizing past store world i with
  | nil => rfl
  | cons label rest ih =>
      cases i with
      | zero => simp [turns, executeAll]
      | succ i =>
          simp only [turns, List.getElem?_cons_succ, List.take_succ_cons, executeAll, ih,
            List.append_assoc, List.singleton_append]
          rfl

/-- The first turns are those of the first cases. -/
theorem take_turns (past : List CaseResult) (store : Fields Value)
    (cases : List (String × Case)) (world : World σ) (i : Nat) :
    (turns course past store cases world).take i =
      turns course past store (cases.take i) world := by
  induction cases generalizing past store world i with
  | nil => simp [turns]
  | cons label rest ih =>
      cases i with
      | zero => simp [turns]
      | succ i => rw [List.take_succ_cons, turns, turns, List.take_succ_cons, ih]

/-- Each case has its turn. -/
theorem labels_turns (past : List CaseResult) (store : Fields Value)
    (cases : List (String × Case)) (world : World σ) :
    (turns course past store cases world).map (fun turn => (turn.scenario, turn.case)) = cases := by
  induction cases generalizing past store world with
  | nil => rfl
  | cons label rest ih =>
      rw [turns, List.map_cons, ih]

/-- Cases that are recorded behind others run like all that are left. -/
theorem foldl_record (scenario : String) (cases : List Case) (phase : CasePhase σ) :
    cases.foldl (fun phase c =>
        phase.record (c.execute course scenario phase.results phase.store phase.world)) phase =
      phase.followedBy (executeAll course phase.results phase.store
        (cases.map fun c => (scenario, c)) phase.world) := by
  induction cases generalizing phase with
  | nil => simp [executeAll, CasePhase.followedBy]
  | cons c rest ih =>
      rw [List.foldl_cons, ih, List.map_cons, executeAll]
      simp only [CasePhase.record, CasePhase.followedBy, List.append_assoc, List.singleton_append]

end Case

/-! ## The scenarios of a run -/

/-- The cases of a scenario under its name. -/
def Scenario.labelledCases (scenario : Scenario) : List (String × Case) :=
  scenario.cases.map fun c => (scenario.name, c)

/-- Scenarios that run behind others run like all of their cases. The induction is on the scenarios:
what the cases of the first one lead to stands behind the others, and before the rest. -/
theorem Scenario.foldl_execute (course : Course σ) (scenarios : List Scenario)
    (phase : CasePhase σ) :
    scenarios.foldl (execute course) phase =
      phase.followedBy (Case.executeAll course phase.results phase.store
        (scenarios.flatMap labelledCases) phase.world) := by
  induction scenarios generalizing phase with
  | nil => simp [Case.executeAll, CasePhase.followedBy]
  | cons scenario rest ih =>
      have hfirst : execute course phase scenario = phase.followedBy (Case.executeAll course
          phase.results phase.store scenario.labelledCases phase.world) :=
        Case.foldl_record _ _ _
      rw [List.foldl_cons, ih, hfirst, List.flatMap_cons, Case.executeAll_append,
        CasePhase.followedBy_assoc]
      rfl

namespace Suite

/-- All cases in the order of a run, each under the name of its scenario. -/
def labelledCases (suite : Suite) : List (String × Case) :=
  suite.scenarios.flatMap Scenario.labelledCases

variable (suite : Suite) (setting : Setting σ) (world : World σ)

/-- What the cases of a run have in common. -/
def course : Course σ := ⟨setting, suite.baseUrl, setting.limit.map (world.clock + ·)⟩

/-- What the setup of a run leads to: the error that ends it, if there is one, and the rest. -/
def setupPhase : Option Error × Phase σ :=
  Action.performUntilFailure setting suite.baseUrl suite.bindings suite.setup world

/-- What the cases of a run lead to, once its setup has succeeded. -/
def casePhase : CasePhase σ :=
  suite.scenarios.foldl (Scenario.execute (suite.course setting world))
    ⟨[], suite.bindings, [], (suite.setupPhase setting world).2.world⟩

/-- What the first cases of a run lead to, once its setup has succeeded. -/
def casePhaseAt (i : Nat) : CasePhase σ :=
  Case.executeAll (suite.course setting world) [] suite.bindings (suite.labelledCases.take i)
    (suite.setupPhase setting world).2.world

/-- What the teardown of a run leads to, once its cases are over. -/
def teardownPhase : Phase σ :=
  Action.performAll setting suite.baseUrl (suite.casePhase setting world).store suite.teardown
    (suite.casePhase setting world).world

/-- The turns of a run. There are none if its setup fails. -/
def turns : List (Turn σ) :=
  match (suite.setupPhase setting world).1 with
  | some _ => []
  | none =>
    Case.turns (suite.course setting world) [] suite.bindings suite.labelledCases
      (suite.setupPhase setting world).2.world

variable {suite setting world} {report : Report}

/-- **A run goes through the cases of its scenarios as through one list.** -/
theorem casePhase_eq (suite : Suite) (setting : Setting σ) (world : World σ) :
    suite.casePhase setting world =
      Case.executeAll (suite.course setting world) [] suite.bindings suite.labelledCases
        (suite.setupPhase setting world).2.world := by
  unfold casePhase
  rw [Scenario.foldl_execute]
  rfl

/-- A run completes when its setup does not fail. -/
theorem run_of_setup (hsetup : (suite.setupPhase setting world).1 = none) :
    (suite.run setting world).1 = .ok
      { setup := (suite.setupPhase setting world).2.attempted
        results := (suite.casePhase setting world).results
        teardown := (suite.teardownPhase setting world).attempted
        store := (suite.casePhase setting world).store
        events := (suite.setupPhase setting world).2.events ++
          (suite.casePhase setting world).events ++
          (suite.teardownPhase setting world).events } := by
  rcases hphase : suite.setupPhase setting world with ⟨failure, setup⟩
  obtain rfl : failure = none := by rw [hphase] at hsetup; exact hsetup
  unfold setupPhase at hphase
  simp only [run, hphase, casePhase, teardownPhase, course, setupPhase]

/-- The setup of a completed run has not failed. -/
theorem setup_of_run (hrun : (suite.run setting world).1 = .ok report) :
    (suite.setupPhase setting world).1 = none := by
  rcases hphase : suite.setupPhase setting world with ⟨failure, setup⟩
  cases failure with
  | none => rfl
  | some e =>
      unfold setupPhase at hphase
      simp only [run, hphase] at hrun
      cases hrun

/-- Once the setup has succeeded, each case has its turn. -/
theorem turns_of_setup (hsetup : (suite.setupPhase setting world).1 = none) :
    suite.turns setting world =
      Case.turns (suite.course setting world) [] suite.bindings suite.labelledCases
        (suite.setupPhase setting world).2.world := by
  unfold turns
  rw [hsetup]

/-- Once the setup has succeeded, the turns are those of the cases, in their order. -/
theorem labels_of_turns (hsetup : (suite.setupPhase setting world).1 = none) :
    (suite.turns setting world).map (fun turn => (turn.scenario, turn.case)) =
      suite.labelledCases := by
  rw [turns_of_setup hsetup]
  exact Case.labels_turns _ _ _ _

/-- A run in which a case has its turn has not failed in its setup. -/
theorem setup_of_turn {i : Nat} {turn : Turn σ}
    (hturn : (suite.turns setting world)[i]? = some turn) :
    (suite.setupPhase setting world).1 = none := by
  unfold turns at hturn
  split at hturn
  · simp at hturn
  · assumption

/-- What a completed run reports. -/
theorem report_of_run (hrun : (suite.run setting world).1 = .ok report) :
    report.results = (suite.turns setting world).map Turn.result ∧
      report.store = (suite.casePhase setting world).store ∧
      report.events = (suite.setupPhase setting world).2.events ++
        (suite.turns setting world).flatMap Turn.events ++
        (suite.teardownPhase setting world).events := by
  have hsetup := setup_of_run hrun
  rw [run_of_setup hsetup] at hrun
  cases hrun
  rw [turns_of_setup hsetup, casePhase_eq]
  exact ⟨Case.results_executeAll _ _ _ _, rfl,
    congrArg (_ ++ · ++ _) (Case.events_executeAll _ _ _ _)⟩

/-- A turn belongs to the case in its place, and finds the state behind the cases before it. -/
theorem turn_eq {i : Nat} {turn : Turn σ} (hturn : (suite.turns setting world)[i]? = some turn) :
    suite.labelledCases[i]? = some (turn.scenario, turn.case) ∧
      turn.course = suite.course setting world ∧
      turn.past = ((suite.turns setting world).take i).map Turn.result ∧
      turn.store = (suite.casePhaseAt setting world i).store ∧
      turn.world = (suite.casePhaseAt setting world i).world := by
  have hall := turns_of_setup (setup_of_turn hturn)
  rw [hall, Case.getElem?_turns] at hturn
  obtain ⟨⟨scenario, c⟩, hlabel, rfl⟩ := Option.map_eq_some_iff.1 hturn
  refine ⟨hlabel, rfl, ?_, rfl, rfl⟩
  -- the turns before this one are all the turns of the cases before it
  rw [hall, Case.take_turns, ← Case.results_executeAll]
  exact List.nil_append _

/-- The cases without the names of their scenarios. -/
theorem cases_eq_map_labelledCases (suite : Suite) :
    suite.cases = suite.labelledCases.map Prod.snd := by
  unfold cases labelledCases
  rw [List.map_flatMap]
  congr
  funext scenario
  rw [Scenario.labelledCases, List.map_map]
  exact (List.map_id _).symm

/-- A turn belongs to the case in its place. -/
theorem case_of_turn {i : Nat} {turn : Turn σ}
    (hturn : (suite.turns setting world)[i]? = some turn) : suite.cases[i]? = some turn.case := by
  rw [cases_eq_map_labelledCases, List.getElem?_map, (turn_eq hturn).1]
  rfl

/-- Each case of a completed run has a turn in its place. -/
theorem turn_of_case (hrun : (suite.run setting world).1 = .ok report) {i : Nat} {c : Case}
    (hc : suite.cases[i]? = some c) :
    ∃ turn, (suite.turns setting world)[i]? = some turn ∧ turn.case = c := by
  rw [cases_eq_map_labelledCases, ← labels_of_turns (setup_of_run hrun), List.map_map,
    List.getElem?_map] at hc
  exact Option.map_eq_some_iff.1 hc

/-- The result in some place is the one of the turn in that place. -/
theorem result_of_turn (hrun : (suite.run setting world).1 = .ok report) {i : Nat} {turn : Turn σ}
    (hturn : (suite.turns setting world)[i]? = some turn) :
    report.results[i]? = some turn.result := by
  rw [(report_of_run hrun).1, List.getElem?_map, hturn]
  rfl

end Suite

/-! ## A run with a retry, a response that cannot be read, and a skipped case -/

namespace Orders

/-- A transport that replies from a script; cases have to end within a second. -/
def setting : Setting Script := ⟨fun _ script => script.next, none, fun _ => none, some 1000⟩

/-- Creates an order, reads it, and depends on the latter once more. -/
def suite : Suite :=
  { name := "shop"
    setup := [.apiCall { path := "/reset" }]
    scenarios :=
      [{ name := "orders"
         cases :=
           [{ name := "create", save := [("id", "id")], retry := some ⟨2, 10⟩ },
            { name := "read", dependsOn := some "create"
              request := { path := "/orders/\x7b\x7bid\x7d\x7d" } },
            { name := "list", dependsOn := some "read" }] }] }

/-- The suite is well-formed. -/
theorem validate_eq_ok : suite.validate = .ok () := rfl

/-- The order is created by the second attempt, and then read as a list, which is no object. -/
def world : World Script :=
  ⟨0, 0, [⟨1, .ok ⟨204, [], []⟩⟩, ⟨5, .error (.transport "refused")⟩,
    ⟨5, .ok ⟨201, [], Utf8.encode "\x7b\"id\":7\x7d"⟩⟩, ⟨5, .ok ⟨200, [], Utf8.encode "[]"⟩⟩]⟩

set_option maxRecDepth 20000 in
/-- The setup of this run succeeds. -/
theorem setup_eq_none : (suite.setupPhase setting world).1 = none := by decide +kernel

end Orders

end ScenarioRunner

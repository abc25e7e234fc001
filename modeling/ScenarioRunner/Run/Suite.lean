import ScenarioRunner.Run.Case

/-!
# Running a suite

The setup comes first, and its first failure ends the run. Then all cases run in order, each once,
whatever becomes of the others. The teardown comes last; all of its actions run, and failures are
collected.
-/

set_option autoImplicit false

namespace ScenarioRunner

variable {σ : Type}

/-- An action that has been run, and its outcome. -/
structure Attempted where
  action : Action
  outcome : Except Error Unit

/-- The message of the error of an action that has failed. -/
def Attempted.error? (attempted : Attempted) : Option String :=
  match attempted.outcome with
  | .ok _ => none
  | .error e => some e.message

/-- What one action led to. -/
structure Acted (σ : Type) where
  outcome : Except Error Unit
  events : List Event
  world : World σ

/-- What some actions led to. -/
structure Phase (σ : Type) where
  attempted : List Attempted
  events : List Event
  world : World σ

/-- What some cases led to. -/
structure CasePhase (σ : Type) where
  results : List CaseResult
  /-- The variables behind the cases. -/
  store : Fields Value
  events : List Event
  world : World σ

/-- What a completed run leaves behind. -/
structure Report where
  setup : List Attempted
  results : List CaseResult
  teardown : List Attempted
  /-- The variables at the end. -/
  store : Fields Value
  events : List Event

/-- What a run leaves behind whose setup failed. -/
structure SetupFailure where
  error : Error
  setup : List Attempted
  events : List Event

/-- The messages of the actions of the teardown that failed. -/
def Report.teardownErrors (report : Report) : List String :=
  report.teardown.filterMap Attempted.error?

/-- The least status that makes a request of the setup or the teardown fail. -/
def failingStatus : Nat := 400

/-- The outcome of a request of the setup or the teardown. -/
def callOutcome (kind : String) : Except Error Response → Except Error Unit
  | .error e => .error (.cleanup kind e.message)
  | .ok response =>
    if failingStatus ≤ response.status then
      .error (.cleanup kind s!"status {response.status}: {Utf8.decodeLossy response.body}")
    else .ok ()

namespace Action

/-- Runs an action with the variables of a store. No deadline applies. -/
def perform (action : Action) (setting : Setting σ) (baseUrl : String) (store : Fields Value)
    (world : World σ) : Acted σ :=
  match action with
  | .apiCall template =>
    let (request, supply) := template.build baseUrl ⟨store, setting.environment⟩ world.supply
    let event := Event.request world.clock request
    let (reply, world) := setting.sendWithin none request { world with supply }
    ⟨callOutcome action.kind reply, [event], world⟩
  | _ =>
    match setting.cleanup with
    | none => ⟨.error (.cleanup action.kind "no cleanup handler configured"), [], world⟩
    | some handle =>
      let cleaned := handle action world.state
      ⟨cleaned.outcome, [.cleanup action cleaned.statements], { world with state := cleaned.state }⟩

/-- Runs actions up to the first one that fails; gives its error. -/
def performUntilFailure (setting : Setting σ) (baseUrl : String) (store : Fields Value) :
    List Action → World σ → Option Error × Phase σ
  | [], world => (none, ⟨[], [], world⟩)
  | action :: rest, world =>
    let acted := action.perform setting baseUrl store world
    match acted.outcome with
    | .error e => (some e, ⟨[⟨action, acted.outcome⟩], acted.events, acted.world⟩)
    | .ok _ =>
      let (failure, phase) := performUntilFailure setting baseUrl store rest acted.world
      (failure, ⟨⟨action, acted.outcome⟩ :: phase.attempted, acted.events ++ phase.events, phase.world⟩)

/-- Runs all of some actions. -/
def performAll (setting : Setting σ) (baseUrl : String) (store : Fields Value) :
    List Action → World σ → Phase σ
  | [], world => ⟨[], [], world⟩
  | action :: rest, world =>
    let acted := action.perform setting baseUrl store world
    let phase := performAll setting baseUrl store rest acted.world
    ⟨⟨action, acted.outcome⟩ :: phase.attempted, acted.events ++ phase.events, phase.world⟩

end Action

/-- Records what one more case led to. -/
def CasePhase.record (phase : CasePhase σ) (executed : Executed σ) : CasePhase σ :=
  ⟨phase.results ++ [executed.result], executed.store, phase.events ++ executed.events,
    executed.world⟩

/-- Runs the cases of a scenario, behind those of others. -/
def Scenario.execute (course : Course σ) (phase : CasePhase σ) (scenario : Scenario) :
    CasePhase σ :=
  scenario.cases.foldl (fun phase c =>
    phase.record (c.execute course scenario.name phase.results phase.store phase.world)) phase

namespace Suite

/-- Runs a suite. The deadline is set before the setup, but applies only to the cases. -/
def run (suite : Suite) (setting : Setting σ) (world : World σ) :
    Except SetupFailure Report × World σ :=
  let deadline := setting.limit.map (world.clock + ·)
  match Action.performUntilFailure setting suite.baseUrl suite.bindings suite.setup world with
  | (some e, setup) => (.error ⟨e, setup.attempted, setup.events⟩, setup.world)
  | (none, setup) =>
    let course : Course σ := ⟨setting, suite.baseUrl, deadline⟩
    let cases := suite.scenarios.foldl (Scenario.execute course) ⟨[], suite.bindings, [], setup.world⟩
    let teardown := Action.performAll setting suite.baseUrl cases.store suite.teardown cases.world
    (.ok
      { setup := setup.attempted
        results := cases.results
        teardown := teardown.attempted
        store := cases.store
        events := setup.events ++ cases.events ++ teardown.events },
      teardown.world)

end Suite

end ScenarioRunner

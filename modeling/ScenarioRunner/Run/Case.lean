import ScenarioRunner.Run.Result
import ScenarioRunner.Run.World
import ScenarioRunner.Suite.Basic

/-!
# Running a case

A case is skipped unless the one that it depends on has passed, and fails unless it starts before
the deadline. Its request is built anew for each attempt; only after a transport error is there
another one. The last response is decoded and checked, and after a pass its values are saved.
-/

set_option autoImplicit false

namespace ScenarioRunner

variable {σ : Type}

/-- What the attempts of a case led to. -/
structure Sent (σ : Type) where
  outcome : Except Error Response
  events : List Event
  world : World σ

/-- What a case led to. -/
structure Executed (σ : Type) where
  result : CaseResult
  /-- The variables behind the case. -/
  store : Fields Value
  events : List Event
  world : World σ

/-- What the cases of a run have in common. -/
structure Course (σ : Type) where
  setting : Setting σ
  /-- What stands before the path of every request. -/
  baseUrl : String
  /-- The time at which every case has to be over. -/
  deadline : Option Nat

namespace Case

/-- Attempts a case, and again as long as there are attempts left and the transport fails. -/
def attempt (c : Case) (course : Course σ) (store : Fields Value) : Nat → World σ → Sent σ
  | left, world =>
    let (request, supply) :=
      c.request.build course.baseUrl ⟨store, course.setting.environment⟩ world.supply
    let event := Event.request world.clock request
    match course.setting.sendWithin course.deadline request { world with supply } with
    | (.ok response, world) => ⟨.ok response, [event], world⟩
    | (.error e, world) =>
      if e.isRetryable then
        match left with
        | 0 => ⟨.error e, [event], world⟩
        | left + 1 =>
          match world.wait course.deadline c.retryPolicy.interval with
          | (.error cut, world) => ⟨.error cut, [event], world⟩
          | (.ok _, world) =>
            let sent := c.attempt course store left world
            { sent with events := event :: sent.events }
      else ⟨.error e, [event], world⟩

/-- Makes all attempts of a case. -/
def send (c : Case) (course : Course σ) (store : Fields Value) (world : World σ) : Sent σ :=
  c.attempt course store (c.retryPolicy.attempts - 1) world

/-- Puts the values that a case saves from a body into the store. A path that leads nowhere leaves
its variable as it is. -/
def capture (c : Case) (body : Value) (store : Fields Value) : Fields Value :=
  c.save.foldl (fun store entry =>
    match body.lookup? entry.2 with
    | some v => Fields.insert entry.1 v store
    | none => store) store

/-- Judges a response: the outcome, with what was received, and the place in the supply. -/
def judge (c : Case) (scope : Scope) (response : Response) (supply : Nat) :
    Except Error Unit × Snapshot × Nat :=
  match decodeBody response.body with
  | .error e =>
    (.error e, ⟨response.status, response.headers, .str (Utf8.decodeLossy response.body)⟩, supply)
  | .ok body =>
    let (outcome, supply) := c.expect.check response.status body scope supply
    (outcome, ⟨response.status, response.headers, body⟩, supply)

/-- Sends a case and judges the response. -/
def perform (c : Case) (course : Course σ) (scenario : String) (store : Fields Value)
    (world : World σ) : Executed σ :=
  let sent := c.send course store world
  let duration := sent.world.clock - world.clock
  match sent.outcome with
  | .error e => ⟨.fail scenario c.name duration e none, store, sent.events, sent.world⟩
  | .ok response =>
    match c.judge ⟨store, course.setting.environment⟩ response sent.world.supply with
    | (.error e, snapshot, supply) =>
      ⟨.fail scenario c.name duration e (some snapshot), store, sent.events,
        { sent.world with supply }⟩
    | (.ok _, snapshot, supply) =>
      ⟨.pass scenario c.name duration (some snapshot), c.capture snapshot.body store,
        sent.events, { sent.world with supply }⟩

/-- Why a case has to be skipped, given the results before it. -/
def gate (c : Case) (past : List CaseResult) : Except Error Unit :=
  match c.dependency with
  | none => .ok ()
  | some name =>
    if CaseResult.hasPassed past name then .ok ()
    else if (CaseResult.find? past name).isSome then .error (.dependency name "did not pass")
    else .error (.dependency name "has not run")

/-- Runs a case behind others with some results. -/
def execute (c : Case) (course : Course σ) (scenario : String) (past : List CaseResult)
    (store : Fields Value) (world : World σ) : Executed σ :=
  match c.gate past with
  | .error e => ⟨.skip scenario c.name e, store, [], world⟩
  | .ok _ =>
    if course.deadline.any (· ≤ world.clock) then
      ⟨.fail scenario c.name 0 (.timeout "run deadline passed before the case started") none,
        store, [], world⟩
    else c.perform course scenario store world

end Case

end ScenarioRunner

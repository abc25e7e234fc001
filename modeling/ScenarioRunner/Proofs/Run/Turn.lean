import ScenarioRunner.Proofs.Run.Exchange

/-!
# The turn of a case

A turn is a case in its place in a run: the results, the variables and the world that it finds.
`Turn.Ends` lists the six ways in which a turn can end, each with what it leaves behind, and
`Turn.ends` says that there are no others. What a run does to a case is read off this list.
-/

set_option autoImplicit false

namespace ScenarioRunner

variable {σ : Type}

/-- A body that can be read is an object. -/
theorem map_of_decodeBody {body : Bytes} {v : Value} (h : decodeBody body = .ok v) :
    ∃ fields, v = .map fields := by
  unfold decodeBody at h
  split at h
  · cases h
    exact ⟨[], rfl⟩
  · split at h
    · cases h
    · next fields _ =>
        cases h
        exact ⟨fields, rfl⟩
    · cases h

-- the fields of a result are those that its constructor sets
attribute [simp] CaseResult.pass CaseResult.fail CaseResult.skip

/-- The verdict that a result keeps three times is the same each time. -/
structure CaseResult.Agrees (result : CaseResult) : Prop where
  passed_iff : result.passed = true ↔ result.outcome = .passed
  error_iff : result.error? = none ↔ result.outcome = .passed
  /-- The message is that of the error. -/
  message_eq : ∀ e, result.outcome = .failed e ∨ result.outcome = .skipped e →
    result.error? = some e.message
  /-- A case that is skipped takes no time, and there is no response to it. -/
  of_skipped : result.outcome.isSkipped = true → result.duration = 0 ∧ result.response = none

namespace CaseResult

variable (scenario name : String) (duration : Nat) (e : Error) (response : Option Snapshot)

theorem agrees_pass : (pass scenario name duration response).Agrees where
  passed_iff := iff_of_true rfl rfl
  error_iff := iff_of_true rfl rfl
  message_eq _ h := by rcases h with h | h <;> cases h
  of_skipped h := by cases h

theorem agrees_fail : (fail scenario name duration e response).Agrees where
  passed_iff := by simp
  error_iff := by simp
  message_eq cause h := by
    rcases h with h | h
    · cases h
      rfl
    · cases h
  of_skipped h := by cases h

theorem agrees_skip : (skip scenario name e).Agrees where
  passed_iff := by simp
  error_iff := by simp
  message_eq cause h := by
    rcases h with h | h
    · cases h
    · cases h
      rfl
  of_skipped _ := ⟨rfl, rfl⟩

/-- A case that is skipped has not passed. -/
theorem Agrees.passed_of_isSkipped {result : CaseResult} (h : result.Agrees)
    (hskipped : result.outcome.isSkipped = true) : result.passed = false := by
  rw [← Bool.not_eq_true, h.passed_iff]
  intro hpassed
  rw [hpassed] at hskipped
  cases hskipped

end CaseResult

/-- A case in its place in a run. -/
structure Turn (σ : Type) where
  course : Course σ
  /-- The name of the scenario. -/
  scenario : String
  case : Case
  /-- The results of the cases before it. -/
  past : List CaseResult
  /-- The variables behind the cases before it. -/
  store : Fields Value
  /-- The world behind the cases before it. -/
  world : World σ

namespace Turn

variable (turn : Turn σ)

/-- What the turn leads to. -/
def executed : Executed σ :=
  turn.case.execute turn.course turn.scenario turn.past turn.store turn.world

/-- The result of the case. -/
def result : CaseResult := turn.executed.result

/-- What the case does to the surroundings. -/
def events : List Event := turn.executed.events

/-- What the slots of the case can refer to. -/
def scope : Scope := ⟨turn.store, turn.course.setting.environment⟩

/-- What the attempts of the case lead to, if it starts. -/
def sent : Sent σ := turn.case.send turn.course turn.store turn.world

/-- The deadline has not passed yet. -/
def Early : Prop := ∀ d, turn.course.deadline = some d → turn.world.clock < d

/-- The gate is open and the deadline has not passed. -/
def Starts : Prop := turn.case.gate turn.past = .ok () ∧ turn.Early

/-- The exchanges of the case; a case that does not start has none. -/
def exchanges : List Exchange :=
  match turn.case.gate turn.past with
  | .error _ => []
  | .ok _ =>
    if turn.course.deadline.any (· ≤ turn.world.clock) then []
    else turn.case.exchanges turn.course turn.store (turn.case.retryPolicy.attempts - 1) turn.world

/-- The result of the case if it is sent and fails. -/
@[simp]
def failure (e : Error) (response : Option Snapshot) : CaseResult :=
  .fail turn.scenario turn.case.name (turn.sent.world.clock - turn.world.clock) e response

/-- The result of the case if it is sent and passes. -/
@[simp]
def success (response : Option Snapshot) : CaseResult :=
  .pass turn.scenario turn.case.name (turn.sent.world.clock - turn.world.clock) response

/-- What a turn leads to in which the case is not sent. -/
def unsent (result : CaseResult) : Executed σ := ⟨result, turn.store, [], turn.world⟩

/-- What a turn leads to in which the case is sent. -/
def judged (result : CaseResult) (store : Fields Value) (supply : Nat) : Executed σ :=
  ⟨result, store, turn.sent.events, { turn.sent.world with supply }⟩

/-- The ways in which a turn can end. -/
inductive Ends : Executed σ → Prop where
  /-- The gate is closed. -/
  | skipped {e : Error} (closed : turn.case.gate turn.past = .error e) :
      Ends (turn.unsent (.skip turn.scenario turn.case.name e))
  /-- The gate is open, but the deadline has passed. -/
  | late {d : Nat} (opened : turn.case.gate turn.past = .ok ())
      (deadline : turn.course.deadline = some d) (passed : d ≤ turn.world.clock) :
      Ends (turn.unsent (.fail turn.scenario turn.case.name 0
        (.timeout "run deadline passed before the case started") none))
  /-- The attempts lead to no response. -/
  | unanswered {e : Error} (starts : turn.Starts) (outcome : turn.sent.outcome = .error e) :
      Ends (turn.judged (turn.failure e none) turn.store turn.sent.world.supply)
  /-- The body of the response cannot be read. -/
  | unreadable {response : Response} {e : Error} (starts : turn.Starts)
      (outcome : turn.sent.outcome = .ok response) (body : decodeBody response.body = .error e) :
      Ends (turn.judged (turn.failure e
        (some ⟨response.status, response.headers, .str (Utf8.decodeLossy response.body)⟩))
        turn.store turn.sent.world.supply)
  /-- The response does not meet the expectation. -/
  | rejected {response : Response} {fields : Fields Value} {e : Error} {supply : Nat}
      (starts : turn.Starts) (outcome : turn.sent.outcome = .ok response)
      (body : decodeBody response.body = .ok (.map fields))
      (check : turn.case.expect.check response.status (.map fields) turn.scope
        turn.sent.world.supply = (.error e, supply)) :
      Ends (turn.judged
        (turn.failure e (some ⟨response.status, response.headers, .map fields⟩)) turn.store supply)
  /-- The response meets the expectation. -/
  | passed {response : Response} {fields : Fields Value} {supply : Nat}
      (starts : turn.Starts) (outcome : turn.sent.outcome = .ok response)
      (body : decodeBody response.body = .ok (.map fields))
      (check : turn.case.expect.check response.status (.map fields) turn.scope
        turn.sent.world.supply = (.ok (), supply)) :
      Ends (turn.judged (turn.success (some ⟨response.status, response.headers, .map fields⟩))
        (turn.case.capture (.map fields) turn.store) supply)

variable {turn}

theorem early_iff : turn.Early ↔ turn.course.deadline.any (· ≤ turn.world.clock) = false := by
  unfold Early
  cases turn.course.deadline with
  | none => simp
  | some d => simp

/-- A case does not start behind a closed gate. -/
theorem not_starts_of_closed {e : Error} (closed : turn.case.gate turn.past = .error e) :
    ¬ turn.Starts := by
  intro starts
  rw [starts.1] at closed
  cases closed

/-- A case does not start once the deadline has passed. -/
theorem not_starts_of_late {d : Nat} (deadline : turn.course.deadline = some d)
    (passed : d ≤ turn.world.clock) : ¬ turn.Starts := by
  intro starts
  have hearly := starts.2 d deadline
  omega

/-- The ways in which a turn ends whose case starts. -/
theorem ends_perform (starts : turn.Starts) :
    turn.Ends (turn.case.perform turn.course turn.scenario turn.store turn.world) := by
  rcases ho : turn.sent.outcome with e | response
  · have hperform : turn.case.perform turn.course turn.scenario turn.store turn.world =
        turn.judged (turn.failure e none) turn.store turn.sent.world.supply := by
      unfold sent at ho
      simp only [Case.perform, ho, judged, failure, sent]
    rw [hperform]
    exact .unanswered starts ho
  · -- `perform` sends by itself, so the outcome is needed without the name `sent` as well
    have hsent := ho
    unfold sent at hsent
    rcases hb : decodeBody response.body with e | v
    · have hperform : turn.case.perform turn.course turn.scenario turn.store turn.world =
          turn.judged (turn.failure e
            (some ⟨response.status, response.headers, .str (Utf8.decodeLossy response.body)⟩))
            turn.store turn.sent.world.supply := by
        simp only [Case.perform, hsent, Case.judge, hb, judged, failure, sent]
      rw [hperform]
      exact .unreadable starts ho hb
    · obtain ⟨fields, rfl⟩ := map_of_decodeBody hb
      rcases hc : turn.case.expect.check response.status (.map fields) turn.scope
        turn.sent.world.supply with ⟨verdict, supply⟩
      have hcheck := hc
      unfold sent scope at hcheck
      cases verdict with
      | error e =>
          have hperform : turn.case.perform turn.course turn.scenario turn.store turn.world =
              turn.judged (turn.failure e (some ⟨response.status, response.headers, .map fields⟩))
                turn.store supply := by
            simp only [Case.perform, hsent, Case.judge, hb, hcheck, judged, failure, sent]
          rw [hperform]
          exact .rejected starts ho hb hc
      | ok _ =>
          have hperform : turn.case.perform turn.course turn.scenario turn.store turn.world =
              turn.judged (turn.success (some ⟨response.status, response.headers, .map fields⟩))
                (turn.case.capture (.map fields) turn.store) supply := by
            simp only [Case.perform, hsent, Case.judge, hb, hcheck, judged, success, sent]
          rw [hperform]
          exact .passed starts ho hb hc

/-- A turn ends in one of the six ways. -/
theorem ends (turn : Turn σ) : turn.Ends turn.executed := by
  unfold executed Case.execute
  rcases hg : turn.case.gate turn.past with e | _
  · exact .skipped hg
  · -- behind an open gate it is the deadline that keeps a case from its start
    cases hlate : turn.course.deadline.any (· ≤ turn.world.clock) with
    | true =>
        obtain ⟨d, hd, hle⟩ := (Option.any_eq_true _ _).1 hlate
        exact .late hg hd (by simpa using hle)
    | false => exact ends_perform ⟨hg, early_iff.2 hlate⟩

/-- **However a turn ends, its result keeps one verdict.** Each way to end builds the result by one
of the three constructors. -/
theorem Ends.agrees {executed : Executed σ} (h : turn.Ends executed) : executed.result.Agrees := by
  cases h with
  | skipped closed => exact CaseResult.agrees_skip _ _ _
  | late opened deadline passed => exact CaseResult.agrees_fail _ _ _ _ _
  | unanswered starts outcome => exact CaseResult.agrees_fail _ _ _ _ _
  | unreadable starts outcome body => exact CaseResult.agrees_fail _ _ _ _ _
  | rejected starts outcome body check => exact CaseResult.agrees_fail _ _ _ _ _
  | passed starts outcome body check => exact CaseResult.agrees_pass _ _ _ _

/-! ## The exchanges of a turn -/

/-- The last attempt of the case brings a response. -/
def LastResponse (turn : Turn σ) (response : Response) : Prop :=
  ∃ x, turn.exchanges.getLast? = some x ∧ x.Brings turn.course.deadline response

/-- A case that starts makes its attempts. -/
theorem exchanges_of_starts (starts : turn.Starts) :
    turn.exchanges = turn.case.exchanges turn.course turn.store
      (turn.case.retryPolicy.attempts - 1) turn.world := by
  unfold exchanges
  rw [starts.1, early_iff.1 starts.2]
  rfl

/-- A case that does not start makes no attempt. -/
theorem exchanges_of_not_starts (h : ¬ turn.Starts) : turn.exchanges = [] := by
  unfold exchanges
  rcases hg : turn.case.gate turn.past with e | _
  · rfl
  · cases hlate : turn.course.deadline.any (· ≤ turn.world.clock) with
    | true => rfl
    | false => exact absurd ⟨hg, early_iff.2 hlate⟩ h

/-- The last attempt brings a response exactly when the case starts and its attempts lead to it. -/
theorem lastResponse_iff (response : Response) :
    turn.LastResponse response ↔ turn.Starts ∧ turn.sent.outcome = .ok response := by
  by_cases hstarts : turn.Starts
  · unfold LastResponse
    rw [exchanges_of_starts hstarts]
    have hattempts : turn.sent.outcome = .ok response ↔
        ∃ x, (turn.case.exchanges turn.course turn.store
          (turn.case.retryPolicy.attempts - 1) turn.world).getLast? = some x ∧
          x.Brings turn.course.deadline response :=
      (Case.attempts_attempt _ _).outcome_eq_ok_iff response
    exact ⟨fun h => ⟨hstarts, hattempts.2 h⟩, fun h => hattempts.1 h.2⟩
  · unfold LastResponse
    rw [exchanges_of_not_starts hstarts]
    simp [hstarts]

/-- A turn whose last attempt brings a response ends in one of three ways. -/
theorem Ends.of_lastResponse {executed : Executed σ} (h : turn.Ends executed) {response : Response}
    (hlast : turn.LastResponse response) :
    (∃ e, decodeBody response.body = .error e ∧
      executed = turn.judged (turn.failure e
        (some ⟨response.status, response.headers, .str (Utf8.decodeLossy response.body)⟩))
        turn.store turn.sent.world.supply) ∨
    (∃ fields e supply, decodeBody response.body = .ok (.map fields) ∧
      turn.case.expect.check response.status (.map fields) turn.scope
        turn.sent.world.supply = (.error e, supply) ∧
      executed = turn.judged
        (turn.failure e (some ⟨response.status, response.headers, .map fields⟩)) turn.store supply) ∨
    ∃ fields supply, decodeBody response.body = .ok (.map fields) ∧
      turn.case.expect.check response.status (.map fields) turn.scope
        turn.sent.world.supply = (.ok (), supply) ∧
      executed = turn.judged (turn.success (some ⟨response.status, response.headers, .map fields⟩))
        (turn.case.capture (.map fields) turn.store) supply := by
  obtain ⟨hstarts, hsent⟩ := (lastResponse_iff response).1 hlast
  cases h with
  | skipped closed => exact absurd hstarts (not_starts_of_closed closed)
  | late opened deadline passed => exact absurd hstarts (not_starts_of_late deadline passed)
  | unanswered starts outcome =>
      rw [hsent] at outcome
      cases outcome
  | unreadable starts outcome body =>
      obtain rfl := Except.ok.inj (hsent.symm.trans outcome)
      exact .inl ⟨_, body, rfl⟩
  | rejected starts outcome body check =>
      obtain rfl := Except.ok.inj (hsent.symm.trans outcome)
      exact .inr (.inl ⟨_, _, _, body, check, rfl⟩)
  | passed starts outcome body check =>
      obtain rfl := Except.ok.inj (hsent.symm.trans outcome)
      exact .inr (.inr ⟨_, _, body, check, rfl⟩)

/-- The events of a turn are the requests of its exchanges. -/
theorem events_eq (turn : Turn σ) : turn.events = turn.exchanges.map Exchange.event := by
  have hsent : turn.Starts → turn.sent.events = turn.exchanges.map Exchange.event := by
    intro hstarts
    rw [exchanges_of_starts hstarts]
    exact (Case.attempts_attempt _ _).events_eq
  have hnone : ¬ turn.Starts → [] = turn.exchanges.map Exchange.event := by
    intro hstarts
    rw [exchanges_of_not_starts hstarts]
    rfl
  -- the ways to end are about any execution, so the one of the turn gets a name first
  unfold events
  generalize hexecuted : turn.executed = executed
  have hends := turn.ends
  rw [hexecuted] at hends
  cases hends with
  | skipped closed => exact hnone (not_starts_of_closed closed)
  | late opened deadline passed => exact hnone (not_starts_of_late deadline passed)
  | unanswered starts outcome => exact hsent starts
  | unreadable starts outcome body => exact hsent starts
  | rejected starts outcome body check => exact hsent starts
  | passed starts outcome body check => exact hsent starts

/-- Each request of a turn is built with the variables that the case finds. -/
theorem request_of_mem_exchanges {x : Exchange} (hx : x ∈ turn.exchanges) :
    ∃ supply, x.request = (turn.case.request.build turn.course.baseUrl turn.scope supply).1 := by
  by_cases hstarts : turn.Starts
  · rw [exchanges_of_starts hstarts] at hx
    exact (Case.attempts_attempt _ _).request_eq x hx
  · rw [exchanges_of_not_starts hstarts] at hx
    cases hx

end Turn

end ScenarioRunner

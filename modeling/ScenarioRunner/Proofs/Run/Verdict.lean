import ScenarioRunner.Proofs.Run.Dependencies
import ScenarioRunner.Proofs.Template.Steady

/-!
# When a case passes

A case passes exactly when it starts, its last attempt brings a response in time, the body of this
response is an object, and it meets the expectation with the variables that the case finds. The
snapshot of a case shows the response to its last attempt, and there is one exactly when there is
such a response.
-/

set_option autoImplicit false

namespace ScenarioRunner

variable {σ : Type}

namespace Turn.Ends

variable {turn : Turn σ} {executed : Executed σ}

/-- A case passes when all stages of its turn succeed, and only then. -/
theorem passed_iff (h : turn.Ends executed) :
    executed.result.outcome = .passed ↔
      ∃ response fields, turn.LastResponse response ∧
        decodeBody response.body = .ok (.map fields) ∧
        (turn.case.expect.check response.status (.map fields) turn.scope
          turn.sent.world.supply).1 = .ok () := by
  simp only [lastResponse_iff]
  cases h with
  | skipped closed => simp [unsent, not_starts_of_closed closed]
  | late opened deadline passed => simp [unsent, not_starts_of_late deadline passed]
  | unanswered starts outcome => simp [judged, outcome]
  | unreadable starts outcome body => simp [judged, outcome, body]
  | rejected starts outcome body check => simp [judged, outcome, body, check]
  | passed starts outcome body check => simp [judged, starts, outcome, body, check]

/-- There is a snapshot exactly when the last attempt brings a response. -/
theorem isSome_response_iff (h : turn.Ends executed) :
    executed.result.response.isSome = true ↔ ∃ response, turn.LastResponse response := by
  simp only [lastResponse_iff]
  cases h with
  | skipped closed => simp [unsent, not_starts_of_closed closed]
  | late opened deadline passed => simp [unsent, not_starts_of_late deadline passed]
  | unanswered starts outcome => simp [judged, outcome]
  | unreadable starts outcome body => simp [judged, starts, outcome]
  | rejected starts outcome body check => simp [judged, starts, outcome]
  | passed starts outcome body check => simp [judged, starts, outcome]

/-- The snapshot shows the response to the last attempt, its body as text if it cannot be read. -/
theorem response_eq (h : turn.Ends executed) {response : Response}
    (hlast : turn.LastResponse response) :
    executed.result.response = some
      { status := response.status
        headers := response.headers
        body := match decodeBody response.body with
          | .ok v => v
          | .error _ => .str (Utf8.decodeLossy response.body) } := by
  rcases h.of_lastResponse hlast with ⟨e, hbody, rfl⟩ | ⟨fields, e, supply, hbody, -, rfl⟩ |
    ⟨fields, supply, hbody, -, rfl⟩
  · simp [judged, hbody]
  · simp [judged, hbody]
  · simp [judged, hbody]

end Turn.Ends

namespace Suite

variable {suite : Suite} {setting : Setting σ} {world : World σ} {report : Report}

/-- A case starts when its dependency has passed before it and the limit of the run is not over. -/
theorem starts_of_turn (hvalid : suite.validate = .ok ())
    (hrun : (suite.run setting world).1 = .ok report) {i : Nat} {turn : Turn σ}
    (hturn : (suite.turns setting world)[i]? = some turn) :
    turn.Starts ↔
      (∀ name, turn.case.dependency = some name → report.PassedBefore suite i name) ∧
      ∀ limit, setting.limit = some limit → turn.world.clock < world.clock + limit := by
  unfold Turn.Starts Turn.Early
  rw [gate_of_turn hvalid hrun hturn, (turn_eq hturn).2.1, course]
  refine and_congr_right fun _ => ?_
  cases setting.limit with
  | none => simp
  | some limit => simp

/-- **A case passes exactly when the response to its last attempt meets its expectation.** The
expectation of a steady suite is checked with the variables behind the cases before it, at whatever
place in the supply. The snapshot shows the last response, with the object in its body, or the text
of a body that cannot be read; without such a response there is no snapshot. -/
theorem passed_iff_response_meets_expectation (hvalid : suite.validate = .ok ())
    (hsteady : suite.Steady) (hrun : (suite.run setting world).1 = .ok report) {i : Nat} {c : Case}
    (hc : suite.cases[i]? = some c) (supply : Nat) :
    ∃ turn, (suite.turns setting world)[i]? = some turn ∧ turn.case = c ∧
      report.results[i]? = some turn.result ∧
      turn.store = (suite.casePhaseAt setting world i).store ∧
      turn.events = turn.exchanges.map Exchange.event ∧
      (turn.result.outcome = .passed ↔
        (∀ name, c.dependency = some name → report.PassedBefore suite i name) ∧
        (∀ limit, setting.limit = some limit → turn.world.clock < world.clock + limit) ∧
        ∃ response fields, turn.LastResponse response ∧
          decodeBody response.body = .ok (.map fields) ∧
          (c.expect.check response.status (.map fields) ⟨turn.store, setting.environment⟩
            supply).1 = .ok ()) ∧
      (turn.result.response.isSome = true ↔ ∃ response, turn.LastResponse response) ∧
      (∀ response v, turn.LastResponse response → decodeBody response.body = .ok v →
        turn.result.response = some ⟨response.status, response.headers, v⟩) ∧
      ∀ response e, turn.LastResponse response → decodeBody response.body = .error e →
        turn.result.response = some
          ⟨response.status, response.headers, .str (Utf8.decodeLossy response.body)⟩ := by
  obtain ⟨turn, hturn, rfl⟩ := turn_of_case hrun hc
  have hscope : turn.scope = ⟨turn.store, setting.environment⟩ := by
    rw [Turn.scope, (turn_eq hturn).2.1, course]
  -- a steady expectation does not look at the supply, so the place in it can be exchanged
  have hcheck : ∀ response : Response, ∀ fields place,
      (turn.case.expect.check response.status (.map fields) turn.scope place).1 =
        (turn.case.expect.check response.status (.map fields) turn.scope supply).1 := by
    intro response fields place
    have hoperands := hsteady.expectations turn.case (List.mem_of_getElem? hc)
    obtain ⟨outcome, houtcome⟩ :=
      Expectation.check_of_steady (.map fields) turn.scope hoperands response.status
    rw [houtcome, houtcome]
  refine ⟨turn, hturn, rfl, result_of_turn hrun hturn, (turn_eq hturn).2.2.2.1, turn.events_eq, ?_,
    turn.ends.isSome_response_iff, ?_, ?_⟩
  · have hpassed := turn.ends.passed_iff
    simp only [hcheck _ _ turn.sent.world.supply] at hpassed
    simp only [hscope] at hpassed
    unfold Turn.result
    rw [hpassed, ← and_assoc, ← starts_of_turn hvalid hrun hturn]
    -- a last response says that the case has started
    refine ⟨fun h => ⟨?_, h⟩, fun h => h.2⟩
    obtain ⟨response, -, hlast, -⟩ := h
    exact ((Turn.lastResponse_iff response).1 hlast).1
  · intro response v hlast hbody
    unfold Turn.result
    rw [turn.ends.response_eq hlast, hbody]
  · intro response e hlast hbody
    unfold Turn.result
    rw [turn.ends.response_eq hlast, hbody]

set_option maxRecDepth 20000 in
/-- The order is created by the response to the second attempt; the list that is read in place of
the order is shown as text. -/
theorem orders_judged :
    Orders.suite.validate = .ok () ∧ Orders.suite.Steady ∧
      ∃ report, (Orders.suite.run Orders.setting Orders.world).1 = .ok report ∧
        (∃ turn response fields, (Orders.suite.turns Orders.setting Orders.world)[0]? = some turn ∧
          turn.result.outcome = .passed ∧ turn.LastResponse response ∧
          decodeBody response.body = .ok (.map fields) ∧
          turn.result.response = some ⟨response.status, response.headers, .map fields⟩) ∧
        ∃ turn response, (Orders.suite.turns Orders.setting Orders.world)[1]? = some turn ∧
          turn.LastResponse response ∧ turn.result.outcome ≠ .passed ∧
          (turn.result.response.map fun snapshot => snapshot.body.text) = some "[]" := by
  have hvalid := Orders.validate_eq_ok
  have hsteady : Orders.suite.Steady := by decide +kernel
  have hrun := run_of_setup Orders.setup_eq_none
  refine ⟨hvalid, hsteady, _, hrun, ?_, ?_⟩
  · obtain ⟨turn, hturn, -, -, -, -, hpassed, -, hread, -⟩ :=
      passed_iff_response_meets_expectation hvalid hsteady hrun (i := 0) rfl 0
    have houtcome : ((Orders.suite.turns Orders.setting Orders.world)[0]?.map
        fun turn => turn.result.outcome) = some .passed := by decide +kernel
    rw [hturn] at houtcome
    have h := Option.some.inj houtcome
    obtain ⟨-, -, response, fields, hlast, hbody, -⟩ := hpassed.1 h
    exact ⟨turn, response, fields, hturn, h, hlast, hbody, hread response _ hlast hbody⟩
  · obtain ⟨turn, hturn, -, -, -, -, -, hsome, -, -⟩ :=
      passed_iff_response_meets_expectation hvalid hsteady hrun (i := 1) rfl 0
    have hsnapshot : ((Orders.suite.turns Orders.setting Orders.world)[1]?.map fun turn =>
        (turn.result.outcome.isPassed, turn.result.response.map fun snapshot =>
          snapshot.body.text)) = some (false, some "[]") := by decide +kernel
    rw [hturn] at hsnapshot
    obtain ⟨hfailed, htext⟩ := Prod.mk.inj (Option.some.inj hsnapshot)
    obtain ⟨snapshot, hresponse, -⟩ := Option.map_eq_some_iff.1 htext
    obtain ⟨response, hlast⟩ := hsome.1 (by rw [hresponse]; rfl)
    refine ⟨turn, response, hturn, hlast, fun hpassed => ?_, htext⟩
    rw [hpassed] at hfailed
    cases hfailed

end Suite

end ScenarioRunner

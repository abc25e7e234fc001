import ScenarioRunner.Proofs.Run.Verdict
import ScenarioRunner.Proofs.Value.Fields

/-!
# The variables of a run

The variables of a run change only when a case passes: then the values that it saves are put in. So
at any place of a run its variables are the initial ones with the captures of the cases before this
place (`store_casePhaseAt`), and the same holds at the end of a run.
-/

set_option autoImplicit false

namespace ScenarioRunner

variable {σ : Type}

/-- How a case ends whose response has been checked. -/
def Outcome.ofVerdict : Except Error Unit → Outcome
  | .ok _ => .passed
  | .error e => .failed e

namespace Case

/-- The values that a case saves from a body. A path that leads nowhere has none. -/
def captures (c : Case) (body : Value) : List (String × Value) :=
  c.save.filterMap fun entry => (body.lookup? entry.2).map fun v => (entry.1, v)

/-- A case saves what is found at its paths, `null` included. -/
theorem mem_captures_iff (c : Case) (body : Value) (name : String) (v : Value) :
    (name, v) ∈ c.captures body ↔
      ∃ path, (name, path) ∈ c.save ∧ body.lookup? path = some v := by
  unfold captures
  rw [List.mem_filterMap]
  constructor
  · rintro ⟨⟨key, path⟩, hmem, hentry⟩
    obtain ⟨w, hw, heq⟩ := Option.map_eq_some_iff.1 hentry
    cases heq
    exact ⟨path, hmem, hw⟩
  · rintro ⟨path, hmem, hfound⟩
    exact ⟨(name, path), hmem, by rw [hfound]; rfl⟩

/-- The captures of a case with some result: what a case that has passed saves from its body. -/
def capturesOf (c : Case) (result : CaseResult) : List (String × Value) :=
  match result.outcome, result.response with
  | .passed, some snapshot => c.captures snapshot.body
  | _, _ => []

/-- The captures of cases with their results. -/
def capturesOfAll (pairs : List (Case × CaseResult)) : List (String × Value) :=
  pairs.flatMap fun pair => pair.1.capturesOf pair.2

/-- Capturing from a body puts in what the case saves from it. -/
theorem capture_eq (c : Case) (body : Value) (store : Fields Value) :
    c.capture body store = Fields.insertAll (c.captures body) store := by
  unfold capture captures Fields.insertAll
  rw [List.foldl_filterMap]
  congr
  funext store entry
  cases body.lookup? entry.2 with
  | none => rfl
  | some v => rfl

end Case

namespace Turn

variable {turn : Turn σ} {executed : Executed σ}

/-- What the turn adds to the variables. -/
def captures (turn : Turn σ) : List (String × Value) := turn.case.capturesOf turn.result

/-- A turn puts its captures in. -/
theorem Ends.store_eq (h : turn.Ends executed) :
    executed.store = Fields.insertAll (turn.case.capturesOf executed.result) turn.store := by
  cases h with
  | skipped closed => rfl
  | late opened deadline passed => rfl
  | unanswered starts outcome => rfl
  | unreadable starts outcome body => rfl
  | rejected starts outcome body check => rfl
  | passed starts outcome body check => exact turn.case.capture_eq _ _

/-- A turn in which the case does not pass has no captures. -/
theorem captures_of_ne_passed (h : turn.result.outcome ≠ .passed) : turn.captures = [] := by
  unfold captures Case.capturesOf
  split
  · next hpassed _ => exact absurd hpassed h
  · rfl

/-- A response that can be read decides a turn by the verdict on it. -/
theorem Ends.outcome_eq (h : turn.Ends executed) {response : Response} {fields : Fields Value}
    (hlast : turn.LastResponse response) (hbody : decodeBody response.body = .ok (.map fields)) :
    executed.result.outcome = .ofVerdict (turn.case.expect.check response.status (.map fields)
      turn.scope turn.sent.world.supply).1 := by
  rcases h.of_lastResponse hlast with ⟨e, hunread, rfl⟩ | ⟨found, e, supply, hfound, hcheck, rfl⟩ |
    ⟨found, supply, hfound, hcheck, rfl⟩
  · rw [hbody] at hunread
    cases hunread
  · rw [hbody] at hfound
    cases hfound
    rw [hcheck]
    rfl
  · rw [hbody] at hfound
    cases hfound
    rw [hcheck]
    rfl

end Turn

/-- The cases of a run put in the captures of their turns. -/
theorem Case.store_executeAll {course : Course σ} (past : List CaseResult) (store : Fields Value)
    (cases : List (String × Case)) (world : World σ) :
    (executeAll course past store cases world).store =
      Fields.insertAll ((turns course past store cases world).flatMap Turn.captures) store := by
  induction cases generalizing past store world with
  | nil => rfl
  | cons label rest ih =>
      -- what the first turn puts in is there before the captures of the others
      rw [executeAll, turns, List.flatMap_cons, Fields.insertAll_append]
      change (executeAll course _ _ rest _).store = _
      rw [ih]
      have hturn := (Turn.ends ⟨course, label.1, label.2, past, store, world⟩).store_eq
      exact congrArg _ hturn

namespace Suite

variable {suite : Suite} {setting : Setting σ} {world : World σ} {report : Report}

/-- The cases and the results of a run belong together as they do in its turns. -/
theorem zip_cases_results (hrun : (suite.run setting world).1 = .ok report) :
    (suite.turns setting world).map (fun turn => (turn.case, turn.result)) =
      suite.cases.zip report.results := by
  rw [(report_of_run hrun).1, cases_eq_map_labelledCases, ← labels_of_turns (setup_of_run hrun),
    List.map_map, List.zip_map']
  rfl

/-- Behind its first cases the variables of a run are the initial ones with the captures so far. -/
theorem store_casePhaseAt (hrun : (suite.run setting world).1 = .ok report) (i : Nat) :
    (suite.casePhaseAt setting world i).store =
      Fields.insertAll (Case.capturesOfAll ((suite.cases.zip report.results).take i))
        suite.bindings := by
  unfold casePhaseAt Case.capturesOfAll
  rw [Case.store_executeAll, ← Case.take_turns, ← turns_of_setup (setup_of_run hrun),
    ← zip_cases_results hrun, ← List.map_take, List.flatMap_map]
  rfl

/-- At the end of a run the variables are the initial ones with all captures. -/
theorem store_of_run (hrun : (suite.run setting world).1 = .ok report) :
    report.store =
      Fields.insertAll (Case.capturesOfAll (suite.cases.zip report.results)) suite.bindings := by
  unfold Case.capturesOfAll
  rw [(report_of_run hrun).2.1, casePhase_eq, Case.store_executeAll,
    ← turns_of_setup (setup_of_run hrun), ← zip_cases_results hrun, List.flatMap_map]
  rfl

/-- **The variables of a run are the initial ones with the captures of the cases that pass.** They
are put in in the order of the cases, so that the last capture of a name is found. A case that
passes captures what its paths find in the object of its last response, and any other case nothing.
Each request and each check of a case sees the variables behind the cases before it. -/
theorem variables_are_initial_with_captures (hrun : (suite.run setting world).1 = .ok report) :
    report.store =
        Fields.insertAll (Case.capturesOfAll (suite.cases.zip report.results)) suite.bindings ∧
      (∀ name, Fields.get? report.store name =
        ((Case.capturesOfAll (suite.cases.zip report.results)).reverse.lookup name).or
          (Fields.get? suite.bindings name)) ∧
      ∀ i c, suite.cases[i]? = some c →
        ∃ turn, (suite.turns setting world)[i]? = some turn ∧ turn.case = c ∧
          report.results[i]? = some turn.result ∧
          turn.store = Fields.insertAll
            (Case.capturesOfAll ((suite.cases.zip report.results).take i)) suite.bindings ∧
          (∀ event ∈ turn.events, ∃ time supply, event = .request time
            (c.request.build suite.baseUrl ⟨turn.store, setting.environment⟩ supply).1) ∧
          (∀ response fields, turn.LastResponse response →
            decodeBody response.body = .ok (.map fields) →
            ∃ supply, turn.result.outcome = .ofVerdict (c.expect.check response.status
              (.map fields) ⟨turn.store, setting.environment⟩ supply).1) ∧
          (turn.result.outcome = .passed → ∃ response fields, turn.LastResponse response ∧
            decodeBody response.body = .ok (.map fields) ∧
            c.capturesOf turn.result = c.captures (.map fields) ∧
            ∀ name v, (name, v) ∈ c.capturesOf turn.result ↔
              ∃ path, (name, path) ∈ c.save ∧ (Value.map fields).lookup? path = some v) ∧
          (turn.result.outcome ≠ .passed → c.capturesOf turn.result = []) := by
  refine ⟨store_of_run hrun, ?_, ?_⟩
  · intro name
    rw [store_of_run hrun, Fields.get?_insertAll]
  · intro i c hc
    obtain ⟨turn, hturn, rfl⟩ := turn_of_case hrun hc
    obtain ⟨-, hcourse, -, hstore, -⟩ := turn_eq hturn
    have hscope : turn.scope = ⟨turn.store, setting.environment⟩ := by
      rw [Turn.scope, hcourse, course]
    refine ⟨turn, hturn, rfl, result_of_turn hrun hturn, hstore.trans (store_casePhaseAt hrun i),
      ?_, ?_, ?_, Turn.captures_of_ne_passed⟩
    · intro event hevent
      rw [turn.events_eq] at hevent
      obtain ⟨x, hx, rfl⟩ := List.mem_map.1 hevent
      obtain ⟨supply, hrequest⟩ := Turn.request_of_mem_exchanges hx
      refine ⟨x.time, supply, ?_⟩
      rw [Exchange.event, hrequest, hscope, hcourse, course]
    · intro response fields hlast hbody
      rw [← hscope]
      exact ⟨_, turn.ends.outcome_eq hlast hbody⟩
    · intro hpassed
      obtain ⟨response, fields, hlast, hbody, -⟩ := turn.ends.passed_iff.1 hpassed
      -- the captures are read off the snapshot, which shows the object of the response
      have hresponse := turn.ends.response_eq hlast
      rw [hbody] at hresponse
      have hcaptures : turn.case.capturesOf turn.result = turn.case.captures (.map fields) := by
        unfold Case.capturesOf Turn.result
        rw [show turn.executed.result.outcome = .passed from hpassed, hresponse]
      refine ⟨response, fields, hlast, hbody, hcaptures, fun name v => ?_⟩
      rw [hcaptures, Case.mem_captures_iff]

set_option maxRecDepth 20000 in
/-- The identifier of the order that was created is captured, and the next request is built with
it. -/
theorem orders_captured :
    ∃ report, (Orders.suite.run Orders.setting Orders.world).1 = .ok report ∧
      (Fields.get? report.store "id").map Value.text = some "7" ∧
      ∃ turn, (Orders.suite.turns Orders.setting Orders.world)[1]? = some turn ∧
        (Fields.get? turn.store "id").map Value.text = some "7" ∧
        ∀ event ∈ turn.events, ∃ time supply, event = .request time
          (turn.case.request.build "" ⟨turn.store, Orders.setting.environment⟩ supply).1 := by
  have hrun := run_of_setup Orders.setup_eq_none
  obtain ⟨-, hfound, hturns⟩ := variables_are_initial_with_captures hrun
  refine ⟨_, hrun, ?_, ?_⟩
  · rw [hfound]
    decide +kernel
  · obtain ⟨turn, hturn, hcase, -, hstore, hevents, -⟩ := hturns 1 _ rfl
    refine ⟨turn, hturn, ?_, ?_⟩
    · rw [hstore]
      decide +kernel
    · rw [hcase]
      exact hevents

end Suite

end ScenarioRunner

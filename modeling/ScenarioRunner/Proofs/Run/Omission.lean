import ScenarioRunner.Proofs.Run.Dependencies
import ScenarioRunner.Proofs.Run.Gate
import ScenarioRunner.Proofs.Run.Phases

/-!
# A suite without a skipped case

A skipped case does nothing, takes no time and saves nothing, so only its result can be missed when
it is gone. A gate looks for this result if its case depends on the skipped one, and then it is
closed with it and without it, for another reason (`execute_remaining`). By induction along a run, the
other cases do the same without the skipped one (`executeAll_remaining`).
-/

set_option autoImplicit false

namespace ScenarioRunner

variable {σ : Type}

/-- To leave out a key that occurs once is to leave out its place. -/
theorem filter_bne_eq_eraseIdx {α β : Type} [DecidableEq β] (key : α → β) {items : List α}
    (hnodup : (items.map key).Nodup) {i : Nat} {a : α} (ha : items[i]? = some a) :
    items.filter (fun b => key b != key a) = items.eraseIdx i := by
  induction items generalizing i with
  | nil => cases ha
  | cons b rest ih =>
      rw [List.map_cons, List.nodup_cons] at hnodup
      cases i with
      | zero =>
          -- the key stands in front, so it is not among the others
          obtain rfl := Option.some.inj ha
          have hrest : ∀ c ∈ rest, (key c != key b) = true := by
            intro c hc
            rw [bne_iff_ne]
            intro hkey
            exact hnodup.1 (hkey ▸ List.mem_map_of_mem hc)
          rw [List.filter_cons_of_neg (by simp), List.filter_eq_self.2 hrest,
            List.eraseIdx_cons_zero]
      | succ i =>
          rw [List.getElem?_cons_succ] at ha
          have hkey : key b ≠ key a := by
            intro hkey
            exact hnodup.1 (hkey ▸ List.mem_map_of_mem (List.mem_of_getElem? ha))
          rw [List.filter_cons_of_pos (by simpa using hkey), ih hnodup.2 ha,
            List.eraseIdx_cons_succ]

/-! ## Results without a case -/

namespace CaseResult

/-- The result of a case once another one is gone: a dependency on the latter that did not pass has
not run. -/
def forgetting (name : String) (result : CaseResult) : CaseResult :=
  if result.outcome = .skipped (.dependency name "did not pass") then
    let reason := Error.dependency name "has not run"
    { result with error? := some reason.message, outcome := .skipped reason }
  else result

/-- The results that are left when a case is gone. -/
def remaining (name : String) (results : List CaseResult) : List CaseResult :=
  (results.filter (·.name != name)).map (forgetting name)

variable {name : String}

theorem name_forgetting (name : String) (result : CaseResult) :
    (forgetting name result).name = result.name := by
  unfold forgetting
  split <;> rfl

theorem passed_forgetting (name : String) (result : CaseResult) :
    (forgetting name result).passed = result.passed := by
  unfold forgetting
  split <;> rfl

/-- A name has not passed if no result of this name has. -/
theorem hasPassed_eq_false {past : List CaseResult}
    (hpast : ∀ result ∈ past, result.name = name → result.passed = false) :
    hasPassed past name = false := by
  unfold hasPassed
  rw [Option.any_eq_false]
  intro result hfound
  have hname : result.name = name := by simpa using List.find?_some hfound
  exact hpast result (List.mem_of_find?_eq_some hfound) hname

/-- Nothing is found under the name of a case that is gone. -/
theorem find?_remaining_self (past : List CaseResult) :
    find? (remaining name past) name = none := by
  rw [← Option.not_isSome_iff_eq_none, remaining, find?_map (name_forgetting name),
    Option.isSome_map, isSome_find?_iff]
  rintro ⟨result, hmem, hname⟩
  have hne := (List.mem_filter.1 hmem).2
  rw [hname, bne_self_eq_false] at hne
  cases hne

/-- Under any other name the same is found. -/
theorem find?_filter_of_ne {other : String} (hne : other ≠ name) (past : List CaseResult) :
    find? (past.filter (·.name != name)) other = find? past other := by
  unfold find?
  rw [List.find?_filter]
  congr
  funext result
  by_cases hname : result.name = other
  · simp [hname, hne]
  · simp [hname]

theorem remaining_append (first second : List CaseResult) :
    remaining name (first ++ second) = remaining name first ++ remaining name second := by
  unfold remaining
  rw [List.filter_append, List.map_append]

theorem remaining_nil : remaining name [] = [] := rfl

theorem remaining_cons_of_eq {result : CaseResult} (hname : result.name = name)
    (results : List CaseResult) : remaining name (result :: results) = remaining name results := by
  unfold remaining
  rw [List.filter_cons_of_neg (by simpa using hname)]

theorem remaining_cons_of_ne {result : CaseResult} (hname : result.name ≠ name)
    (results : List CaseResult) :
    remaining name (result :: results) = forgetting name result :: remaining name results := by
  unfold remaining
  rw [List.filter_cons_of_pos (by simpa using hname), List.map_cons]

end CaseResult

/-- What a case led to, without another one. -/
def Executed.forgetting (name : String) (executed : Executed σ) : Executed σ :=
  { executed with result := executed.result.forgetting name }

/-- What cases led to, without one of them. -/
def CasePhase.remaining (name : String) (phase : CasePhase σ) : CasePhase σ :=
  { phase with results := CaseResult.remaining name phase.results }

/-- A case that is gone and has done nothing is not missed. -/
theorem CasePhase.remaining_before_of_eq {name : String} {executed : Executed σ}
    (hname : executed.result.name = name) (hevents : executed.events = []) (phase : CasePhase σ) :
    (executed.before phase).remaining name = phase.remaining name := by
  unfold remaining Executed.before
  rw [CaseResult.remaining_cons_of_eq hname, hevents, List.nil_append]

theorem CasePhase.remaining_before_of_ne {name : String} {executed : Executed σ}
    (hname : executed.result.name ≠ name) (phase : CasePhase σ) :
    (executed.before phase).remaining name =
      (executed.forgetting name).before (phase.remaining name) := by
  unfold remaining Executed.before Executed.forgetting
  rw [CaseResult.remaining_cons_of_ne hname]

namespace Case

variable {c : Case} {name : String}

/-- A gate that does not depend on a case does not miss it. -/
theorem gate_remaining_of_ne (hdependency : c.dependency ≠ some name) (past : List CaseResult) :
    c.gate (CaseResult.remaining name past) = c.gate past := by
  unfold CaseResult.remaining
  rw [gate_map c _ (CaseResult.name_forgetting name) (CaseResult.passed_forgetting name)]
  unfold gate CaseResult.hasPassed
  cases hother : c.dependency with
  | none => rfl
  | some other =>
      have hne : other ≠ name := by
        rintro rfl
        exact hdependency hother
      simp only [CaseResult.find?_filter_of_ne hne]

/-- A gate that depends on a case is closed when this is gone. -/
theorem gate_remaining_of_eq (hdependency : c.dependency = some name) (past : List CaseResult) :
    c.gate (CaseResult.remaining name past) = .error (.dependency name "has not run") :=
  gate_of_not_found hdependency (CaseResult.find?_remaining_self past)

/-! ## Cases without one of them -/

variable {course : Course σ} {scenario : String} {store : Fields Value} {world : World σ}
  {past : List CaseResult}

theorem execute_of_closed {e : Error} (hclosed : c.gate past = .error e) :
    c.execute course scenario past store world =
      ⟨.skip scenario c.name e, store, [], world⟩ := by
  unfold execute
  rw [hclosed]

/-- A case that does not depend on another one has nothing to forget. -/
theorem forgetting_execute_of_ne (hdependency : c.dependency ≠ some name) :
    (c.execute course scenario past store world).forgetting name =
      c.execute course scenario past store world := by
  unfold Executed.forgetting CaseResult.forgetting
  rw [if_neg]
  intro houtcome
  -- the error of a closed gate names the dependency
  have hends := (⟨course, scenario, c, past, store, world⟩ : Turn σ).ends
  obtain ⟨other, hother, -, hreason⟩ :=
    gate_eq_error_iff.1 (hends.outcome_eq_skipped_iff.1 houtcome)
  have hname : name = other := (Error.dependency.inj hreason).1
  exact hdependency (hname ▸ hother)

/-- **A case does the same when one that has not passed is gone.** -/
theorem execute_remaining (hpast : CaseResult.hasPassed past name = false) :
    c.execute course scenario (CaseResult.remaining name past) store world =
      (c.execute course scenario past store world).forgetting name := by
  by_cases hdependency : c.dependency = some name
  · -- the case is skipped, whether the other one is gone or not
    have hclosed : c.gate past = .error (closedReason past name) :=
      gate_eq_error_iff.2 ⟨name, hdependency, hpast, rfl⟩
    rw [execute_of_closed hclosed, execute_of_closed (gate_remaining_of_eq hdependency past)]
    unfold closedReason Executed.forgetting CaseResult.forgetting
    cases (CaseResult.find? past name).isSome with
    | true => simp
    | false => simp
  · rw [forgetting_execute_of_ne hdependency]
    unfold execute
    rw [gate_remaining_of_ne hdependency]

/-- **Cases do the same without one that is skipped.** By induction on the cases: the one that is
skipped leaves the store and the world as they are, and any other one does the same without it. -/
theorem executeAll_remaining (past : List CaseResult) (store : Fields Value)
    (cases : List (String × Case)) (world : World σ)
    (hpast : ∀ result ∈ past, result.name = name → result.passed = false)
    (hskipped : ∀ turn ∈ turns course past store cases world, turn.case.name = name →
      turn.result.outcome.isSkipped = true) :
    executeAll course (CaseResult.remaining name past) store
        (cases.filter fun label => label.2.name != name) world =
      (executeAll course past store cases world).remaining name := by
  induction cases generalizing past store world with
  | nil => rfl
  | cons label rest ih =>
      obtain ⟨scenario, c⟩ := label
      rw [turns, List.forall_mem_cons] at hskipped
      obtain ⟨hfirst, hrest⟩ := hskipped
      have hends := (⟨course, scenario, c, past, store, world⟩ : Turn σ).ends
      have hsame : c.execute course scenario (CaseResult.remaining name past) store world = _ :=
        execute_remaining (CaseResult.hasPassed_eq_false hpast)
      unfold Turn.result Turn.executed at *
      rw [executeAll_cons]
      generalize c.execute course scenario past store world = executed at *
      have hlabel : executed.result.name = c.name := hends.label.2
      have hpast' : ∀ result ∈ past ++ [executed.result], result.name = name →
          result.passed = false := by
        rw [List.forall_mem_append, List.forall_mem_singleton]
        refine ⟨hpast, fun hname => ?_⟩
        exact hends.agrees.passed_of_isSkipped (hfirst (hlabel.symm.trans hname))
      have hlater := ih _ _ _ hpast' hrest
      rw [CaseResult.remaining_append] at hlater
      by_cases hname : c.name = name
      · obtain ⟨hevents, -, hworld, hstore⟩ := hends.frame_of_isSkipped (hfirst hname)
        have hresult : executed.result.name = name := hlabel.trans hname
        rw [CaseResult.remaining_cons_of_eq hresult, CaseResult.remaining_nil, List.append_nil,
          hstore, hworld] at hlater
        rw [List.filter_cons_of_neg (by simpa using hname), hlater,
          CasePhase.remaining_before_of_eq hresult hevents, hstore, hworld]
      · have hresult : executed.result.name ≠ name := hlabel.trans_ne hname
        rw [CaseResult.remaining_cons_of_ne hresult, CaseResult.remaining_nil] at hlater
        rw [List.filter_cons_of_pos (by simpa using hname), executeAll_cons, hsame,
          CasePhase.remaining_before_of_ne hresult, ← hlater]
        rfl

end Case

namespace Suite

variable {suite : Suite} {setting : Setting σ} {world : World σ} {report : Report} {i : Nat}
  {c : Case}

/-! ## Suites without a case -/

/-- A suite without the case of a name. -/
def without (suite : Suite) (name : String) : Suite :=
  { suite with
    scenarios := suite.scenarios.map fun scenario =>
      { scenario with cases := scenario.cases.filter fun c => c.name != name } }

theorem labelledCases_without (suite : Suite) (name : String) :
    (suite.without name).labelledCases =
      suite.labelledCases.filter fun label => label.2.name != name := by
  unfold labelledCases Scenario.labelledCases without
  rw [List.flatMap_map, List.filter_flatMap]
  simp only [List.filter_map, Function.comp_def]

theorem cases_without (suite : Suite) (name : String) :
    (suite.without name).cases = suite.cases.filter fun c => c.name != name := by
  unfold cases without
  rw [List.flatMap_map, List.filter_flatMap]

/-- **To leave out a case that is skipped is the same before a run and behind it.** -/
theorem run_without {name : String} (hskipped : ∀ turn ∈ suite.turns setting world,
      turn.case.name = name → turn.result.outcome.isSkipped = true) :
    (suite.without name).run setting world =
      ((suite.run setting world).1.map fun report =>
          { report with results := CaseResult.remaining name report.results },
        (suite.run setting world).2) := by
  refine run_of_casePhase (CaseResult.remaining name) fun hsetup => ?_
  rw [turns_of_setup hsetup] at hskipped
  change (suite.without name).casePhase setting world = (suite.casePhase setting world).remaining name
  rw [casePhase_eq, casePhase_eq, labelledCases_without]
  exact Case.executeAll_remaining _ _ _ _ (List.forall_mem_nil _) hskipped

/-- The results of a case are found in its place only. -/
theorem index_of_result (hvalid : suite.validate = .ok ())
    (hrun : (suite.run setting world).1 = .ok report) (hc : suite.cases[i]? = some c) {j : Nat}
    {result : CaseResult} (hresult : report.results[j]? = some result)
    (hname : result.name = c.name) : j = i := by
  have hnames := name_of_result hrun j
  rw [hresult] at hnames
  obtain ⟨d, hd, hdname⟩ := Option.map_eq_some_iff.1 hnames.symm
  exact index_unique hvalid hd hc (hdname.trans hname)

/-- A case has a result before some place when it stands before this place. -/
theorem isSome_find?_take_iff (hvalid : suite.validate = .ok ())
    (hrun : (suite.run setting world).1 = .ok report) (hc : suite.cases[i]? = some c) (j : Nat) :
    (CaseResult.find? (report.results.take j) c.name).isSome = true ↔ i < j := by
  rw [CaseResult.isSome_find?_iff]
  constructor
  · rintro ⟨result, hmem, hname⟩
    obtain ⟨k, hk⟩ := List.mem_iff_getElem?.1 hmem
    rw [List.getElem?_take] at hk
    split at hk
    · next hlt => exact index_of_result hvalid hrun hc hk hname ▸ hlt
    · cases hk
  · intro hlt
    have hnames := name_of_result hrun i
    rw [hc] at hnames
    obtain ⟨result, hresult, hname⟩ := Option.map_eq_some_iff.1 hnames
    exact ⟨result, List.mem_of_getElem? (i := i) (by rw [List.getElem?_take_of_lt hlt, hresult]),
      hname⟩

/-- A case that is skipped in its place is skipped in each turn of its name. -/
theorem isSkipped_of_name (hvalid : suite.validate = .ok ())
    (hrun : (suite.run setting world).1 = .ok report) (hc : suite.cases[i]? = some c)
    {result : CaseResult} (hresult : report.results[i]? = some result)
    (hskipped : result.outcome.isSkipped = true) :
    ∀ turn ∈ suite.turns setting world, turn.case.name = c.name →
      turn.result.outcome.isSkipped = true := by
  intro turn hmem hname
  obtain ⟨j, hturn⟩ := List.mem_iff_getElem?.1 hmem
  obtain rfl := index_unique hvalid (case_of_turn hturn) hc hname
  rw [result_of_turn hrun hturn] at hresult
  obtain rfl := Option.some.inj hresult
  exact hskipped

/-- What depends on a skipped case and comes behind it is skipped because of that. -/
theorem did_not_pass_iff (hvalid : suite.validate = .ok ())
    (hrun : (suite.run setting world).1 = .ok report) (hc : suite.cases[i]? = some c)
    (hgone : ∀ result ∈ report.results, result.name = c.name → result.passed = false) {j : Nat}
    {d : Case} {result : CaseResult} (hd : suite.cases[j]? = some d)
    (hresult : report.results[j]? = some result) :
    result.outcome = .skipped (.dependency c.name "did not pass") ↔
      d.dependency = some c.name ∧ i < j := by
  obtain ⟨turn, hturn, rfl⟩ := turn_of_case hrun hd
  rw [result_of_turn hrun hturn] at hresult
  obtain rfl := Option.some.inj hresult
  have hpassed : CaseResult.hasPassed turn.past c.name = false := by
    apply CaseResult.hasPassed_eq_false
    intro earlier hmem
    rw [past_of_turn hrun hturn] at hmem
    exact hgone earlier (List.mem_of_mem_take hmem)
  rw [← isSome_find?_take_iff hvalid hrun hc j, ← past_of_turn hrun hturn, Turn.result,
    turn.ends.outcome_eq_skipped_iff, Case.gate_eq_error_iff]
  unfold Case.closedReason
  constructor
  · rintro ⟨name, hdependency, -, hreason⟩
    obtain ⟨rfl, htext⟩ := Error.dependency.inj hreason
    refine ⟨hdependency, ?_⟩
    by_contra hnone
    rw [if_neg hnone] at htext
    exact absurd htext (by decide)
  · rintro ⟨hdependency, hsome⟩
    exact ⟨c.name, hdependency, hpassed, by rw [if_pos hsome]⟩

/-- **A skipped case leaves no trace.** A well-formed suite in whose run some case is skipped is
still well-formed without this case, and its run completes in the same world. It does the same at
the same times, and leaves the same variables and teardown errors. Its results are those of the
other cases, but a case that comes behind the skipped one and depends on it now reads that this case
has not run, and not that it did not pass. -/
theorem skipped_case_leaves_no_trace (hvalid : suite.validate = .ok ())
    (hrun : (suite.run setting world).1 = .ok report) (hc : suite.cases[i]? = some c)
    {result : CaseResult} (hresult : report.results[i]? = some result)
    (hskipped : result.outcome.isSkipped = true) :
    (suite.without c.name).cases = suite.cases.eraseIdx i ∧
      (suite.without c.name).validate = .ok () ∧
      ∃ other, (suite.without c.name).run setting world =
          (.ok other, (suite.run setting world).2) ∧
        other.events = report.events ∧ other.store = report.store ∧
        other.setup = report.setup ∧ other.teardown = report.teardown ∧
        other.teardownErrors = report.teardownErrors ∧
        other.results = (report.results.eraseIdx i).map (CaseResult.forgetting c.name) ∧
        ∀ (j : Nat) (d : Case) (r : CaseResult), suite.cases[j]? = some d →
          report.results[j]? = some r →
          (r.outcome = .skipped (.dependency c.name "did not pass") ↔
            d.dependency = some c.name ∧ i < j) := by
  have hturns := isSkipped_of_name hvalid hrun hc hresult hskipped
  have hgone : ∀ earlier ∈ report.results, earlier.name = c.name → earlier.passed = false := by
    intro earlier hmem hname
    obtain ⟨j, hj⟩ := List.mem_iff_getElem?.1 hmem
    obtain rfl := index_of_result hvalid hrun hc hj hname
    obtain rfl := Option.some.inj (hj.symm.trans hresult)
    exact (agrees_of_run hrun hmem).passed_of_isSkipped hskipped
  have hcases : (suite.without c.name).cases = suite.cases.eraseIdx i := by
    rw [cases_without, filter_bne_eq_eraseIdx Case.name (nodup_names hvalid) hc]
  have hother := run_without hturns
  rw [hrun] at hother
  refine ⟨hcases, validate_of_sublist hvalid (hcases ▸ List.eraseIdx_sublist _ _), _, hother, rfl,
    rfl, rfl, rfl, rfl, ?_, fun j d r hd hr => did_not_pass_iff hvalid hrun hc hgone hd hr⟩
  -- the result that is left out by its name is the one in the place of the case
  have hname := name_eq_of_result hrun hc hresult
  have hnodup : (report.results.map CaseResult.name).Nodup :=
    names_of_run hrun ▸ nodup_names hvalid
  rw [← filter_bne_eq_eraseIdx CaseResult.name hnodup hresult, hname]
  rfl

end Suite

namespace Orders

/-- The orders are counted behind the case that is skipped. -/
def counted : Suite :=
  { suite with
    scenarios :=
      [{ name := "orders"
         cases := suite.cases ++ [{ name := "count", dependsOn := some "list" }] }] }

end Orders

namespace Suite

set_option maxRecDepth 20000 in
/-- Without the case that lists the orders the same requests are sent, and the case that counts them
reads that they have not been listed. -/
theorem orders_unlisted :
    Orders.counted.validate = .ok () ∧
      ∃ report other, (Orders.counted.run Orders.setting Orders.world).1 = .ok report ∧
        report.results[2]?.map (fun result => result.outcome.isSkipped) = some true ∧
        ((Orders.counted.without "list").run Orders.setting Orders.world).1 = .ok other ∧
        other.events = report.events ∧ report.events.length = 4 ∧
        report.results[3]?.map CaseResult.outcome =
          some (.skipped (.dependency "list" "did not pass")) ∧
        other.results[2]?.map CaseResult.outcome =
          some (.skipped (.dependency "list" "has not run")) := by
  have hvalid : Orders.counted.validate = .ok () := rfl
  have hsetup : (Orders.counted.setupPhase Orders.setting Orders.world).1 = none :=
    Orders.setup_eq_none
  have hrun := run_of_setup hsetup
  have hskipped : (Orders.counted.casePhase Orders.setting Orders.world).results[2]?.map
      (fun result => result.outcome.isSkipped) = some true := by decide +kernel
  obtain ⟨result, hresult, houtcome⟩ := Option.map_eq_some_iff.1 hskipped
  obtain ⟨-, -, other, hother, hevents, -, -, -, -, hresults, -⟩ :=
    skipped_case_leaves_no_trace hvalid hrun (i := 2) rfl hresult houtcome
  refine ⟨hvalid, _, other, hrun, hskipped, by rw [hother], hevents, ?_, ?_, ?_⟩
  · decide +kernel
  · decide +kernel
  · rw [hresults]
    decide +kernel

end Suite

end ScenarioRunner

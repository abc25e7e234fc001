import ScenarioRunner.Proofs.Run.Results
import Mathlib.Data.List.Nodup
import Mathlib.Logic.Relation

/-!
# Dependencies between cases

The gate of a case looks for the first result of a name. Since no two cases of a well-formed suite
share a name, the gate is open exactly when the case of that name stands earlier and has passed
(`gate_of_turn`). By induction along a run, all cases that a case needs stand before it and have
passed, unless it is skipped (`chain_of_turn`).
-/

set_option autoImplicit false

namespace ScenarioRunner

variable {σ : Type}

namespace Case

variable {c : Case} {past : List CaseResult}

theorem dependency_eq_some_iff {name : String} :
    c.dependency = some name ↔ c.dependsOn = some name ∧ name ≠ "" := by
  unfold dependency
  rw [Option.filter_eq_some_iff]
  simp

/-- A gate is open when the dependency, if there is one, has passed. -/
theorem gate_eq_ok_iff :
    c.gate past = .ok () ↔ ∀ name, c.dependency = some name →
      CaseResult.hasPassed past name = true := by
  unfold gate
  cases c.dependency with
  | none => simp
  | some name =>
      cases hpassed : CaseResult.hasPassed past name with
      | true => simp [hpassed]
      | false =>
          simp only [Option.some.injEq, Bool.false_eq_true, if_false, forall_eq', hpassed,
            iff_false]
          split <;> exact fun h => by cases h

end Case

/-- Among results of different names, the one that is found first is the one of the name. Its flag
says whether it has passed. -/
theorem CaseResult.hasPassed_iff {past : List CaseResult} {name : String}
    (hnodup : (past.map CaseResult.name).Nodup) (hagree : ∀ result ∈ past, result.Agrees) :
    hasPassed past name = true ↔
      ∃ result ∈ past, result.name = name ∧ result.outcome = .passed := by
  unfold hasPassed find?
  rw [Option.any_eq_true]
  constructor
  · rintro ⟨result, hfound, hpassed⟩
    have hmem := List.mem_of_find?_eq_some hfound
    exact ⟨result, hmem, by simpa using List.find?_some hfound,
      (hagree result hmem).passed_iff.1 hpassed⟩
  · rintro ⟨result, hmem, hname, houtcome⟩
    cases hfound : past.find? (·.name == name) with
    | none =>
        rw [List.find?_eq_none] at hfound
        exact absurd (by simpa using hname) (hfound result hmem)
    | some found =>
        -- two results of one name are the same, so the first one is the one at hand
        have hfirst : found.name = name := by simpa using List.find?_some hfound
        obtain rfl : found = result :=
          List.inj_on_of_nodup_map hnodup (List.mem_of_find?_eq_some hfound) hmem
            (hfirst.trans hname.symm)
        exact ⟨found, rfl, (hagree found hmem).passed_iff.2 houtcome⟩

/-! ## The gate of a turn -/

namespace Turn.Ends

variable {turn : Turn σ} {executed : Executed σ}

/-- A case is skipped exactly when its gate is closed. -/
theorem isSkipped_iff (h : turn.Ends executed) :
    executed.result.outcome.isSkipped = true ↔ turn.case.gate turn.past ≠ .ok () := by
  cases h with
  | skipped closed => simp [unsent, Outcome.isSkipped, closed]
  | late opened deadline passed => simp [unsent, Outcome.isSkipped, opened]
  | unanswered starts outcome => simp [judged, Outcome.isSkipped, starts.1]
  | unreadable starts outcome body => simp [judged, Outcome.isSkipped, starts.1]
  | rejected starts outcome body check => simp [judged, Outcome.isSkipped, starts.1]
  | passed starts outcome body check => simp [judged, Outcome.isSkipped, starts.1]

/-- A case is skipped for the reason for which its gate is closed. -/
theorem outcome_eq_skipped_iff (h : turn.Ends executed) {e : Error} :
    executed.result.outcome = .skipped e ↔ turn.case.gate turn.past = .error e := by
  cases h with
  | skipped closed => simp [unsent, closed]
  | late opened deadline passed => simp [unsent, opened]
  | unanswered starts outcome => simp [judged, starts.1]
  | unreadable starts outcome body => simp [judged, starts.1]
  | rejected starts outcome body check => simp [judged, starts.1]
  | passed starts outcome body check => simp [judged, starts.1]

/-- A skipped case leaves everything as it is. -/
theorem frame_of_isSkipped (h : turn.Ends executed)
    (hskipped : executed.result.outcome.isSkipped = true) :
    executed.events = [] ∧ executed.result.duration = 0 ∧ executed.world = turn.world ∧
      executed.store = turn.store := by
  have hclosed := h.isSkipped_iff.1 hskipped
  cases h with
  | skipped closed => exact ⟨rfl, rfl, rfl, rfl⟩
  | late opened deadline passed => exact ⟨rfl, rfl, rfl, rfl⟩
  | unanswered starts outcome => exact absurd starts.1 hclosed
  | unreadable starts outcome body => exact absurd starts.1 hclosed
  | rejected starts outcome body check => exact absurd starts.1 hclosed
  | passed starts outcome body check => exact absurd starts.1 hclosed

end Turn.Ends

/-- Before some place of a run, the case of a name has passed. -/
def Report.PassedBefore (report : Report) (suite : Suite) (i : Nat) (name : String) : Prop :=
  ∃ j < i, ∃ c result, suite.cases[j]? = some c ∧ c.name = name ∧
    report.results[j]? = some result ∧ result.outcome = .passed

namespace Suite

/-- The case of the first name declares the second one as its dependency. -/
def DependsOn (suite : Suite) (name dependency : String) : Prop :=
  ∃ c ∈ suite.cases, c.name = name ∧ c.dependency = some dependency

variable {suite : Suite} {setting : Setting σ} {world : World σ} {report : Report}

/-- The results that a turn finds are those of the cases before it. -/
theorem past_of_turn (hrun : (suite.run setting world).1 = .ok report) {i : Nat} {turn : Turn σ}
    (hturn : (suite.turns setting world)[i]? = some turn) : turn.past = report.results.take i := by
  rw [(turn_eq hturn).2.2.1, List.map_take, ← (report_of_run hrun).1]

/-- A case has passed before some place when a result of its name before this place says so. -/
theorem passedBefore_iff (hrun : (suite.run setting world).1 = .ok report) (i : Nat)
    (name : String) :
    report.PassedBefore suite i name ↔
      ∃ result ∈ report.results.take i, result.name = name ∧ result.outcome = .passed := by
  constructor
  · rintro ⟨j, hj, c, result, hc, hcname, hresult, hpassed⟩
    have hname := name_eq_of_result hrun hc hresult
    have hmem : result ∈ report.results.take i := by
      apply List.mem_of_getElem? (i := j)
      rw [List.getElem?_take_of_lt hj, hresult]
    exact ⟨result, hmem, hname.trans hcname, hpassed⟩
  · rintro ⟨result, hmem, hname, hpassed⟩
    obtain ⟨j, hj⟩ := List.mem_iff_getElem?.1 hmem
    have hlt : j < i := by
      -- there is nothing at or behind `i` among the first `i` results
      by_contra hle
      rw [List.getElem?_eq_none (by rw [List.length_take]; omega)] at hj
      cases hj
    rw [List.getElem?_take_of_lt hlt] at hj
    have hcase := name_of_result hrun j
    rw [hj] at hcase
    obtain ⟨c, hc, hcname⟩ := Option.map_eq_some_iff.1 hcase.symm
    exact ⟨j, hlt, c, result, hc, hcname.trans hname, hj, hpassed⟩

/-- A case that has passed before some place has a turn there, in which it was not skipped. -/
theorem turn_of_passedBefore (hrun : (suite.run setting world).1 = .ok report) {i : Nat}
    {name : String} (h : report.PassedBefore suite i name) :
    ∃ j < i, ∃ turn, (suite.turns setting world)[j]? = some turn ∧ turn.case.name = name ∧
      turn.result.outcome.isSkipped ≠ true := by
  obtain ⟨j, hj, c, result, hc, hname, hresult, hpassed⟩ := h
  obtain ⟨turn, hturn, rfl⟩ := turn_of_case hrun hc
  rw [result_of_turn hrun hturn] at hresult
  obtain rfl := Option.some.inj hresult
  refine ⟨j, hj, turn, hturn, hname, ?_⟩
  rw [hpassed]
  exact Bool.false_ne_true

/-- The gate of a case is open when its dependency, if it has one, has passed before it. -/
theorem gate_of_turn (hvalid : suite.validate = .ok ())
    (hrun : (suite.run setting world).1 = .ok report) {i : Nat} {turn : Turn σ}
    (hturn : (suite.turns setting world)[i]? = some turn) :
    turn.case.gate turn.past = .ok () ↔
      ∀ name, turn.case.dependency = some name → report.PassedBefore suite i name := by
  have hnodup : (turn.past.map CaseResult.name).Nodup := by
    rw [past_of_turn hrun hturn, List.map_take, names_of_run hrun]
    exact (nodup_names hvalid).sublist (List.take_sublist _ _)
  have hagree : ∀ result ∈ turn.past, result.Agrees := by
    intro result hresult
    rw [past_of_turn hrun hturn] at hresult
    exact agrees_of_run hrun (List.mem_of_mem_take hresult)
  rw [Case.gate_eq_ok_iff]
  refine forall_congr' fun name => imp_congr_right fun _ => ?_
  rw [CaseResult.hasPassed_iff hnodup hagree, past_of_turn hrun hturn, passedBefore_iff hrun]

/-- **All that a case needs has passed before it, unless the case is skipped.** By induction on the
place of the case: a dependency that has passed is not skipped either, and stands earlier. -/
theorem chain_of_turn (hvalid : suite.validate = .ok ())
    (hrun : (suite.run setting world).1 = .ok report) {i : Nat} {turn : Turn σ}
    (hturn : (suite.turns setting world)[i]? = some turn)
    (hstarted : turn.result.outcome.isSkipped ≠ true) {name : String}
    (hchain : Relation.TransGen suite.DependsOn turn.case.name name) :
    report.PassedBefore suite i name := by
  -- a dependency may be declared anywhere before the case, so the induction is a strong one
  induction i using Nat.strongRecOn generalizing turn with
  | ind i ih =>
      have hopen : turn.case.gate turn.past = .ok () := by
        by_contra hclosed
        exact hstarted (turn.ends.isSkipped_iff.2 hclosed)
      have hdirect : ∀ direct, suite.DependsOn turn.case.name direct →
          report.PassedBefore suite i direct := by
        -- the case that declares the dependency is the one of this turn, as names are unique
        rintro direct ⟨c, hmem, hname, hdependency⟩
        obtain ⟨j, hc⟩ := List.mem_iff_getElem?.1 hmem
        obtain rfl := index_unique hvalid hc (case_of_turn hturn) hname
        rw [case_of_turn hturn] at hc
        obtain rfl := Option.some.inj hc
        exact (gate_of_turn hvalid hrun hturn).1 hopen direct hdependency
      rcases Relation.TransGen.head'_iff.1 hchain with ⟨direct, hfirst, hrest⟩
      have hpassed := hdirect direct hfirst
      rcases Relation.reflTransGen_iff_eq_or_transGen.1 hrest with rfl | hrest
      · exact hpassed
      · -- the chain goes on from an earlier case, which was not skipped as it has passed
        obtain ⟨j, hj, earlier, hearlier, rfl, hnot⟩ := turn_of_passedBefore hrun hpassed
        obtain ⟨k, hk, hlast⟩ := ih j hj hearlier hnot hrest
        exact ⟨k, by omega, hlast⟩

/-- **A case is skipped exactly when it has a dependency that has not passed before it.** A skipped
case sends nothing, takes no time and leaves the variables as they are. So all that a case with a
request needs, directly or through other cases, stands before it and has passed, and a case is
skipped that needs an unknown name, itself, a later case or a case on a cycle. -/
theorem skipped_iff_dependency_not_passed (hvalid : suite.validate = .ok ())
    (hrun : (suite.run setting world).1 = .ok report) {i : Nat} {c : Case}
    (hc : suite.cases[i]? = some c) :
    ∃ turn, (suite.turns setting world)[i]? = some turn ∧ turn.case = c ∧
      report.results[i]? = some turn.result ∧
      (turn.result.outcome.isSkipped = true ↔
        ∃ name, c.dependsOn = some name ∧ name ≠ "" ∧ ¬ report.PassedBefore suite i name) ∧
      (turn.result.outcome.isSkipped = true →
        turn.events = [] ∧ turn.result.duration = 0 ∧ turn.executed.world = turn.world ∧
          turn.executed.store = turn.store) ∧
      (turn.events ≠ [] → ∀ name, Relation.TransGen suite.DependsOn c.name name →
        report.PassedBefore suite i name) ∧
      ∀ name, Relation.TransGen suite.DependsOn c.name name →
        (name ∉ suite.cases.map Case.name ∨
          (∃ j d, i ≤ j ∧ suite.cases[j]? = some d ∧ d.name = name) ∨
          Relation.TransGen suite.DependsOn name name) →
        turn.result.outcome.isSkipped = true := by
  obtain ⟨turn, hturn, rfl⟩ := turn_of_case hrun hc
  refine ⟨turn, hturn, rfl, result_of_turn hrun hturn, ?_, turn.ends.frame_of_isSkipped, ?_, ?_⟩
  · unfold Turn.result
    rw [turn.ends.isSkipped_iff, ne_eq, gate_of_turn hvalid hrun hturn]
    simp only [Case.dependency_eq_some_iff, not_forall, exists_prop, and_assoc]
  · intro hsent name hchain
    refine chain_of_turn hvalid hrun hturn (fun hskipped => hsent ?_) hchain
    exact (turn.ends.frame_of_isSkipped hskipped).1
  · intro name hchain hbroken
    by_contra hstarted
    have hpassed := chain_of_turn hvalid hrun hturn hstarted hchain
    obtain ⟨j, hj, earlier, hearlier, rfl, hnot⟩ := turn_of_passedBefore hrun hpassed
    have hcase := case_of_turn hearlier
    rcases hbroken with hunknown | ⟨k, d, hk, hd, hname⟩ | hcycle
    · exact hunknown (List.mem_map_of_mem (List.mem_of_getElem? hcase))
    · have hsame := index_unique hvalid hcase hd hname.symm
      omega
    · -- the case on the cycle has passed, so it would have to stand before itself
      obtain ⟨k, hk, d, -, hd, hname, -⟩ := chain_of_turn hvalid hrun hearlier hnot hcycle
      have hsame := index_unique hvalid hcase hd hname.symm
      omega

set_option maxRecDepth 20000 in
/-- Reading an order needs the one that was created; what depends on reading it is skipped. -/
theorem orders_gated :
    Orders.suite.validate = .ok () ∧
      ∃ report, (Orders.suite.run Orders.setting Orders.world).1 = .ok report ∧
        report.PassedBefore Orders.suite 1 "create" ∧
        ∃ turn, (Orders.suite.turns Orders.setting Orders.world)[2]? = some turn ∧
          turn.result.outcome.isSkipped = true ∧ turn.events = [] := by
  have hvalid := Orders.validate_eq_ok
  have hrun := run_of_setup Orders.setup_eq_none
  refine ⟨hvalid, _, hrun, ?_, ?_⟩
  · obtain ⟨turn, hturn, -, -, -, -, hchain, -⟩ :=
      skipped_iff_dependency_not_passed hvalid hrun (i := 1) rfl
    have hsent : ((Orders.suite.turns Orders.setting Orders.world)[1]?.map
        fun turn => turn.events.isEmpty) = some false := by decide +kernel
    rw [hturn] at hsent
    refine hchain (fun hnone => by simp [hnone] at hsent) "create" (.single ⟨_, ?_, rfl, rfl⟩)
    exact List.mem_of_getElem? (i := 1) rfl
  · obtain ⟨turn, hturn, -, -, -, hframe, -, -⟩ :=
      skipped_iff_dependency_not_passed hvalid hrun (i := 2) rfl
    have hskipped : ((Orders.suite.turns Orders.setting Orders.world)[2]?.map
        fun turn => turn.result.outcome.isSkipped) = some true := by decide +kernel
    rw [hturn] at hskipped
    have h := Option.some.inj hskipped
    exact ⟨turn, hturn, h, (hframe h).1⟩

end Suite

end ScenarioRunner

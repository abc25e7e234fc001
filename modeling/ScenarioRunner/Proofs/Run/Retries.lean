import ScenarioRunner.Proofs.Run.Clock
import ScenarioRunner.Proofs.Run.Gate
import ScenarioRunner.Proofs.Run.Script

/-!
# Retried failures

A case that has another attempt behind a failure of the transport forgets the failure: what its
attempts lead to is up to the last one alone. So the replies that were retried can be taken out of a
script, and the case comes to its end in a single attempt (`Attempts.abridged_retried`). This is not
so for a case that has used up its attempts, since on a shorter script it would go on. Such a case
does the same again if all of its replies stay (`Attempts.abridged_unmarked`). `Exchange.recovered`
marks what can be taken out, and a turn without it has the same result (`execute_abridged`).
-/

set_option autoImplicit false

namespace ScenarioRunner

/-- A result apart from its duration. -/
def CaseResult.timeless (result : CaseResult) : CaseResult := { result with duration := 0 }

/-- A gate does not look at durations. -/
theorem Case.gate_timeless (c : Case) (past : List CaseResult) :
    c.gate (past.map CaseResult.timeless) = c.gate past :=
  c.gate_map CaseResult.timeless (fun _ => rfl) (fun _ => rfl) past

/-- A script whose next reply can be retried starts with a failure of the transport. -/
theorem Script.of_retryable {script : Script} {e : Error} (h : script.next.1.outcome = .error e)
    (retryable : e.isRetryable = true) :
    ∃ reply rest, script = reply :: rest ∧ reply.Failed := by
  cases script with
  | nil => cases h
  | cons reply rest =>
      cases e with
      | transport message => exact ⟨reply, rest, rfl, message, h⟩
      | _ => cases retryable

namespace Exchange

/-- Marks the exchanges of a case behind which there is another one. -/
def retried : List Exchange → List Bool
  | [] => []
  | [_] => [false]
  | _ :: next :: rest => true :: retried (next :: rest)

/-- Even the last exchange has failed so that there would be another one: the case has used up its
attempts. -/
def UsedUp (xs : List Exchange) : Prop := ∃ x ∈ xs.getLast?, x.Retryable

instance : DecidablePred UsedUp := fun xs =>
  inferInstanceAs (Decidable (∃ x ∈ xs.getLast?, x.Retryable))

/-- Marks the exchanges of a case behind which there is another one, unless the case has used up its
attempts. -/
def recovered (xs : List Exchange) : List Bool :=
  if UsedUp xs then xs.map fun _ => false else retried xs

/-- All exchanges but the last one are retried. -/
theorem getElem?_retried (xs : List Exchange) (j : Nat) :
    (retried xs)[j]? = xs[j]?.map fun _ => decide (j + 1 < xs.length) := by
  induction xs using retried.induct generalizing j with
  | case1 => rfl
  | case2 x => cases j <;> simp [retried]
  | case3 x next rest ih =>
      cases j with
      | zero => simp [retried]
      | succ j => rw [retried, List.getElem?_cons_succ, ih]; simp

/-- The exchanges are recovered from that are retried by a case that does not use up its attempts. -/
theorem recovered_iff (xs : List Exchange) (j : Nat) :
    (recovered xs)[j]? = some true ↔ j + 1 < xs.length ∧ ¬ UsedUp xs := by
  by_cases hused : UsedUp xs
  · rw [recovered, if_pos hused, List.getElem?_map]
    cases xs[j]? <;> simp [hused]
  · rw [recovered, if_neg hused, getElem?_retried]
    cases hx : xs[j]? with
    | none =>
        have hlength := List.getElem?_eq_none_iff.1 hx
        refine iff_of_false (by simp) ?_
        omega
    | some x => simp [hused]

theorem retried_cons {xs : List Exchange} (h : xs ≠ []) (x : Exchange) :
    retried (x :: xs) = true :: retried xs := by
  cases xs with
  | nil => exact absurd rfl h
  | cons next rest => rfl

theorem usedUp_cons_iff {xs : List Exchange} (h : xs ≠ []) (x : Exchange) :
    UsedUp (x :: xs) ↔ UsedUp xs := by
  unfold UsedUp
  rw [List.getLast?_cons_of_ne_nil h]

end Exchange

section UsedUp

variable {σ : Type}

/-- Without a deadline the last attempt can only fail in transport when none is left. -/
theorem Case.Attempts.length_of_usedUp {c : Case} {course : Course σ} {store : Fields Value}
    {left : Nat} {world : World σ} {xs : List Exchange} {sent : Sent σ}
    (h : c.Attempts course store left world xs sent) (hdeadline : course.deadline = none)
    (hused : Exchange.UsedUp xs) : xs.length = left + 1 := by
  induction h with
  | @last left world behind outcome received final =>
      obtain ⟨x, hx, e, hreply, hretry⟩ := hused
      obtain rfl : c.exchange course store world = x := Option.some.inj hx
      have htime : (c.exchange course store world).InTime course.deadline := by
        intro d hd
        rw [hdeadline] at hd
        cases hd
      have houtcome := (received_of_inTime htime).1
      rw [received, hreply] at houtcome
      rcases final with rfl | hfinal
      · rfl
      · rw [hfinal e houtcome] at hretry
        cases hretry
  | @cut left world behind waited e cut received retryable wait =>
      obtain ⟨-, d, hd, -⟩ := World.of_wait_error wait
      rw [hdeadline] at hd
      cases hd
  | @again left world behind waited e rest sent received retryable wait others ih =>
      rw [Exchange.usedUp_cons_iff others.ne_nil] at hused
      exact congrArg (· + 1) (ih hused)

/-- Without a deadline a case whose last attempt fails in transport has made all of its attempts. -/
theorem Turn.length_of_usedUp {turn : Turn σ} (hdeadline : turn.course.deadline = none)
    (hused : Exchange.UsedUp turn.exchanges) :
    turn.exchanges.length = max 1 turn.case.retryPolicy.attempts := by
  by_cases hstarts : turn.Starts
  · have hlength := (attempts_of_starts hstarts).length_of_usedUp hdeadline hused
    omega
  · rw [exchanges_of_not_starts hstarts] at hused
    obtain ⟨x, hx, -⟩ := hused
    cases hx

end UsedUp

variable {τ : Type}

/-- A course on a script, without a deadline. -/
def Course.scripted (cleanup : Option (Action → τ → Cleaned τ))
    (environment : String → Option String) (baseUrl : String) : Course (Script × τ) :=
  ⟨.scripted cleanup environment, baseUrl, none⟩

namespace Case

variable {cleanup : Option (Action → τ → Cleaned τ)} {environment : String → Option String}
  {baseUrl : String} {c : Case} {store : Fields Value} {further : List Bool}
  {reduced world : World (Script × τ)}

/-! ## The attempts of a case -/

/-- An attempt does the same when the script lacks replies behind the next one. -/
theorem received_abridged (hsteady : c.request.Steady)
    (hstate : reduced.state = abridge (false :: further) world.state) :
    let course := Course.scripted cleanup environment baseUrl
    (c.exchange course store reduced).request = (c.exchange course store world).request ∧
      (c.received course store reduced).1 = (c.received course store world).1 ∧
      (c.received course store reduced).2.state =
        abridge further (c.received course store world).2.state := by
  obtain ⟨clock, supply, script, rest⟩ := world
  obtain ⟨clock', supply', state'⟩ := reduced
  obtain rfl : state' = abridge (false :: further) (script, rest) := hstate
  obtain ⟨request, hbuild⟩ := RequestTemplate.build_of_steady hsteady baseUrl ⟨store, environment⟩
  have hnext := Script.next_withoutMarked further script
  intro course
  refine ⟨?_, ?_, ?_⟩
  · simp only [exchange, course, Course.scripted, Setting.scripted, hbuild]
  · simp only [received, course, Course.scripted, Setting.scripted, Setting.sendWithin, hbuild,
      abridge, hnext]
    rfl
  · simp only [received, course, Course.scripted, Setting.scripted, Setting.sendWithin, hbuild,
      abridge, hnext]

/-- The last attempt does the same when the script lacks replies behind its own. -/
theorem abridged_of_last (hsteady : c.request.Steady) {left : Nat} {behind : World (Script × τ)}
    {outcome : Except Error Response}
    (received : c.received (.scripted cleanup environment baseUrl) store world = (outcome, behind))
    (final : left = 0 ∨ ∀ e, outcome = .error e → e.isRetryable = false)
    (hstate : reduced.state = abridge (false :: further) world.state) :
    ∃ other, c.attempt (.scripted cleanup environment baseUrl) store left reduced = other ∧
      other.outcome = outcome ∧ Abridged [false] further world.state other.events
        [(c.exchange (.scripted cleanup environment baseUrl) store world).event]
        other.world.state behind.state := by
  obtain ⟨hrequest, houtcome, hbehind⟩ := received_abridged hsteady hstate
  rcases hreceived : c.received (.scripted cleanup environment baseUrl) store reduced with
    ⟨outcome', behind'⟩
  rw [received, hreceived] at houtcome hbehind
  obtain rfl : outcome' = outcome := houtcome
  refine ⟨_, (attempt_of_last left hreceived final).1, rfl, .single hrequest ?_ hbehind⟩
  exact congrArg (fun received => received.2.state.1) received.symm

/-- A case that does not use up its attempts comes to its end at once when the replies that it has
retried are missing. -/
theorem Attempts.abridged_retried {left : Nat} {xs : List Exchange} {sent : Sent (Script × τ)}
    (h : c.Attempts (.scripted cleanup environment baseUrl) store left world xs sent)
    (hsteady : c.request.Steady) (hsettled : ¬ Exchange.UsedUp xs)
    (hstate : reduced.state = abridge (Exchange.retried xs ++ further) world.state) (left' : Nat) :
    ∃ other, c.attempt (.scripted cleanup environment baseUrl) store left' reduced = other ∧
      other.outcome = sent.outcome ∧ Abridged (Exchange.retried xs) further world.state other.events
        sent.events other.world.state sent.world.state := by
  induction h with
  | @last left world behind outcome received final =>
      have houtcome : outcome = world.state.1.next.1.outcome := congrArg Prod.fst received.symm
      refine abridged_of_last hsteady received (.inr fun e he => ?_) hstate
      rw [← Bool.not_eq_true]
      exact fun hretry => hsettled ⟨_, rfl, e, houtcome.symm.trans he, hretry⟩
  | @cut left world behind waited e cut received retryable wait =>
      obtain ⟨-, d, hd, -⟩ := World.of_wait_error wait
      cases hd
  | @again left world behind waited e rest sent received retryable wait others ih =>
      -- the reduced run stays where it is while the other one makes this attempt
      obtain ⟨-, rfl⟩ := World.of_wait_ok wait
      obtain rfl : _ = behind := congrArg Prod.snd received
      rw [Exchange.usedUp_cons_iff others.ne_nil] at hsettled
      rw [Exchange.retried_cons others.ne_nil] at hstate ⊢
      have hskipped : reduced.state = abridge (Exchange.retried rest ++ further)
          (world.state.1.tail, world.state.2) := by
        rw [hstate, abridge, List.cons_append, withoutMarked_true]
        rfl
      obtain ⟨other, hother, houtcome, habridged⟩ := ih hsettled hskipped
      obtain ⟨reply, script, hscript, hfailed⟩ :=
        Script.of_retryable (congrArg Prod.fst received) retryable
      obtain ⟨clock, supply, _, start⟩ := world
      obtain rfl := hscript
      exact ⟨other, hother, houtcome, habridged.cons_marked hfailed _ _⟩

/-- Attempts of which none is marked are made in the same way when the script lacks replies behind
them. -/
theorem Attempts.abridged_unmarked {left : Nat} {xs : List Exchange} {sent : Sent (Script × τ)}
    (h : c.Attempts (.scripted cleanup environment baseUrl) store left world xs sent)
    (hsteady : c.request.Steady)
    (hstate : reduced.state = abridge ((xs.map fun _ => false) ++ further) world.state) :
    ∃ other, c.attempt (.scripted cleanup environment baseUrl) store left reduced = other ∧
      other.outcome = sent.outcome ∧ Abridged (xs.map fun _ => false) further world.state
        other.events sent.events other.world.state sent.world.state := by
  induction h generalizing reduced with
  | @last left world behind outcome received final =>
      exact abridged_of_last hsteady received final hstate
  | @cut left world behind waited e cut received retryable wait =>
      obtain ⟨-, d, hd, -⟩ := World.of_wait_error wait
      cases hd
  | @again left world behind waited e rest sent received retryable wait others ih =>
      obtain ⟨-, rfl⟩ := World.of_wait_ok wait
      obtain ⟨hrequest, houtcome, hbehind⟩ := received_abridged hsteady hstate
      rcases hreceived : c.received (.scripted cleanup environment baseUrl) store reduced with
        ⟨outcome', behind'⟩
      rw [received, hreceived] at houtcome hbehind
      obtain rfl : outcome' = .error e := houtcome
      obtain ⟨other, rfl, hlast, habridged⟩ :=
        @ih { behind' with clock := behind'.clock + c.retryPolicy.interval } hbehind
      refine ⟨_, (attempt_of_again left hreceived retryable rfl).1, hlast, ?_⟩
      have hscript := congrArg (fun received => received.2.state.1) received.symm
      exact (Abridged.single hrequest hscript hbehind).append habridged

/-- A case comes to the same end when the script lacks the replies that are marked as recovered. -/
theorem attempt_abridged (hsteady : c.request.Steady) (left : Nat) :
    let course := Course.scripted cleanup environment baseUrl
    let sent := c.attempt course store left world
    let marks := Exchange.recovered (c.exchanges course store left world)
    reduced.state = abridge (marks ++ further) world.state →
    ∃ other, c.attempt course store left reduced = other ∧ other.outcome = sent.outcome ∧
      Abridged marks further world.state other.events sent.events other.world.state
        sent.world.state := by
  intro course sent marks hstate
  have hattempts : c.Attempts course store left world _ sent := attempts_attempt left world
  by_cases hused : Exchange.UsedUp (c.exchanges course store left world)
  · simp only [marks, Exchange.recovered, if_pos hused] at hstate ⊢
    exact hattempts.abridged_unmarked hsteady hstate
  · simp only [marks, Exchange.recovered, if_neg hused] at hstate ⊢
    exact hattempts.abridged_retried hsteady hused hstate left

/-! ## The turn of a case -/

/-- A judgement of a steady case does not ask the supply. -/
theorem judge_of_steady (hexpect : c.expect.Steady) (scope : Scope) (response : Response) :
    ∃ outcome snapshot, ∀ supply, c.judge scope response supply = (outcome, snapshot, supply) := by
  rcases hbody : decodeBody response.body with e | body
  · exact ⟨_, _, fun _ => by rw [judge, hbody]⟩
  · obtain ⟨outcome, hcheck⟩ := Expectation.check_of_steady body scope hexpect response.status
    exact ⟨outcome, ⟨response.status, response.headers, body⟩, fun _ => by
      simp only [judge, hbody, hcheck]⟩

/-- A case whose attempts come to the same end has the same result, apart from its duration. -/
theorem perform_abridged (hexpect : c.expect.Steady) (scenario : String) {marks : List Bool}
    {course : Course (Script × τ)}
    (houtcome : (c.send course store reduced).outcome = (c.send course store world).outcome)
    (habridged : Abridged marks further world.state (c.send course store reduced).events
      (c.send course store world).events (c.send course store reduced).world.state
      (c.send course store world).world.state) :
    let executed := c.perform course scenario store world
    ∃ other, c.perform course scenario store reduced = other ∧
      other.result.timeless = executed.result.timeless ∧ other.store = executed.store ∧
      Abridged marks further world.state other.events executed.events other.world.state
        executed.world.state := by
  intro executed
  refine ⟨_, rfl, ?_⟩
  simp only [executed, perform, houtcome]
  rcases (c.send course store world).outcome with e | response
  · exact ⟨rfl, rfl, habridged⟩
  · obtain ⟨verdict, snapshot, hjudge⟩ :=
      judge_of_steady hexpect ⟨store, course.setting.environment⟩ response
    simp only [hjudge]
    cases verdict with
    | error e => exact ⟨rfl, rfl, habridged⟩
    | ok _ => exact ⟨rfl, rfl, habridged⟩

/-- A turn leads to the same result, apart from its duration, when the script lacks the replies that
are marked as recovered. -/
theorem execute_abridged (hsteady : c.request.Steady) (hexpect : c.expect.Steady)
    (scenario : String) {past past' : List CaseResult}
    (hpast : past'.map CaseResult.timeless = past.map CaseResult.timeless) :
    let turn : Turn (Script × τ) :=
      ⟨.scripted cleanup environment baseUrl, scenario, c, past, store, world⟩
    reduced.state = abridge (Exchange.recovered turn.exchanges ++ further) world.state →
    ∃ other, c.execute turn.course scenario past' store reduced = other ∧
      other.result.timeless = turn.result.timeless ∧ other.store = turn.executed.store ∧
      Abridged (Exchange.recovered turn.exchanges) further world.state other.events turn.events
        other.world.state turn.executed.world.state := by
  intro turn hstate
  have hgate : c.gate past' = c.gate past := by rw [← gate_timeless, hpast, gate_timeless]
  rcases hfound : c.gate past with e | _
  · rw [Turn.exchanges_of_not_starts (Turn.not_starts_of_closed hfound)] at hstate ⊢
    simp only [Turn.result, Turn.events, Turn.executed, execute, hgate, turn, hfound]
    exact ⟨_, rfl, rfl, rfl, .nil hstate⟩
  · -- there is no deadline, so the case starts
    have hstarts : turn.Starts := ⟨hfound, fun d hd => by cases hd⟩
    rw [Turn.exchanges_of_starts hstarts] at hstate ⊢
    obtain ⟨other, rfl, houtcome, habridged⟩ := attempt_abridged hsteady _ hstate
    simp only [Turn.result, Turn.events, Turn.executed, execute, hgate, turn, hfound]
    exact perform_abridged hexpect scenario houtcome habridged

end Case

end ScenarioRunner

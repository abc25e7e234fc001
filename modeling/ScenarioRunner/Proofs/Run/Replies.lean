import Mathlib.Algebra.Ring.Nat
import ScenarioRunner.Proofs.Run.Retries
import ScenarioRunner.Proofs.Run.Unlimited

/-!
# Attempts and replies

Without a deadline the attempts of a case are laid down by the replies of the transport: there is
one attempt for each failure of the transport that comes first, and one more, as far as the policy
of the case goes. `Answers` says so of the exchanges of a case, with the reply and the time of each
one, and `Attempts.answers` derives it from what a single attempt does (`received_of_repliesFrom`).
The attempts can be numbered by a counter of 32 bits, which `attemptCounting` carries along: it
makes the same attempts, and its counter does not wrap around (`Attempts.attemptCounting_eq`).
-/

set_option autoImplicit false

namespace ScenarioRunner

variable {σ : Type}

/-! ## Replies -/

/-- Only a failure of the transport is worth another attempt. -/
theorem Error.isRetryable_iff (e : Error) :
    e.isRetryable = true ↔ ∃ message, e = .transport message := by
  cases e <;> simp [isRetryable]

namespace Reply

/-- The transport has failed when the reply is an error that is worth another attempt. -/
theorem failed_iff (reply : Reply) :
    reply.Failed ↔ ∃ e, reply.outcome = .error e ∧ e.isRetryable = true := by
  simp only [Failed, Error.isRetryable_iff]
  constructor
  · rintro ⟨message, h⟩
    exact ⟨_, h, message, rfl⟩
  · rintro ⟨_, h, message, rfl⟩
    exact ⟨message, h⟩

instance : DecidablePred Failed := fun reply =>
  match h : reply.outcome with
  | .ok _ => isFalse fun ⟨_, hmessage⟩ => by rw [h] at hmessage; cases hmessage
  | .error e => decidable_of_iff (e.isRetryable = true) (by simp [failed_iff, h])

theorem not_failed_default : ¬ default.Failed := fun ⟨_, h⟩ => by cases h

end Reply

namespace Script

/-- How many failures of the transport come first. -/
def leadingFailures (script : Script) : Nat := (script.takeWhile fun reply => reply.Failed).length

/-- A reply of the script, or of what comes behind its end. -/
def reply (script : Script) (k : Nat) : Reply := script.getD k .default

/-- How long one waits for the first replies. -/
def waiting (script : Script) (k : Nat) : Nat := ((script.take k).map Reply.delay).sum

variable {script : Script}

theorem leadingFailures_of_failed (h : script.next.1.Failed) :
    script.leadingFailures = script.next.2.leadingFailures + 1 := by
  cases script with
  | nil => exact absurd h Reply.not_failed_default
  | cons reply rest =>
      have hreply : reply.Failed := h
      simp [leadingFailures, next, hreply]

theorem leadingFailures_of_not_failed (h : ¬ script.next.1.Failed) :
    script.leadingFailures = 0 := by
  cases script with
  | nil => rfl
  | cons reply rest =>
      have hreply : ¬ reply.Failed := h
      simp [leadingFailures, hreply]

/-- The leading replies are failures. -/
theorem failed_of_lt {k : Nat} (h : k < script.leadingFailures) : (script.reply k).Failed := by
  induction script generalizing k with
  | nil => exact absurd h (Nat.not_lt_zero k)
  | cons first rest ih =>
      by_cases hfirst : Reply.Failed first
      · cases k with
        | zero => exact hfirst
        | succ k =>
            have hcount : leadingFailures (first :: rest) = leadingFailures rest + 1 :=
              leadingFailures_of_failed hfirst
            exact ih (by omega)
      · have hcount : leadingFailures (first :: rest) = 0 := leadingFailures_of_not_failed hfirst
        omega

theorem reply_succ (script : Script) (k : Nat) : script.reply (k + 1) = reply script.next.2 k := by
  cases script with
  | nil => rfl
  | cons first rest => rfl

theorem reply_zero (script : Script) : script.reply 0 = script.next.1 := by
  cases script with
  | nil => rfl
  | cons first rest => rfl

theorem waiting_succ (script : Script) (k : Nat) :
    script.waiting (k + 1) = script.next.1.delay + waiting script.next.2 k := by
  cases script with
  | nil => simp [waiting, next, Reply.default]
  | cons first rest => simp [waiting, next]

end Script

/-- The transport replies from a script that is part of its state, whatever is asked. -/
structure Setting.RepliesFrom (setting : Setting σ) (script : σ → Script) : Prop where
  reply_eq : ∀ request state, (setting.send request state).1 = (script state).next.1
  script_eq : ∀ request state, script (setting.send request state).2 = (script state).next.2

/-- Exchanges that take their replies from a script, from some time on: the first one is made at
once, and there is another one some time after each failure of the transport, up to a number of
attempts. -/
structure Answers (attempts interval start : Nat) (script : Script) (xs : List Exchange) :
    Prop where
  length_eq : xs.length = min attempts (1 + script.leadingFailures)
  reply_eq : ∀ (k : Nat) (x : Exchange), xs[k]? = some x → x.reply = script.reply k
  time_eq : ∀ (k : Nat) (x : Exchange), xs[k]? = some x →
    x.time = start + script.waiting k + k * interval

namespace Answers

variable {attempts interval start : Nat} {script : Script} {x : Exchange} {xs : List Exchange}

/-- An exchange is all there is if it is the last one that may be made, or is answered. -/
theorem single (hreply : x.reply = script.next.1) (htime : x.time = start)
    (hfinal : attempts = 1 ∨ 1 ≤ attempts ∧ ¬ script.next.1.Failed) :
    Answers attempts interval start script [x] where
  length_eq := by
    rcases hfinal with rfl | ⟨hattempts, hanswered⟩
    · exact (Nat.min_eq_left (Nat.le_add_right _ _)).symm
    · rw [Script.leadingFailures_of_not_failed hanswered]
      exact (Nat.min_eq_right hattempts).symm
  reply_eq := by
    rintro (_ | k) y hy
    · obtain rfl := Option.some.inj hy
      rw [hreply, Script.reply_zero]
    · cases hy
  time_eq := by
    rintro (_ | k) y hy
    · obtain rfl := Option.some.inj hy
      rw [htime, Nat.zero_mul]
      rfl
    · cases hy

/-- An exchange that fails comes before those that follow from the rest of the script. -/
theorem cons (hreply : x.reply = script.next.1) (htime : x.time = start)
    (hfailed : script.next.1.Failed)
    (h : Answers attempts interval (start + script.next.1.delay + interval) script.next.2 xs) :
    Answers (attempts + 1) interval start script (x :: xs) where
  length_eq := by
    rw [List.length_cons, h.length_eq, Script.leadingFailures_of_failed hfailed]
    omega
  reply_eq := by
    rintro (_ | k) y hy
    · obtain rfl := Option.some.inj hy
      rw [hreply, Script.reply_zero]
    · rw [h.reply_eq k y hy, Script.reply_succ]
  time_eq := by
    rintro (_ | k) y hy
    · obtain rfl := Option.some.inj hy
      rw [htime, Nat.zero_mul]
      rfl
    · rw [h.time_eq k y hy, Script.waiting_succ, Nat.succ_mul]
      omega

/-- All replies but the last one are failures of the transport. -/
theorem failed_of_succ_lt (h : Answers attempts interval start script xs) {k : Nat}
    (hx : xs[k]? = some x) (hk : k + 1 < xs.length) : x.reply.Failed := by
  rw [h.reply_eq k x hx]
  have hlength := h.length_eq
  exact Script.failed_of_lt (by omega)

end Answers

namespace Case

variable {c : Case} {course : Course σ} {store : Fields Value}

section Replies

variable {script : σ → Script} {world : World σ}

/-- Without a deadline the next reply of the script is received after its delay. -/
theorem received_of_repliesFrom (c : Case) (store : Fields Value) (world : World σ)
    (hdeadline : course.deadline = none) (hscript : course.setting.RepliesFrom script) :
    let reply := (script world.state).next.1
    (c.exchange course store world).reply = reply ∧
      (c.received course store world).1 = reply.outcome ∧
      (c.received course store world).2.clock = world.clock + reply.delay ∧
      script (c.received course store world).2.state = (script world.state).next.2 := by
  have hreply : (c.exchange course store world).reply = (script world.state).next.1 :=
    hscript.reply_eq _ _
  have htime : (c.exchange course store world).InTime course.deadline := by
    intro d hd
    rw [hdeadline] at hd
    cases hd
  obtain ⟨houtcome, hclock⟩ := received_of_inTime htime
  rw [hreply] at houtcome hclock
  exact ⟨hreply, houtcome, hclock, hscript.script_eq _ _⟩

/-- Without a deadline the attempts of a case are laid down by the replies, and the last reply is
what they lead to. -/
theorem Attempts.answers {left : Nat} {xs : List Exchange} {sent : Sent σ}
    (h : c.Attempts course store left world xs sent) (hdeadline : course.deadline = none)
    (hscript : course.setting.RepliesFrom script) :
    Answers (left + 1) c.retryPolicy.interval world.clock (script world.state) xs ∧
      ∃ x, xs.getLast? = some x ∧ sent.outcome = x.reply.outcome := by
  induction h with
  | @last left world behind outcome received final =>
      obtain ⟨hreply, houtcome, -, -⟩ :=
        received_of_repliesFrom c store world hdeadline hscript
      rw [received] at houtcome
      refine ⟨.single hreply rfl ?_, _, rfl, houtcome.trans (congrArg Reply.outcome hreply).symm⟩
      refine final.imp (congrArg (· + 1)) fun hfinal => ⟨Nat.le_add_left 1 left, fun hfailed => ?_⟩
      obtain ⟨e, he, hretry⟩ := (Reply.failed_iff _).1 hfailed
      rw [hfinal e (houtcome.trans he)] at hretry
      cases hretry
  | @cut left world behind waited e cut received retryable wait =>
      -- only a deadline cuts a wait
      obtain ⟨-, d, hd, -⟩ := World.of_wait_error wait
      rw [hdeadline] at hd
      cases hd
  | @again left world behind waited e rest sent received retryable wait further ih =>
      obtain ⟨hreply, houtcome, hclock, hrest⟩ :=
        received_of_repliesFrom c store world hdeadline hscript
      rw [received] at houtcome hclock hrest
      obtain ⟨-, rfl⟩ := World.of_wait_ok wait
      obtain ⟨hanswers, x, hlast, hx⟩ := ih
      have hfailed := (Reply.failed_iff _).2 ⟨e, houtcome.symm, retryable⟩
      refine ⟨.cons hreply rfl hfailed ?_, x, ?_, hx⟩
      · rw [← hclock, ← hrest]
        exact hanswers
      · rw [List.getLast?_cons_of_ne_nil further.ne_nil, hlast]

end Replies

/-! ## The counter of the attempts -/

/-- A counter below another one does not wrap around in counting on. -/
theorem toNat_succ_of_lt {n m : UInt32} (h : n < m) : (n + 1).toNat = n.toNat + 1 := by
  have hlt := UInt32.lt_iff_toNat_lt.1 h
  have hsize := m.toNat_lt
  rw [UInt32.toNat_add, UInt32.toNat_one]
  omega

/-- Attempts a case with a counter of 32 bits, which numbers the attempts and stops at their number.
Gives the counter of each attempt as well. -/
def attemptCounting (c : Case) (course : Course σ) (store : Fields Value) (attempts : UInt32)
    (counter : UInt32) (world : World σ) : List UInt32 × Sent σ :=
  let (request, supply) :=
    c.request.build course.baseUrl ⟨store, course.setting.environment⟩ world.supply
  let event := Event.request world.clock request
  match course.setting.sendWithin course.deadline request { world with supply } with
  | (.ok response, world) => ([counter], ⟨.ok response, [event], world⟩)
  | (.error e, world) =>
    if e.isRetryable = true ∧ counter < attempts then
      match world.wait course.deadline c.retryPolicy.interval with
      | (.error cut, world) => ([counter], ⟨.error cut, [event], world⟩)
      | (.ok _, world) =>
        let (counters, sent) := c.attemptCounting course store attempts (counter + 1) world
        (counter :: counters, { sent with events := event :: sent.events })
    else ([counter], ⟨.error e, [event], world⟩)
termination_by attempts.toNat - counter.toNat
decreasing_by
  obtain ⟨-, hlt⟩ := ‹e.isRetryable = true ∧ counter < attempts›
  have hnat := UInt32.lt_iff_toNat_lt.1 hlt
  rw [toNat_succ_of_lt hlt]
  omega

/-- The loop with a counter makes the attempts of the case. The counter numbers them from one on up
to their number at most, so that it does not wrap around. -/
theorem Attempts.attemptCounting_eq {left : Nat} {world : World σ} {xs : List Exchange}
    {sent : Sent σ} (h : c.Attempts course store left world xs sent) {attempts counter : UInt32}
    (hleft : counter.toNat + left = attempts.toNat) :
    ∃ counters, c.attemptCounting course store attempts counter world = (counters, sent) ∧
      counters.map UInt32.toNat = List.range' counter.toNat xs.length ∧
      ∀ n ∈ counters, n ≤ attempts := by
  have hle : counter ≤ attempts := UInt32.le_iff_toNat_le.2 (by omega)
  -- what is left and the counter add up to the attempts, so one loop goes on where the other does
  induction h generalizing counter with
  | @last left world behind outcome received final =>
      simp only [Case.received] at received
      refine ⟨[counter], ?_, rfl, List.forall_mem_singleton.2 hle⟩
      rw [attemptCounting]
      cases outcome with
      | ok response => simp only [received, Exchange.event, exchange]
      | error e =>
          have hstop : ¬ (e.isRetryable = true ∧ counter < attempts) := by
            rintro ⟨hretry, hlt⟩
            rcases final with rfl | hfinal
            · have hlt := UInt32.lt_iff_toNat_lt.1 hlt
              omega
            · rw [hfinal e rfl] at hretry
              cases hretry
          simp only [received, if_neg hstop, Exchange.event, exchange]
  | @cut left world behind waited e cut received retryable wait =>
      simp only [Case.received] at received
      have hlt : counter < attempts := UInt32.lt_iff_toNat_lt.2 (by omega)
      refine ⟨[counter], ?_, rfl, List.forall_mem_singleton.2 hle⟩
      rw [attemptCounting]
      simp only [received, if_pos (And.intro retryable hlt), wait, Exchange.event, exchange]
  | @again left world behind waited e rest sent received retryable wait further ih =>
      simp only [Case.received] at received
      have hlt : counter < attempts := UInt32.lt_iff_toNat_lt.2 (by omega)
      have hsucc := toNat_succ_of_lt hlt
      obtain ⟨counters, hcounting, hcounters, hall⟩ :=
        @ih (counter + 1) (by omega) (UInt32.le_iff_toNat_le.2 (by omega))
      refine ⟨counter :: counters, ?_, ?_, List.forall_mem_cons.2 ⟨hle, hall⟩⟩
      · rw [attemptCounting]
        simp only [received, if_pos (And.intro retryable hlt), wait, hcounting, Exchange.event,
          exchange]
      · rw [List.map_cons, hcounters, hsucc, List.length_cons, List.range'_succ]

end Case

/-! ## What the last reply decides -/

namespace Case

/-- What the last reply makes of a case: its outcome, and what was received. -/
def verdict (c : Case) (scope : Scope) (reply : Reply) (supply : Nat) : Outcome × Option Snapshot :=
  match reply.outcome with
  | .error e => (.failed e, none)
  | .ok response =>
    match c.judge scope response supply with
    | (.error e, snapshot, _) => (.failed e, some snapshot)
    | (.ok _, snapshot, _) => (.passed, some snapshot)

/-- A verdict on a steady case does not ask the supply. -/
theorem verdict_of_steady {c : Case} (hexpect : c.expect.Steady) (scope : Scope) (reply : Reply)
    (supply supply' : Nat) : c.verdict scope reply supply = c.verdict scope reply supply' := by
  unfold verdict
  rcases reply.outcome with e | response
  · rfl
  · obtain ⟨outcome, snapshot, hjudge⟩ := judge_of_steady hexpect scope response
    simp only [hjudge]
    cases outcome <;> rfl

end Case

namespace Turn

variable {turn : Turn σ}

/-- A case that starts is judged by the reply that its attempts lead to. -/
theorem Ends.verdict_eq {executed : Executed σ} (h : turn.Ends executed) (starts : turn.Starts)
    {reply : Reply} (hsent : turn.sent.outcome = reply.outcome) :
    (executed.result.outcome, executed.result.response) =
      turn.case.verdict turn.scope reply turn.sent.world.supply := by
  unfold Case.verdict
  rw [← hsent]
  cases h with
  | skipped closed => exact absurd starts (not_starts_of_closed closed)
  | late opened deadline passed => exact absurd starts (not_starts_of_late deadline passed)
  | unanswered starts outcome => simp [judged, outcome]
  | unreadable starts outcome body => simp [judged, outcome, Case.judge, body]
  | rejected starts outcome body check => simp [judged, outcome, Case.judge, body, check]
  | passed starts outcome body check => simp [judged, outcome, Case.judge, body, check]

/-- The requests of a steady case are all the same. -/
theorem request_eq_of_steady (hsteady : turn.case.request.Steady) {x y : Exchange}
    (hx : x ∈ turn.exchanges) (hy : y ∈ turn.exchanges) : x.request = y.request := by
  obtain ⟨request, hbuild⟩ :=
    RequestTemplate.build_of_steady hsteady turn.course.baseUrl turn.scope
  have hall : ∀ z ∈ turn.exchanges, z.request = request := by
    intro z hz
    obtain ⟨supply, hz⟩ := request_of_mem_exchanges hz
    rw [hz, hbuild]
  rw [hall x hx, hall y hy]

end Turn

namespace Suite

variable {suite : Suite} {setting : Setting σ} {world : World σ}

/-- **The replies lay down the attempts of a case.** In a run without a deadline a case with an open
gate sends one request for each failure of the transport that comes first, and one more, up to the
number of its attempts. All replies but the last one are failures of the transport, and the last one
decides the outcome. A request is sent after the delays of the replies before it and the waits
behind them. A counter of 32 bits numbers the attempts up to their number. A case without fresh
identifiers sends the same request each time. -/
theorem replies_lay_down_attempts {script : σ → Script} (hlimit : setting.limit = none)
    (hscript : setting.RepliesFrom script) {i : Nat} {turn : Turn σ}
    (hturn : (suite.turns setting world)[i]? = some turn)
    (hopen : turn.case.gate turn.past = .ok ())
    (hattempts : 1 ≤ turn.case.retryPolicy.attempts) :
    let c := turn.case
    let replies := script turn.world.state
    let xs := turn.exchanges
    (∃ report, (suite.run setting world).1 = .ok report ∧
      report.results[i]? = some turn.result) ∧
    turn.events = xs.map Exchange.event ∧
    xs.length = min c.retryPolicy.attempts (1 + replies.leadingFailures) ∧
    (c.retry = none → xs.length = 1) ∧
    (∀ (k : Nat) (x : Exchange), xs[k]? = some x →
      x.reply = replies.reply k ∧
      x.time = turn.world.clock + replies.waiting k + k * c.retryPolicy.interval ∧
      (k + 1 < xs.length → x.reply.Failed)) ∧
    (∃ x, xs.getLast? = some x ∧
      (turn.result.outcome, turn.result.response) =
        c.verdict turn.scope x.reply turn.sent.world.supply ∧
      (c.expect.Steady → ∀ supply, (turn.result.outcome, turn.result.response) =
        c.verdict turn.scope x.reply supply)) ∧
    (∀ attempts : UInt32, attempts.toNat = c.retryPolicy.attempts →
      ∃ counters, c.attemptCounting turn.course turn.store attempts 1 turn.world =
          (counters, turn.sent) ∧
        counters.map UInt32.toNat = List.range' 1 xs.length ∧ ∀ n ∈ counters, n ≤ attempts) ∧
    (c.request.Steady → ∀ x ∈ xs, ∀ y ∈ xs, x.request = y.request) := by
  intro c replies xs
  obtain ⟨-, hcourse, -⟩ := turn_eq hturn
  have hdeadline : turn.course.deadline = none := by rw [hcourse, course, hlimit]; rfl
  have hsetting : turn.course.setting.RepliesFrom script := by rw [hcourse]; exact hscript
  have hstarts : turn.Starts := by
    refine ⟨hopen, fun d hd => ?_⟩
    rw [hdeadline] at hd
    cases hd
  have hmade := Turn.attempts_of_starts hstarts
  obtain ⟨hanswers, x, hlast, hsent⟩ := hmade.answers hdeadline hsetting
  -- the first attempt is always made, so one less than their number is left behind it
  rw [Nat.sub_add_cancel hattempts] at hanswers
  have hrun := run_of_setup (setup_of_turn hturn)
  have hverdict : (turn.result.outcome, turn.result.response) = _ :=
    turn.ends.verdict_eq hstarts hsent
  refine ⟨⟨_, hrun, result_of_turn hrun hturn⟩, turn.events_eq, hanswers.length_eq, ?_, ?_,
    ⟨x, hlast, hverdict, fun hsteady supply => ?_⟩, ?_, ?_⟩
  · intro hretry
    have hone : c.retryPolicy.attempts = 1 := by rw [Case.retryPolicy, hretry]; rfl
    have hlength := hanswers.length_eq
    rw [hone] at hlength
    exact hlength.trans (Nat.min_eq_left (Nat.le_add_right _ _))
  · intro k x hx
    exact ⟨hanswers.reply_eq k x hx, hanswers.time_eq k x hx, hanswers.failed_of_succ_lt hx⟩
  · rw [hverdict, Case.verdict_of_steady hsteady]
  · intro attempts hnumber
    refine hmade.attemptCounting_eq ?_
    rw [hnumber, UInt32.toNat_one]
    exact Nat.add_sub_cancel' hattempts
  · intro hsteady x hx y hy
    exact Turn.request_eq_of_steady hsteady hx hy

set_option maxRecDepth 20000 in
/-- The order is created by the second attempt, which is made when the first one has failed after 5
milliseconds and 10 more have passed. -/
theorem order_attempted_twice :
    Orders.setting.unlimited.limit = none ∧ Orders.setting.unlimited.RepliesFrom id ∧
      ∃ turn, (Orders.suite.turns Orders.setting.unlimited Orders.world)[0]? = some turn ∧
        turn.case.gate turn.past = .ok () ∧ 1 ≤ turn.case.retryPolicy.attempts ∧
        turn.result.outcome.isPassed = true ∧ turn.exchanges.length = 2 ∧
        (∀ x ∈ turn.exchanges[0]?, x.time = 1 ∧ x.reply.Failed) ∧
        (∀ x ∈ turn.exchanges[1]?, x.time = 16) ∧
        (turn.case.attemptCounting turn.course turn.store 2 1 turn.world).1.map UInt32.toNat =
          [1, 2] := by
  have hlimit : Orders.setting.unlimited.limit = none := rfl
  have hscript : Orders.setting.unlimited.RepliesFrom id := ⟨fun _ _ => rfl, fun _ _ => rfl⟩
  have hsetup : (Orders.suite.setupPhase Orders.setting.unlimited Orders.world).1 = none := by
    decide +kernel
  obtain ⟨turn, hturn, -⟩ := turn_of_case (run_of_setup hsetup) (i := 0) rfl
  have hfacts : ((Orders.suite.turns Orders.setting.unlimited Orders.world)[0]?.map fun turn =>
      (turn.case.dependency, turn.case.retryPolicy, turn.result.outcome.isPassed,
        turn.world.clock, turn.world.state.leadingFailures, turn.world.state.waiting 1)) =
      some (none, ⟨2, 10⟩, true, 1, 1, 5) := by decide +kernel
  rw [hturn] at hfacts
  simp only [Option.map_some, Option.some.injEq, Prod.mk.injEq] at hfacts
  obtain ⟨hdependency, hpolicy, hpassed, hclock, hfailures, hwaiting⟩ := hfacts
  have hopen : turn.case.gate turn.past = .ok () := by rw [Case.gate, hdependency]
  have hattempts : 1 ≤ turn.case.retryPolicy.attempts := by rw [hpolicy]; decide
  obtain ⟨-, -, hlength, -, hexchanges, -, hcounting, -⟩ :=
    replies_lay_down_attempts hlimit hscript hturn hopen hattempts
  simp only [hpolicy, id_eq, hfailures] at hlength
  obtain ⟨counters, hcounters, hnumbers, -⟩ := hcounting 2 (by rw [hpolicy]; rfl)
  refine ⟨hlimit, hscript, turn, hturn, hopen, hattempts, hpassed, hlength, ?_, ?_, ?_⟩
  · intro x hx
    obtain ⟨-, htime, hfailed⟩ := hexchanges 0 x hx
    refine ⟨?_, hfailed (by rw [hlength]; decide)⟩
    rw [htime, hclock, Script.waiting, Nat.zero_mul]
    rfl
  · intro x hx
    obtain ⟨-, htime, -⟩ := hexchanges 1 x hx
    rw [htime, hclock, id_eq, hwaiting, hpolicy]
    rfl
  · rw [hcounters, hnumbers, hlength]
    rfl

end Suite

end ScenarioRunner

import ScenarioRunner.Run.Case

/-!
# The exchanges of a case

An exchange is one attempt of a case: a request, the time at which it is sent, and the reply that
the transport has for it. `Case.exchanges` lists the exchanges of a case, and `Case.Attempts` says
in three constructors how they follow each other. The events of a case are the requests of its
exchanges (`events_attempt`), and it ends with a response exactly when its last exchange brings one
in time (`outcome_attempt_eq_ok_iff`).
-/

set_option autoImplicit false

namespace ScenarioRunner

variable {σ : Type}

/-- An attempt of a case, with the reply of the transport. -/
structure Exchange where
  /-- When the request is sent. -/
  time : Nat
  request : Request
  reply : Reply

namespace Exchange

/-- What an exchange does to the surroundings. -/
def event (exchange : Exchange) : Event := .request exchange.time exchange.request

/-- The wait for the reply ends before the deadline or at it. -/
def InTime (deadline : Option Nat) (exchange : Exchange) : Prop :=
  ∀ d, deadline = some d → exchange.time + exchange.reply.delay ≤ d

/-- The reply is a response, and it is in time. -/
def Brings (deadline : Option Nat) (exchange : Exchange) (response : Response) : Prop :=
  exchange.InTime deadline ∧ exchange.reply.outcome = .ok response

end Exchange

/-- A wait ends by itself exactly when it ends at the deadline at the latest. -/
theorem elapse_fst_eq_true_iff (deadline : Option Nat) (clock delay : Nat) :
    (elapse deadline clock delay).1 = true ↔ ∀ d, deadline = some d → clock + delay ≤ d := by
  cases deadline with
  | none => simp [elapse]
  | some d =>
      by_cases hd : clock + delay ≤ d
      · simp [elapse, hd]
      · simp [elapse, hd]

namespace Case

variable (c : Case) (course : Course σ) (store : Fields Value)

/-- The exchange of the first attempt in a world. -/
def exchange (world : World σ) : Exchange :=
  let request := (c.request.build course.baseUrl ⟨store, course.setting.environment⟩ world.supply).1
  ⟨world.clock, request, (course.setting.send request world.state).1⟩

/-- What the first attempt in a world gets to see, and the world behind it. -/
def received (world : World σ) : Except Error Response × World σ :=
  let built := c.request.build course.baseUrl ⟨store, course.setting.environment⟩ world.supply
  course.setting.sendWithin course.deadline built.1 { world with supply := built.2 }

/-- The exchanges of a case in a world, with some attempts left behind the first one. -/
def exchanges : Nat → World σ → List Exchange
  | 0, world => [c.exchange course store world]
  | left + 1, world =>
    match c.received course store world with
    | (.ok _, _) => [c.exchange course store world]
    | (.error e, behind) =>
      if e.isRetryable then
        match behind.wait course.deadline c.retryPolicy.interval with
        | (.error _, _) => [c.exchange course store world]
        | (.ok _, waited) => c.exchange course store world :: exchanges left waited
      else [c.exchange course store world]

/-- How exchanges follow each other, with some attempts left behind the first one. -/
inductive Attempts : Nat → World σ → List Exchange → Sent σ → Prop where
  /-- The attempt is not followed by another one. -/
  | last {left : Nat} {world behind : World σ} {outcome : Except Error Response}
      (received : c.received course store world = (outcome, behind))
      (final : left = 0 ∨ ∀ e, outcome = .error e → e.isRetryable = false) :
      Attempts left world [c.exchange course store world]
        ⟨outcome, [(c.exchange course store world).event], behind⟩
  /-- The wait for the next attempt is cut at the deadline. -/
  | cut {left : Nat} {world behind waited : World σ} {e cut : Error}
      (received : c.received course store world = (.error e, behind))
      (retryable : e.isRetryable = true)
      (wait : behind.wait course.deadline c.retryPolicy.interval = (.error cut, waited)) :
      Attempts (left + 1) world [c.exchange course store world]
        ⟨.error cut, [(c.exchange course store world).event], waited⟩
  /-- The attempt is followed by another one. -/
  | again {left : Nat} {world behind waited : World σ} {e : Error} {rest : List Exchange}
      {sent : Sent σ}
      (received : c.received course store world = (.error e, behind))
      (retryable : e.isRetryable = true)
      (wait : behind.wait course.deadline c.retryPolicy.interval = (.ok (), waited))
      (further : Attempts left waited rest sent) :
      Attempts (left + 1) world (c.exchange course store world :: rest)
        { sent with events := (c.exchange course store world).event :: sent.events }

variable {c course store}

/-- An attempt that is not followed by another one is all there is. -/
theorem attempt_of_last (left : Nat) {world behind : World σ} {outcome : Except Error Response}
    (received : c.received course store world = (outcome, behind))
    (final : left = 0 ∨ ∀ e, outcome = .error e → e.isRetryable = false) :
    c.attempt course store left world =
        ⟨outcome, [(c.exchange course store world).event], behind⟩ ∧
      c.exchanges course store left world = [c.exchange course store world] := by
  have hsend := received
  simp only [Case.received] at hsend
  cases outcome with
  | ok response =>
      cases left with
      | zero => exact ⟨by simp [attempt, hsend, Exchange.event, exchange], rfl⟩
      | succ left =>
          exact ⟨by simp [attempt, hsend, Exchange.event, exchange], by simp [exchanges, received]⟩
  | error e =>
      cases left with
      | zero => exact ⟨by simp [attempt, hsend, Exchange.event, exchange], rfl⟩
      | succ left =>
          have he : e.isRetryable = false := final.resolve_left (by omega) e rfl
          exact ⟨by simp [attempt, hsend, he, Exchange.event, exchange],
            by simp [exchanges, received, he]⟩

/-- An attempt whose wait for the next one is cut is all there is. -/
theorem attempt_of_cut (left : Nat) {world behind waited : World σ} {e cut : Error}
    (received : c.received course store world = (.error e, behind))
    (retryable : e.isRetryable = true)
    (wait : behind.wait course.deadline c.retryPolicy.interval = (.error cut, waited)) :
    c.attempt course store (left + 1) world =
        ⟨.error cut, [(c.exchange course store world).event], waited⟩ ∧
      c.exchanges course store (left + 1) world = [c.exchange course store world] := by
  have hsend := received
  simp only [Case.received] at hsend
  constructor
  · rw [attempt]
    simp only [hsend, retryable, wait, if_true, Exchange.event, exchange]
  · rw [exchanges]
    simp only [received, retryable, wait, if_true]

/-- An attempt after whose wait there is another one comes before those that follow. -/
theorem attempt_of_again (left : Nat) {world behind waited : World σ} {e : Error}
    (received : c.received course store world = (.error e, behind))
    (retryable : e.isRetryable = true)
    (wait : behind.wait course.deadline c.retryPolicy.interval = (.ok (), waited)) :
    c.attempt course store (left + 1) world =
        { c.attempt course store left waited with
          events := (c.exchange course store world).event ::
            (c.attempt course store left waited).events } ∧
      c.exchanges course store (left + 1) world =
        c.exchange course store world :: c.exchanges course store left waited := by
  have hsend := received
  simp only [Case.received] at hsend
  constructor
  · rw [attempt]
    simp only [hsend, retryable, wait, if_true, Exchange.event, exchange]
  · rw [exchanges]
    simp only [received, retryable, wait, if_true]

/-- The attempts of a case follow each other as `Attempts` says. -/
theorem attempts_attempt (left : Nat) (world : World σ) :
    c.Attempts course store left world (c.exchanges course store left world)
      (c.attempt course store left world) := by
  -- each further attempt is made in the world behind the wait, so the world is general
  induction left generalizing world with
  | zero =>
      rcases hr : c.received course store world with ⟨outcome, behind⟩
      obtain ⟨hattempt, hexchanges⟩ := attempt_of_last 0 hr (.inl rfl)
      rw [hattempt, hexchanges]
      exact .last hr (.inl rfl)
  | succ left ih =>
      rcases hr : c.received course store world with ⟨outcome, behind⟩
      by_cases hfinal : ∀ e, outcome = .error e → e.isRetryable = false
      · obtain ⟨hattempt, hexchanges⟩ := attempt_of_last (left + 1) hr (.inr hfinal)
        rw [hattempt, hexchanges]
        exact .last hr (.inr hfinal)
      · -- a retryable error: whether there is another attempt is up to the wait
        obtain ⟨e, he⟩ := Classical.not_forall.1 hfinal
        obtain ⟨rfl, hretry⟩ := Classical.not_imp.1 he
        rw [Bool.not_eq_false] at hretry
        rcases hw : behind.wait course.deadline c.retryPolicy.interval with ⟨ended, waited⟩
        cases ended with
        | error cut =>
            obtain ⟨hattempt, hexchanges⟩ := attempt_of_cut left hr hretry hw
            rw [hattempt, hexchanges]
            exact .cut hr hretry hw
        | ok _ =>
            obtain ⟨hattempt, hexchanges⟩ := attempt_of_again left hr hretry hw
            rw [hattempt, hexchanges]
            exact .again hr hretry hw (ih waited)

/-! ## What the exchanges say of the attempts -/

/-- A case gets to see the reply of an exchange, unless the wait for it is cut. -/
theorem received_fst (world : World σ) :
    (c.received course store world).1 =
      if (elapse course.deadline (c.exchange course store world).time
          (c.exchange course store world).reply.delay).1 then
        (c.exchange course store world).reply.outcome
      else .error deadlineExceeded := rfl

/-- A case gets to see a response exactly when the exchange brings it. -/
theorem received_eq_ok_iff (world : World σ) (response : Response) :
    (c.received course store world).1 = .ok response ↔
      (c.exchange course store world).Brings course.deadline response := by
  rw [received_fst, Exchange.Brings, Exchange.InTime, ← elapse_fst_eq_true_iff]
  cases (elapse course.deadline (c.exchange course store world).time
      (c.exchange course store world).reply.delay).1 with
  | true => simp
  | false => simp

namespace Attempts

variable {left : Nat} {world : World σ} {xs : List Exchange} {sent : Sent σ}

theorem ne_nil (h : c.Attempts course store left world xs sent) : xs ≠ [] := by
  cases h <;> exact List.cons_ne_nil _ _

/-- The events are the requests of the exchanges. -/
theorem events_eq (h : c.Attempts course store left world xs sent) :
    sent.events = xs.map Exchange.event := by
  induction h with
  | last received final => rfl
  | cut received retryable wait => rfl
  | again received retryable wait further ih => simp only [ih, List.map_cons]

/-- Each request is built from the template of the case with the variables that the case finds. -/
theorem request_eq (h : c.Attempts course store left world xs sent) :
    ∀ x ∈ xs, ∃ supply, x.request =
      (c.request.build course.baseUrl ⟨store, course.setting.environment⟩ supply).1 := by
  induction h with
  | last received final => exact List.forall_mem_singleton.2 ⟨_, rfl⟩
  | cut received retryable wait => exact List.forall_mem_singleton.2 ⟨_, rfl⟩
  | again received retryable wait further ih => exact List.forall_mem_cons.2 ⟨⟨_, rfl⟩, ih⟩

/-- The attempts lead to a response exactly when the last one brings it. -/
theorem outcome_eq_ok_iff (h : c.Attempts course store left world xs sent) (response : Response) :
    sent.outcome = .ok response ↔
      ∃ x, xs.getLast? = some x ∧ x.Brings course.deadline response := by
  induction h with
  | @last left world behind outcome received final =>
      rw [← show (c.received course store world).1 = outcome by rw [received]]
      rw [received_eq_ok_iff]
      simp
  | @cut left world behind waited e cut received retryable wait =>
      -- the wait is only made after an error, which is no response either
      have hnone : ¬ (c.exchange course store world).Brings course.deadline response := by
        rw [← received_eq_ok_iff, received]
        simp
      simp [hnone]
  | @again left world behind waited e rest sent received retryable wait further ih =>
      -- since there are further exchanges, the last one is among them
      rw [ih, List.getLast?_cons, List.getLast?_eq_some_getLast further.ne_nil]
      simp

end Attempts

end Case

end ScenarioRunner

import ScenarioRunner.Proofs.Run.History

/-!
# The clock of a run

Time passes while a reply is awaited and between two attempts, and in no other way. A wait ends by
itself, at the deadline at the latest, or it is cut at the deadline. From what one wait does to the
clock follows what the attempts of a case do to it (`Attempts.clock_le`, `Attempts.le_deadline`),
and so a turn and all the cases of a run: the clock never goes back, and a deadline that has not
passed yet is never exceeded.
-/

set_option autoImplicit false

namespace ScenarioRunner

variable {σ : Type}

/-! ## One wait -/

/-- A wait that ends by itself takes its time. -/
theorem elapse_of_le {deadline : Option Nat} {clock delay : Nat}
    (h : ∀ d, deadline = some d → clock + delay ≤ d) :
    elapse deadline clock delay = (true, clock + delay) := by
  cases deadline with
  | none => rfl
  | some d => exact if_pos (h d rfl)

/-- A wait that would end after the deadline is cut there. -/
theorem elapse_of_lt {d clock delay : Nat} (h : d < clock + delay) :
    elapse (some d) clock delay = (false, max clock d) :=
  if_neg (Nat.not_le.2 h)

/-- A wait that is not in time has a deadline before its end. -/
theorem exists_lt_of_not_le {deadline : Option Nat} {time : Nat}
    (h : ¬ ∀ d, deadline = some d → time ≤ d) : ∃ d, deadline = some d ∧ d < time := by
  obtain ⟨d, hd⟩ := Classical.not_forall.1 h
  obtain ⟨hdeadline, hlt⟩ := Classical.not_imp.1 hd
  exact ⟨d, hdeadline, Nat.not_le.1 hlt⟩

namespace World

variable {deadline : Option Nat} {delay : Nat} {world waited : World σ}

/-- A wait in the world that is not cut ends at the deadline at the latest. -/
theorem of_wait_ok (h : world.wait deadline delay = (.ok (), waited)) :
    (∀ d, deadline = some d → world.clock + delay ≤ d) ∧
      waited = { world with clock := world.clock + delay } := by
  by_cases hle : ∀ d, deadline = some d → world.clock + delay ≤ d
  · simp only [wait, elapse_of_le hle, if_true, Prod.mk.injEq, true_and] at h
    exact ⟨hle, h.symm⟩
  · obtain ⟨d, rfl, hlt⟩ := exists_lt_of_not_le hle
    simp [wait, elapse_of_lt hlt] at h

/-- A wait in the world that is cut would have ended after the deadline. -/
theorem of_wait_error {cut : Error} (h : world.wait deadline delay = (.error cut, waited)) :
    cut = deadlineExceeded ∧ ∃ d, deadline = some d ∧ d < world.clock + delay ∧
      waited = { world with clock := max world.clock d } := by
  by_cases hle : ∀ d, deadline = some d → world.clock + delay ≤ d
  · simp [wait, elapse_of_le hle] at h
  · obtain ⟨d, rfl, hlt⟩ := exists_lt_of_not_le hle
    simp only [wait, elapse_of_lt hlt, Bool.false_eq_true, if_false, Prod.mk.injEq,
      Except.error.injEq] at h
    exact ⟨h.1.symm, d, rfl, hlt, h.2.symm⟩

end World

/-! ## One attempt -/

namespace Exchange

/-- The reply is an error after which another attempt may be made. -/
def Retryable (exchange : Exchange) : Prop :=
  ∃ e, exchange.reply.outcome = .error e ∧ e.isRetryable = true

instance (deadline : Option Nat) (exchange : Exchange) : Decidable (exchange.InTime deadline) :=
  decidable_of_iff (∀ d ∈ deadline, exchange.time + exchange.reply.delay ≤ d) Iff.rfl

instance (exchange : Exchange) : Decidable exchange.Retryable :=
  match h : exchange.reply.outcome with
  | .ok _ => isFalse fun ⟨_, he, _⟩ => by rw [h] at he; cases he
  | .error e =>
    if hretry : e.isRetryable = true then isTrue ⟨e, h, hretry⟩
    else isFalse fun ⟨_, he, hr⟩ => by
      rw [h] at he
      cases he
      exact hretry hr

end Exchange

namespace Case

variable {c : Case} {course : Course σ} {store : Fields Value}

/-- A reply that is in time is received after its delay. -/
theorem received_of_inTime {world : World σ}
    (h : (c.exchange course store world).InTime course.deadline) :
    (c.received course store world).1 = (c.exchange course store world).reply.outcome ∧
      (c.received course store world).2.clock =
        world.clock + (c.exchange course store world).reply.delay := by
  have helapse : elapse course.deadline world.clock (c.exchange course store world).reply.delay =
      (true, world.clock + (c.exchange course store world).reply.delay) := elapse_of_le h
  unfold exchange at helapse
  constructor
  · simp only [received, Setting.sendWithin, helapse, if_true, exchange]
  · simp only [received, Setting.sendWithin, helapse, exchange]

/-- The wait for a reply that is not in time is cut at the deadline. -/
theorem received_of_not_inTime {world : World σ}
    (h : ¬ (c.exchange course store world).InTime course.deadline) :
    (c.received course store world).1 = .error deadlineExceeded ∧
      ∃ d, course.deadline = some d ∧
        (c.received course store world).2.clock = max world.clock d := by
  obtain ⟨d, hd, hlt⟩ := exists_lt_of_not_le h
  have helapse : elapse course.deadline world.clock (c.exchange course store world).reply.delay =
      (false, max world.clock d) := by rw [hd]; exact elapse_of_lt hlt
  unfold exchange at helapse
  refine ⟨?_, d, hd, ?_⟩
  · simp only [received, Setting.sendWithin, helapse, Bool.false_eq_true, if_false]
  · simp only [received, Setting.sendWithin, helapse]

/-- A retryable error is no cut wait, so its reply is in time. -/
theorem inTime_of_retryable {world behind : World σ} {e : Error}
    (received : c.received course store world = (.error e, behind))
    (retryable : e.isRetryable = true) :
    (c.exchange course store world).InTime course.deadline ∧
      (c.exchange course store world).Retryable := by
  by_cases h : (c.exchange course store world).InTime course.deadline
  · have houtcome := (received_of_inTime h).1
    rw [received] at houtcome
    exact ⟨h, e, houtcome.symm, retryable⟩
  · have hcut := (received_of_not_inTime h).1
    rw [received] at hcut
    cases hcut
    cases retryable

/-- The clock does not go back while a reply is awaited. -/
theorem clock_le_received (c : Case) (course : Course σ) (store : Fields Value) (world : World σ) :
    world.clock ≤ (c.received course store world).2.clock := by
  by_cases h : (c.exchange course store world).InTime course.deadline
  · rw [(received_of_inTime h).2]
    omega
  · obtain ⟨-, d, -, hclock⟩ := received_of_not_inTime h
    rw [hclock]
    omega

/-- A deadline that has not passed is not exceeded while a reply is awaited. -/
theorem clock_received_le (c : Case) (store : Fields Value) {world : World σ} {d : Nat}
    (hd : course.deadline = some d) (hstart : world.clock ≤ d) :
    (c.received course store world).2.clock ≤ d := by
  by_cases h : (c.exchange course store world).InTime course.deadline
  · rw [(received_of_inTime h).2]
    exact h d hd
  · obtain ⟨-, d', hd', hclock⟩ := received_of_not_inTime h
    rw [hd] at hd'
    cases hd'
    rw [hclock]
    omega

/-! ## All attempts of a case -/

namespace Attempts

variable {left : Nat} {world : World σ} {xs : List Exchange} {sent : Sent σ}

/-- The first attempt is made at once. -/
theorem head_time (h : c.Attempts course store left world xs sent) :
    ∀ x ∈ xs.head?, x.time = world.clock := by
  cases h <;> exact fun x hx => Option.some.inj hx ▸ rfl

/-- The clock does not go back during the attempts. -/
theorem clock_le (h : c.Attempts course store left world xs sent) :
    world.clock ≤ sent.world.clock := by
  induction h with
  | @last left world behind outcome received final =>
      have hle := c.clock_le_received course store world
      rw [received] at hle
      exact hle
  | @cut left world behind waited e cut received retryable wait =>
      have hle := c.clock_le_received course store world
      rw [received] at hle
      obtain ⟨-, d, -, -, rfl⟩ := World.of_wait_error wait
      exact Nat.le_trans hle (Nat.le_max_left _ _)
  | @again left world behind waited e rest sent received retryable wait further ih =>
      have hle := c.clock_le_received course store world
      rw [received] at hle
      obtain ⟨-, rfl⟩ := World.of_wait_ok wait
      exact Nat.le_trans (Nat.le_trans hle (Nat.le_add_right _ _)) ih

/-- Attempts that begin before a deadline or at it are all made by then, and end by then. -/
theorem le_deadline (h : c.Attempts course store left world xs sent) {d : Nat}
    (hd : course.deadline = some d) (hstart : world.clock ≤ d) :
    (∀ x ∈ xs, x.time ≤ d) ∧ sent.world.clock ≤ d := by
  induction h with
  | @last left world behind outcome received final =>
      have hle := c.clock_received_le store hd hstart
      rw [received] at hle
      exact ⟨List.forall_mem_singleton.2 hstart, hle⟩
  | @cut left world behind waited e cut received retryable wait =>
      have hle := c.clock_received_le store hd hstart
      rw [received] at hle
      obtain ⟨-, d', hd', -, rfl⟩ := World.of_wait_error wait
      rw [hd] at hd'
      cases hd'
      exact ⟨List.forall_mem_singleton.2 hstart, Nat.max_le.2 ⟨hle, Nat.le_refl _⟩⟩
  | @again left world behind waited e rest sent received retryable wait further ih =>
      -- the wait before the next attempt was not cut, so that attempt is not late either
      obtain ⟨hle, rfl⟩ := World.of_wait_ok wait
      obtain ⟨htimes, hclock⟩ := ih (hle d hd)
      exact ⟨List.forall_mem_cons.2 ⟨hstart, htimes⟩, hclock⟩

end Attempts

end Case

/-! ## A turn, and all cases -/

namespace Turn

variable {turn : Turn σ} {executed : Executed σ}

/-- The exchanges of a case that starts are its attempts. -/
theorem attempts_of_starts (starts : turn.Starts) :
    turn.case.Attempts turn.course turn.store (turn.case.retryPolicy.attempts - 1) turn.world
      turn.exchanges turn.sent := by
  rw [exchanges_of_starts starts]
  exact Case.attempts_attempt _ _

/-- Time passes in a turn only while the case is sent. -/
theorem Ends.clock_eq (h : turn.Ends executed) :
    executed.world.clock = turn.world.clock ∨
      turn.Starts ∧ executed.world.clock = turn.sent.world.clock := by
  cases h with
  | skipped closed => exact .inl rfl
  | late opened deadline passed => exact .inl rfl
  | unanswered starts outcome => exact .inr ⟨starts, rfl⟩
  | unreadable starts outcome body => exact .inr ⟨starts, rfl⟩
  | rejected starts outcome body check => exact .inr ⟨starts, rfl⟩
  | passed starts outcome body check => exact .inr ⟨starts, rfl⟩

/-- The clock does not go back in a turn. -/
theorem clock_le (turn : Turn σ) : turn.world.clock ≤ turn.executed.world.clock := by
  rcases turn.ends.clock_eq with hclock | ⟨hstarts, hclock⟩
  · exact Nat.le_of_eq hclock.symm
  · rw [hclock]
    exact (attempts_of_starts hstarts).clock_le

/-- A turn ends before the deadline or at it, or takes no time. -/
theorem clock_executed_le (turn : Turn σ) {d : Nat} (hd : turn.course.deadline = some d) :
    turn.executed.world.clock ≤ max d turn.world.clock := by
  rcases turn.ends.clock_eq with hclock | ⟨hstarts, hclock⟩
  · rw [hclock]
    exact Nat.le_max_right _ _
  · rw [hclock]
    have hstart := Nat.le_of_lt (hstarts.2 d hd)
    exact Nat.le_trans ((attempts_of_starts hstarts).le_deadline hd hstart).2 (Nat.le_max_left _ _)

end Turn

namespace Case

variable {course : Course σ}

/-- The clock does not go back while cases run. -/
theorem clock_le_executeAll (past : List CaseResult) (store : Fields Value)
    (cases : List (String × Case)) (world : World σ) :
    world.clock ≤ (executeAll course past store cases world).world.clock := by
  induction cases generalizing past store world with
  | nil => exact Nat.le_refl _
  | cons label rest ih =>
      have hturn := Turn.clock_le ⟨course, label.1, label.2, past, store, world⟩
      exact Nat.le_trans hturn (ih _ _ _)

/-- Cases end before the deadline or at it, unless it has passed before them. -/
theorem clock_executeAll_le (past : List CaseResult) (store : Fields Value)
    (cases : List (String × Case)) (world : World σ) {d : Nat} (hd : course.deadline = some d) :
    (executeAll course past store cases world).world.clock ≤ max d world.clock := by
  induction cases generalizing past store world with
  | nil => exact Nat.le_max_right _ _
  | cons label rest ih =>
      have hturn :=
        Turn.clock_executed_le ⟨course, label.1, label.2, past, store, world⟩ hd
      exact Nat.le_trans (ih _ _ _) (Nat.max_le.2 ⟨Nat.le_max_left _ _, hturn⟩)

end Case

namespace Suite

variable {suite : Suite} {setting : Setting σ} {world : World σ}

/-- The next case finds the world that a turn leaves behind. -/
theorem world_casePhaseAt_succ {i : Nat} {turn : Turn σ}
    (hturn : (suite.turns setting world)[i]? = some turn) :
    (suite.casePhaseAt setting world (i + 1)).world = turn.executed.world := by
  rw [turns_of_setup (setup_of_turn hturn), Case.getElem?_turns] at hturn
  obtain ⟨label, hlabel, rfl⟩ := Option.map_eq_some_iff.1 hturn
  unfold casePhaseAt
  rw [List.take_add_one, hlabel, Option.toList_some, Case.executeAll_append]
  rfl

/-- The clock does not go back from one case to a later one. -/
theorem clock_casePhaseAt_le (suite : Suite) (setting : Setting σ) (world : World σ) {i j : Nat}
    (h : i ≤ j) : (suite.casePhaseAt setting world i).world.clock ≤
      (suite.casePhaseAt setting world j).world.clock := by
  obtain ⟨n, rfl⟩ := Nat.exists_eq_add_of_le h
  unfold casePhaseAt
  rw [List.take_add, Case.executeAll_append]
  exact Case.clock_le_executeAll _ _ _ _

end Suite

end ScenarioRunner

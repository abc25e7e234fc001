import ScenarioRunner.Proofs.Run.Phases
import ScenarioRunner.Proofs.Template.Steady

/-!
# Runs on scripts

A transport that replies from a script takes one reply for each request, whatever the request is. So
marks on the requests of a run are marks on its replies as well, and the run can be set beside one
whose script lacks the marked replies. A stretch of the run is abridged in the other one if exactly
its marked requests are missing there (`Abridged`); stretches that follow each other are abridged as
a whole (`Abridged.append`). An action takes no marked reply, so that actions with steady requests
do the same in both runs (`performUntilFailure_abridged`, `performAll_abridged`).
-/

set_option autoImplicit false

namespace ScenarioRunner

/-! ## Leaving out what is marked -/

section Marks

variable {α : Type}

/-- Leaves out the items that are marked. All items behind the last mark stay. -/
def withoutMarked : List Bool → List α → List α
  | [], items => items
  | _ :: _, [] => []
  | true :: marks, _ :: items => withoutMarked marks items
  | false :: marks, item :: items => item :: withoutMarked marks items

theorem withoutMarked_nil (marks : List Bool) : withoutMarked marks ([] : List α) = [] := by
  cases marks <;> rfl

/-- A marked item is left out, if there is one. -/
theorem withoutMarked_true (marks : List Bool) (items : List α) :
    withoutMarked (true :: marks) items = withoutMarked marks items.tail := by
  cases items with
  | nil => rw [List.tail_nil, withoutMarked_nil, withoutMarked_nil]
  | cons item items => rfl

/-- Without marks all items stay. -/
theorem withoutMarked_map_false {β : Type} (others : List β) (items : List α) :
    withoutMarked (others.map fun _ => false) items = items := by
  induction others generalizing items with
  | nil => rfl
  | cons other others ih =>
      cases items with
      | nil => rfl
      | cons item items => rw [List.map_cons, withoutMarked, ih]

/-- Marks on some items and on others leave out what they leave out of either. -/
theorem withoutMarked_append {marks : List Bool} {items : List α}
    (h : marks.length = items.length) (marks' : List Bool) (items' : List α) :
    withoutMarked (marks ++ marks') (items ++ items') =
      withoutMarked marks items ++ withoutMarked marks' items' := by
  induction marks generalizing items with
  | nil =>
      obtain rfl := List.length_eq_zero_iff.1 h.symm
      rfl
  | cons mark marks ih =>
      obtain ⟨item, items, rfl⟩ := List.exists_cons_of_length_eq_add_one h.symm
      have hrest := ih (Nat.succ.inj h)
      cases mark with
      | true => exact hrest
      | false => exact congrArg (item :: ·) hrest

/-- A script whose next reply is not marked gives it, marked replies or not. -/
theorem Script.next_withoutMarked (marks : List Bool) (script : Script) :
    Script.next (withoutMarked (false :: marks) script) =
      (script.next.1, withoutMarked marks script.next.2) := by
  cases script with
  | nil =>
      rw [withoutMarked_nil]
      exact congrArg (Script.next [] |>.1, ·) (withoutMarked_nil marks).symm
  | cons reply script => rfl

end Marks

namespace Event

/-- The request that is sent, if it is one. -/
def request? : Event → Option Request
  | request _ sent => some sent
  | cleanup .. => none

/-- The requests that are sent. -/
def requests (events : List Event) : List Request := events.filterMap request?

theorem requests_append (events events' : List Event) :
    requests (events ++ events') = requests events ++ requests events' :=
  List.filterMap_append

/-- Marks none of the requests. -/
def unmarked (events : List Event) : List Bool := (requests events).map fun _ => false

theorem unmarked_append (events events' : List Event) :
    unmarked (events ++ events') = unmarked events ++ unmarked events' := by
  rw [unmarked, requests_append, List.map_append, unmarked, unmarked]

end Event

/-! ## Surroundings with a script -/

variable {τ : Type}

/-- A transport that replies from a script, without a limit. The cleanup has a state of its own. -/
def Setting.scripted (cleanup : Option (Action → τ → Cleaned τ))
    (environment : String → Option String) : Setting (Script × τ) where
  send _ state := (state.1.next.1, state.1.next.2, state.2)
  cleanup := cleanup.map fun handle action state =>
    let cleaned := handle action state.2
    ⟨cleaned.outcome, cleaned.statements, state.1, cleaned.state⟩
  environment := environment
  limit := none

/-- The state without the marked replies. -/
def abridge (marks : List Bool) (state : Script × τ) : Script × τ :=
  (withoutMarked marks state.1, state.2)

/-- The transport has failed. -/
def Reply.Failed (reply : Reply) : Prop := ∃ message, reply.outcome = .error (.transport message)

/-- A stretch of a run from a state on, with marks on its requests, and the same stretch of another
run. Their states behind it are the same but for the replies that are marked further on. -/
structure Abridged (marks further : List Bool) (start : Script × τ) (other events : List Event)
    (reduced state : Script × τ) : Prop where
  /-- Each request has its mark. -/
  length_eq : marks.length = (Event.requests events).length
  /-- Each request has taken a reply. -/
  script_eq : state.1 = start.1.drop marks.length
  /-- Only failures of the transport are marked. -/
  failed : ∀ i : Nat, marks[i]? = some true →
    ∃ reply : Reply, start.1[i]? = some reply ∧ reply.Failed
  /-- The marked requests are missing. -/
  requests_eq : Event.requests other = withoutMarked marks (Event.requests events)
  state_eq : reduced = abridge further state

namespace Abridged

variable {marks marks' further : List Bool} {other other' events events' : List Event}
  {start reduced reduced' state state' : Script × τ}

/-- A stretch without requests is abridged. -/
theorem quiet (hevents : Event.requests events = []) (hother : Event.requests other = [])
    (hscript : state.1 = start.1) (h : reduced = abridge further state) :
    Abridged [] further start other events reduced state where
  length_eq := by rw [hevents]; rfl
  script_eq := hscript
  failed := fun _ hmark => by cases hmark
  requests_eq := by rw [hother, hevents]; rfl
  state_eq := h

/-- A stretch in which nothing happens is abridged. -/
theorem nil (h : reduced = abridge further state) : Abridged [] further state [] [] reduced state :=
  quiet rfl rfl rfl h

/-- Stretches that follow each other are abridged as a whole. -/
theorem append (h : Abridged marks (marks' ++ further) start other events reduced state)
    (h' : Abridged marks' further state other' events' reduced' state') :
    Abridged (marks ++ marks') further start (other ++ other') (events ++ events') reduced' state'
    where
  length_eq := by
    rw [List.length_append, h.length_eq, h'.length_eq, Event.requests_append, List.length_append]
  script_eq := by rw [h'.script_eq, h.script_eq, List.drop_drop, List.length_append]
  failed := by
    intro i hmark
    rw [List.getElem?_append] at hmark
    split at hmark
    · exact h.failed i hmark
    · next hle =>
        obtain ⟨reply, hreply, hfailed⟩ := h'.failed _ hmark
        rw [h.script_eq, List.getElem?_drop, Nat.add_sub_cancel' (Nat.not_lt.1 hle)] at hreply
        exact ⟨reply, hreply, hfailed⟩
  requests_eq := by
    rw [Event.requests_append, Event.requests_append, h.requests_eq, h'.requests_eq,
      withoutMarked_append h.length_eq]
  state_eq := h'.state_eq

/-- A request whose reply is not marked is sent in both runs. -/
theorem single {request request' : Request} (hrequest : request' = request) {time time' : Nat}
    (hscript : state.1 = start.1.tail) (h : reduced = abridge further state) :
    Abridged [false] further start [.request time' request'] [.request time request] reduced state
    where
  length_eq := rfl
  script_eq := hscript.trans List.drop_one.symm
  failed := fun i hmark => by cases i <;> cases hmark
  requests_eq := congrArg (fun sent => [sent]) hrequest
  state_eq := h

/-- A request whose reply is marked is not sent in the other run. -/
theorem cons_marked {script : Script} {rest : τ} {reply : Reply} (hfailed : reply.Failed)
    (h : Abridged marks further (script, rest) other events reduced state) (time : Nat)
    (request : Request) :
    Abridged (true :: marks) further (reply :: script, rest) other (.request time request :: events)
      reduced state where
  length_eq := congrArg (· + 1) h.length_eq
  script_eq := h.script_eq
  failed
    | 0, _ => ⟨reply, rfl, hfailed⟩
    | i + 1, hmark => h.failed i hmark
  requests_eq := h.requests_eq
  state_eq := h.state_eq

end Abridged

/-! ## Actions -/

namespace Action

variable {cleanup : Option (Action → τ → Cleaned τ)} {environment : String → Option String}
  {baseUrl : String} {store : Fields Value} {further : List Bool}
  {reduced world : World (Script × τ)}

/-- An action does the same when the script lacks replies further on. -/
theorem perform_abridged {action : Action} (hsteady : action.Steady) {acted : Acted (Script × τ)}
    (hacted : action.perform (.scripted cleanup environment) baseUrl store world = acted)
    (hstate : reduced.state = abridge (Event.unmarked acted.events ++ further) world.state) :
    ∃ other, action.perform (.scripted cleanup environment) baseUrl store reduced = other ∧
      other.outcome = acted.outcome ∧ Abridged (Event.unmarked acted.events) further world.state
        other.events acted.events other.world.state acted.world.state := by
  obtain ⟨clock, supply, script, rest⟩ := world
  obtain ⟨clock', supply', state'⟩ := reduced
  subst hacted
  by_cases hcall : ∃ template, action = .apiCall template
  · obtain ⟨template, rfl⟩ := hcall
    obtain ⟨request, hbuild⟩ := RequestTemplate.build_of_steady hsteady baseUrl ⟨store, environment⟩
    obtain rfl : state' = abridge (false :: further) (script, rest) := hstate
    have hnext := Script.next_withoutMarked further script
    refine ⟨_, rfl, ?_, ?_⟩
    · simp only [perform, Setting.scripted, Setting.sendWithin, hbuild, abridge, hnext]
      rfl
    · simp only [perform, Setting.scripted, Setting.sendWithin, hbuild, abridge, hnext]
      exact .single rfl rfl rfl
  · -- an action that is no call does not look at the script
    have hno : ∀ template, action ≠ .apiCall template := fun template h => hcall ⟨template, h⟩
    rw [perform_of_no_call hno] at hstate ⊢
    rw [perform_of_no_call hno]
    cases cleanup with
    | none => exact ⟨_, rfl, rfl, .nil hstate⟩
    | some handle =>
        obtain rfl : state' = abridge further (script, rest) := hstate
        exact ⟨_, rfl, rfl, .quiet rfl rfl rfl rfl⟩

/-- Actions that run up to the first failure do the same when the script lacks replies further
on. -/
theorem performUntilFailure_abridged {actions : List Action}
    (hsteady : ∀ action ∈ actions, action.Steady) {failure : Option Error}
    {phase : Phase (Script × τ)}
    (hphase : performUntilFailure (.scripted cleanup environment) baseUrl store actions world =
      (failure, phase))
    (hstate : reduced.state = abridge (Event.unmarked phase.events ++ further) world.state) :
    ∃ other, performUntilFailure (.scripted cleanup environment) baseUrl store actions reduced =
        (failure, other) ∧ other.attempted = phase.attempted ∧
      Abridged (Event.unmarked phase.events) further world.state other.events phase.events
        other.world.state phase.world.state := by
  induction actions generalizing world reduced failure phase with
  | nil =>
      cases hphase
      exact ⟨_, rfl, rfl, .nil hstate⟩
  | cons action rest ih =>
      obtain ⟨hfirst, hrest⟩ := List.forall_mem_cons.1 hsteady
      rcases hacted : action.perform (.scripted cleanup environment) baseUrl store world with
        ⟨outcome, events, behind⟩
      cases outcome with
      | error e =>
          simp only [performUntilFailure, hacted] at hphase
          cases hphase
          obtain ⟨other, hother, houtcome, habridged⟩ := perform_abridged hfirst hacted hstate
          refine ⟨⟨[⟨action, other.outcome⟩], other.events, other.world⟩, ?_, ?_, habridged⟩
          · simp only [performUntilFailure, hother, houtcome]
          · rw [houtcome]
      | ok _ =>
          rcases hfurther : performUntilFailure (.scripted cleanup environment) baseUrl store rest
            behind with ⟨failure', phase'⟩
          simp only [performUntilFailure, hacted, hfurther] at hphase
          cases hphase
          rw [Event.unmarked_append, List.append_assoc] at hstate
          obtain ⟨other, hother, houtcome, habridged⟩ := perform_abridged hfirst hacted hstate
          obtain ⟨other', hother', hattempted, habridged'⟩ := ih hrest hfurther habridged.state_eq
          refine ⟨⟨⟨action, other.outcome⟩ :: other'.attempted, other.events ++ other'.events,
            other'.world⟩, ?_, ?_, ?_⟩
          · simp only [performUntilFailure, hother, houtcome, hother']
          · rw [houtcome, hattempted]
          · rw [Event.unmarked_append]
            exact habridged.append habridged'

/-- Actions of which all run do the same when the script lacks replies further on. -/
theorem performAll_abridged {actions : List Action} (hsteady : ∀ action ∈ actions, action.Steady)
    {phase : Phase (Script × τ)}
    (hphase : performAll (.scripted cleanup environment) baseUrl store actions world = phase)
    (hstate : reduced.state = abridge (Event.unmarked phase.events ++ further) world.state) :
    ∃ other, performAll (.scripted cleanup environment) baseUrl store actions reduced = other ∧
      other.attempted = phase.attempted ∧
      Abridged (Event.unmarked phase.events) further world.state other.events phase.events
        other.world.state phase.world.state := by
  induction actions generalizing world reduced phase with
  | nil =>
      cases hphase
      exact ⟨_, rfl, rfl, .nil hstate⟩
  | cons action rest ih =>
      obtain ⟨hfirst, hrest⟩ := List.forall_mem_cons.1 hsteady
      subst hphase
      simp only [performAll, Event.unmarked_append, List.append_assoc] at hstate
      obtain ⟨other, rfl, houtcome, habridged⟩ := perform_abridged hfirst rfl hstate
      obtain ⟨other', rfl, hattempted, habridged'⟩ := ih hrest rfl habridged.state_eq
      refine ⟨_, rfl, ?_, ?_⟩
      · simp only [performAll, houtcome, hattempted]
      · simp only [performAll, Event.unmarked_append]
        exact habridged.append habridged'

end Action

end ScenarioRunner

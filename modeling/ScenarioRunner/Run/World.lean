import ScenarioRunner.Action.Local
import ScenarioRunner.Request
import ScenarioRunner.Response

/-!
# The world of a run

A run talks to its surroundings through requests and cleanup actions. The surroundings have a state
of a type of their own. Time is a number of milliseconds; it passes only while a reply is awaited
and between two attempts. A wait that ends exactly at the deadline is not cut.
-/

set_option autoImplicit false

namespace ScenarioRunner

/-- Milliseconds in a second. -/
def millisPerSecond : Nat := 1000

/-- What comes back for a request, and after how many milliseconds. -/
structure Reply where
  delay : Nat
  outcome : Except Error Response

/-- Something that a run does to its surroundings. -/
inductive Event where
  /-- A request is sent. -/
  | request (time : Nat) (request : Request)
  /-- An action is handed over for cleanup, which issues statements. -/
  | cleanup (action : Action) (statements : List String)

/-- The state of a run's surroundings. -/
structure World (σ : Type) where
  /-- Milliseconds. -/
  clock : Nat
  /-- The place in the supply of fresh identifiers. -/
  supply : Nat
  state : σ

/-- The surroundings of a run. -/
structure Setting (σ : Type) where
  /-- Sends a request. -/
  send : Request → σ → Reply × σ
  /-- Runs an action that is no request, if such actions can be run. -/
  cleanup : Option (Action → σ → Cleaned σ)
  /-- The environment variables. -/
  environment : String → Option String
  /-- The milliseconds from the start of a run in which its cases have to end. -/
  limit : Option Nat

/-- A wait: whether it ends before it is cut at a deadline, and when it ends. -/
def elapse (deadline : Option Nat) (clock delay : Nat) : Bool × Nat :=
  match deadline with
  | none => (true, clock + delay)
  | some d => if clock + delay ≤ d then (true, clock + delay) else (false, max clock d)

/-- The error of a wait that is cut. -/
def deadlineExceeded : Error := .timeout "run deadline exceeded"

namespace Setting

variable {σ : Type}

/-- Sends a request and awaits its reply, up to a deadline. -/
def sendWithin (setting : Setting σ) (deadline : Option Nat) (request : Request) (world : World σ) :
    Except Error Response × World σ :=
  let (reply, state) := setting.send request world.state
  let (arrives, clock) := elapse deadline world.clock reply.delay
  (if arrives then reply.outcome else .error deadlineExceeded, { world with clock, state })

end Setting

/-- Waits some milliseconds, up to a deadline. -/
def World.wait {σ : Type} (deadline : Option Nat) (delay : Nat) (world : World σ) :
    Except Error Unit × World σ :=
  let (ends, clock) := elapse deadline world.clock delay
  (if ends then .ok () else .error deadlineExceeded, { world with clock })

/-! ## Scripts -/

/-- The replies that are still to come. -/
abbrev Script := List Reply

/-- The reply once a script has ended: an empty object, at once. -/
def Reply.default : Reply := ⟨0, .ok ⟨200, [], Utf8.encode "\x7b\x7d"⟩⟩

/-- Answers any request with the next reply. -/
def Script.next (script : Script) : Reply × Script := (script.headD .default, script.tail)

end ScenarioRunner

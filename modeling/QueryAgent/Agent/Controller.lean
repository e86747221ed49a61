import QueryAgent.Connector.Basic
import QueryAgent.Job.Basic

namespace QueryAgent.Agent

/-!
# Controllers

What the agent asks of its controller: to take note that it is alive, to hand
out a job, to take the outcome of one.
-/

/-- What every controller can be asked to do. -/
structure Controller (κ : Type) where
  heartbeat : κ → Call κ Unit
  getJob : List JobKind → κ → Call κ (Option Job)
  updateJob : String → JobOutcome → κ → Call κ Unit

/-- Replies that are given one after another, and how long each takes. -/
structure Script where
  polls : List (Result (Option Job))
  updates : List (Result Unit)
  heartbeats : List (Result Unit)
  pollDelay : Nat
  updateDelay : Nat
  heartbeatDelay : Nat

/-- A controller that follows a script; past its end there are no jobs and no failures. -/
def scripted : Controller Script where
  heartbeat := fun script =>
    { result := script.heartbeats.headD (.ok ())
      duration := script.heartbeatDelay
      state := { script with heartbeats := script.heartbeats.tail } }
  getJob := fun _ script =>
    { result := script.polls.headD (.ok none)
      duration := script.pollDelay
      state := { script with polls := script.polls.tail } }
  updateJob := fun _ _ script =>
    { result := script.updates.headD (.ok ())
      duration := script.updateDelay
      state := { script with updates := script.updates.tail } }

end QueryAgent.Agent

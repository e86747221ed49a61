import QueryAgent.Agent.Controller
import QueryAgent.Agent.Ticker
import QueryAgent.Job.Dispatch

namespace QueryAgent.Agent

/-!
# The loops of the agent

One loop fetches, dispatches and reports jobs, the other tells the controller
that the agent is alive.  A run is the list of what was done and when.
-/

/-- Something the agent did, at the time it began. -/
inductive Action where
  | polled (time : Nat) (kinds : List JobKind) (reply : Result (Option Job))
  | dispatched (time : Nat) (job : Job) (calls : List BackendCall)
  | reported (time : Nat) (id : String) (outcome : JobOutcome) (reply : Result Unit)
  | heartbeat (time : Nat) (reply : Result Unit)
  | closed (time : Nat) (reply : Result Unit)

/-- When an action began. -/
def Action.time : Action → Nat
  | .polled time _ _ => time
  | .dispatched time _ _ => time
  | .reported time _ _ _ => time
  | .heartbeat time _ => time
  | .closed time _ => time

/-- What a cycle came to: whether a job was handled, or the error. -/
structure Cycle (κ σ : Type) where
  result : Result Bool
  actions : List Action
  ended : Nat
  controllerState : κ
  backendState : σ

/-- Fetches at most one job, dispatches it and reports the outcome once. -/
def pollOnce
    (controller : Controller κ)
    (connector : Connector σ)
    (now : Nat)
    (controllerState : κ)
    (backendState : σ) : Cycle κ σ :=
  let poll := controller.getJob JobKind.supported controllerState
  let polled := Action.polled now JobKind.supported poll.result
  let received := now + poll.duration
  match poll.result with
  | .error error =>
      ⟨.error error, [polled], received, poll.state, backendState⟩
  | .ok none =>
      ⟨.ok false, [polled], received, poll.state, backendState⟩
  | .ok (some job) =>
      let handled := dispatch connector job backendState
      let finished := received + handled.duration
      let report := controller.updateJob job.id handled.answer poll.state
      { result := report.result.map (fun _ => true)
        actions :=
          [polled,
            .dispatched received job handled.calls,
            .reported finished job.id handled.answer report.result]
        ended := finished + report.duration
        controllerState := report.state
        backendState := handled.state }

/-- A round of the job loop is one cycle; errors end with the cycle. -/
def jobRound
    (controller : Controller κ)
    (connector : Connector σ)
    (now : Nat)
    (state : κ × σ) : Round (κ × σ) Action :=
  let cycle := pollOnce controller connector now state.1 state.2
  ⟨cycle.actions, cycle.ended, (cycle.controllerState, cycle.backendState)⟩

/-- Polls once per period until cancelled; the first poll is one period after the start. -/
def jobLoop
    (controller : Controller κ)
    (connector : Connector σ)
    (period : Period)
    (cancelled start : Nat)
    (state : κ × σ) : Round (κ × σ) Action :=
  runRounds (jobRound controller connector) period cancelled
    (start + period.milliseconds) start state

/-- A round of the heartbeat loop is one heartbeat, whatever the answer. -/
def heartbeatRound
    (controller : Controller κ)
    (now : Nat)
    (state : κ) : Round κ Action :=
  let call := controller.heartbeat state
  ⟨[.heartbeat now call.result], now + call.duration, call.state⟩

/-- Sends a heartbeat at the start and once per period until cancelled. -/
def heartbeatLoop
    (controller : Controller κ)
    (period : Period)
    (cancelled start : Nat)
    (state : κ) : Round κ Action :=
  runRounds (heartbeatRound controller) period cancelled start start state

/-- Two runs as one, in the order of time; the first goes before the second. -/
def mergeActions : List Action → List Action → List Action
  | [], others =>
      others
  | actions, [] =>
      actions
  | action :: actions, other :: others =>
      if action.time ≤ other.time then
        action :: mergeActions actions (other :: others)
      else
        other :: mergeActions (action :: actions) others
termination_by actions others => actions.length + others.length

/-- What a whole run of the agent came to. -/
structure Run (σ : Type) where
  result : Result Unit
  actions : List Action
  ended : Nat
  backendState : σ

/--
Runs both loops until the cancellation and closes the backend once both have
ended; a failure to close is not a failure of the run.
-/
def run
    (controller : Controller κ)
    (connector : Connector σ)
    (pollPeriod heartbeatPeriod : Period)
    (cancelled start : Nat)
    (jobController heartbeatController : κ)
    (backendState : σ) : Run σ :=
  let jobs :=
    jobLoop controller connector pollPeriod cancelled start
      (jobController, backendState)
  let heartbeats :=
    heartbeatLoop controller heartbeatPeriod cancelled start heartbeatController
  let closing := max jobs.ended heartbeats.ended
  let close := connector.close jobs.state.2
  { result := .ok ()
    actions :=
      mergeActions jobs.events heartbeats.events ++ [.closed closing close.result]
    ended := closing + close.duration
    backendState := close.state }

end QueryAgent.Agent

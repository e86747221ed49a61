import QueryAgent.Agent.Assembly
import QueryAgent.Backend.Session
import QueryAgent.Controller.Client

namespace QueryAgent.Agent

/-!
# Starting an agent

From a configuration to an agent ready to run.  The configuration is checked,
the backend connected, the address of the controller read, in this order; the
first failure ends the start, and nothing is tried again.
-/

/-- An agent that has a client for its controller and a session with its backend. -/
abbrev Ready :=
  Assembled Controller.Client Backend.Session

/-- Starts the agent of a configuration under a name. -/
def start
    (network : Backend.Network)
    (config : AgentConfig)
    (id : String) : Result Ready := do
  config.validate
  let connected := Backend.Session.start network config.database
  connected.result
  let client ← Controller.Client.ofConfig config.controller id
  let noParts : Assembly Controller.Client Backend.Session := .empty
  let parts :=
    { noParts with
      id := some id
      controller := some client
      dispatcher := some connected.state }
  (parts.withSchedule config.schedule).build

/-- Runs a started agent until the cancellation, both loops with a peer of their own. -/
def Ready.run
    (agent : Ready)
    (network : Backend.Network)
    (peer : Controller.Peer κ)
    (cancelled : Nat)
    (jobPeer heartbeatPeer : κ) : Run Backend.Session :=
  Agent.run (agent.controller.controller peer) (Backend.Session.connector network)
    agent.pollPeriod agent.heartbeatPeriod cancelled 0 jobPeer heartbeatPeer agent.dispatcher

end QueryAgent.Agent

import QueryAgent.Agent.Loops
import QueryAgent.Config.Basic

namespace QueryAgent.Agent

/-!
# Assembling an agent

An agent is put together from its parts.  The controller and the dispatcher
must be there, and neither interval may be zero.
-/

/-- The parts of an agent, as far as they have been given. -/
structure Assembly (χ δ : Type) where
  id : Option String
  controller : Option χ
  dispatcher : Option δ
  pollMilliseconds : Nat
  heartbeatMilliseconds : Nat

/-- An agent ready to run; one without a name is given a fresh one. -/
structure Assembled (χ δ : Type) where
  id : Option String
  controller : χ
  dispatcher : δ
  pollPeriod : Period
  heartbeatPeriod : Period

namespace Assembly

/-- No parts yet, and the intervals that hold when none are set. -/
def empty : Assembly χ δ where
  id := none
  controller := none
  dispatcher := none
  pollMilliseconds := ScheduleConfig.standard.pollInterval * 1000
  heartbeatMilliseconds := ScheduleConfig.standard.heartbeatInterval * 1000

/-- Takes both intervals from a schedule. -/
def withSchedule
    (assembly : Assembly χ δ)
    (schedule : ScheduleConfig) : Assembly χ δ :=
  { assembly with
    pollMilliseconds := schedule.pollInterval * 1000
    heartbeatMilliseconds := schedule.heartbeatInterval * 1000 }

/-- Puts the agent together. -/
def build
    (assembly : Assembly χ δ) : Result (Assembled χ δ) :=
  match assembly.controller, assembly.dispatcher with
  | none, _ =>
      .error (.configuration "agent requires a controller client")
  | some _, none =>
      .error (.configuration "agent requires a job dispatcher")
  | some controller, some dispatcher =>
      if pollPositive : 0 < assembly.pollMilliseconds then
        if heartbeatPositive : 0 < assembly.heartbeatMilliseconds then
          .ok
            { id := assembly.id
              controller := controller
              dispatcher := dispatcher
              pollPeriod := ⟨assembly.pollMilliseconds, pollPositive⟩
              heartbeatPeriod := ⟨assembly.heartbeatMilliseconds, heartbeatPositive⟩ }
        else
          .error intervalsRequired
      else
        .error intervalsRequired

end Assembly

end QueryAgent.Agent

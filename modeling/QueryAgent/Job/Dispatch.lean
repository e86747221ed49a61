import QueryAgent.Connector.Basic
import QueryAgent.Job.Basic
import QueryAgent.Query.Validation

namespace QueryAgent

/-!
# Dispatching jobs

A job is handed to what handles its kind, and whatever comes of it becomes one
outcome.  The calls made to the backend are part of the answer.
-/

/-- A call that dispatching makes to the backend. -/
inductive BackendCall where
  | probe
  | run (query : Query)

/-- What came of handling a job. -/
structure Handled (σ α : Type) where
  answer : α
  duration : Nat
  state : σ
  calls : List BackendCall

/-- The error of a kind that is known but does nothing yet. -/
def notImplemented
    (kind : JobKind) : AgentError :=
  .dispatch (.notImplemented kind.name)

/-- Handles a job: the payload of its result, or the error. -/
def handle
    (connector : Connector σ)
    (job : Job)
    (state : σ) : Handled σ (Result String) :=
  match job.kind with
  | .ping =>
      let call := connector.probe state
      { answer := call.result.map (fun _ => JobOutcome.emptyResult)
        duration := call.duration
        state := call.state
        calls := [.probe] }
  | .query =>
      match Query.ofPayload job.payload with
      | .error error =>
          ⟨.error error, 0, state, []⟩
      | .ok query =>
          let call := connector.run query state
          { answer := call.result.map (fun results => results.toJson.compact)
            duration := call.duration
            state := call.state
            calls := [.run query] }
  | .unknown name =>
      ⟨.error (.dispatch (.unknownKind name)), 0, state, []⟩
  | kind =>
      ⟨.error (notImplemented kind), 0, state, []⟩

/-- The outcome that a result is reported as. -/
def JobOutcome.ofResult : Result String → JobOutcome
  | .ok payload =>
      .success payload
  | .error error =>
      .failure error.jobMessage

/-- Dispatches a job; every failure becomes a failed outcome. -/
def dispatch
    (connector : Connector σ)
    (job : Job)
    (state : σ) : Handled σ JobOutcome :=
  let handled := handle connector job state
  { handled with answer := .ofResult handled.answer }

end QueryAgent

import QueryAgent.Data.ResultSet
import QueryAgent.Error
import QueryAgent.Query.Basic

namespace QueryAgent

/-!
# Connectors

A connector does what a backend can do: answer a probe, run a query, close.
Each call takes some time and may change the connector's state.
-/

/-- What a call came to, how many milliseconds it took, and the state after it. -/
structure Call (σ α : Type) where
  result : Result α
  duration : Nat
  state : σ

/-- The same call with its state seen in another way. -/
def Call.mapState
    (view : σ → τ)
    (call : Call σ α) : Call τ α :=
  ⟨call.result, call.duration, view call.state⟩

/-- What every backend can be asked to do. -/
structure Connector (σ : Type) where
  probe : σ → Call σ Unit
  run : Query → σ → Call σ ResultSet
  close : σ → Call σ Unit

/-- The error of a connector that has no connection. -/
def notConnected : AgentError :=
  .connector (.connectionFailed "Not connected")

/-- Bounds the time of a call; what takes longer fails when the limit is reached. -/
def withDeadline
    (limit : Option Nat)
    (what : String)
    (call : Call σ α) : Call σ α :=
  match limit with
  | none =>
      call
  | some limit =>
      if call.duration ≤ limit then
        call
      else
        { result := .error (.connector (.timeout
            (what ++ " exceeded " ++ Text.decimal (limit / 1000) ++ "s")))
          duration := limit
          state := call.state }

end QueryAgent

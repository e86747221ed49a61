import QueryAgent.Connector.Settings
import QueryAgent.Connector.Basic

namespace QueryAgent

/-!
# Connectors with a pool

The state that connectors to a database server share: the pool they hold while
they are connected, and how long a query may take.
-/

/-- What was asked of a server came to, and how many milliseconds it took. -/
structure Reply (ε α : Type) where
  outcome : Except ε α
  duration : Nat

/-- The state of a connector that may hold a pool. -/
structure Pooled (ρ : Type) where
  pool : Option ρ
  connected : Bool
  querySeconds : Option Nat
deriving Repr, DecidableEq

namespace Pooled

/-- A connector that has never been connected. -/
def initial : Pooled ρ where
  pool := none
  connected := false
  querySeconds := none

/-- The pool, or the error that there is none. -/
def held
    (state : Pooled ρ) : Result ρ :=
  if state.connected then
    match state.pool with
    | some pool =>
        .ok pool
    | none =>
        .error (.connector (.connectionFailed "No connection pool available"))
  else
    .error notConnected

/-- The state once a pool has been opened. -/
def opened
    (settings : ConnectionSettings)
    (pool : ρ) : Pooled ρ where
  pool := some pool
  connected := true
  querySeconds := settings.queryTimeout

/-- The state once the pool has been let go. -/
def closed
    (state : Pooled ρ) : Pooled ρ :=
  { state with pool := none, connected := false }

/-- The milliseconds that a call may take. -/
def limit
    (state : Pooled ρ) : Option Nat :=
  state.querySeconds.map (· * 1000)

/-- Opens a pool by an attempt to get a first connection, within the time to connect. -/
def openPool
    (settings : ConnectionSettings)
    (describe : ε → String)
    (pool : ρ)
    (attempt : Reply ε Unit)
    (state : Pooled ρ) : Call (Pooled ρ) Unit :=
  let limit := settings.connectTimeout * 1000
  if limit < attempt.duration then
    ⟨.error (.connector (.timeout "Connection timeout")), limit, state⟩
  else
    match attempt.outcome with
    | .ok () =>
        ⟨.ok (), attempt.duration, opened settings pool⟩
    | .error cause =>
        ⟨.error (.connector (.connectionFailed
            ("Failed to get connection: " ++ describe cause))),
          attempt.duration, state⟩

/-- A call that ends before the server is asked. -/
def refuse
    (error : AgentError)
    (state : Pooled ρ) : Call (Pooled ρ) α :=
  ⟨.error error, 0, state⟩

/-- A call that a server has replied to, within the time for a query. -/
def conclude
    (what : String)
    (reply : Reply ε β)
    (read : Except ε β → Result α)
    (state : Pooled ρ) : Call (Pooled ρ) α :=
  withDeadline state.limit what ⟨read reply.outcome, reply.duration, state⟩

end Pooled

end QueryAgent

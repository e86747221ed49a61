import QueryAgent.Connector.Basic
import QueryAgent.Mock.Store
import QueryAgent.Sql.Statement

namespace QueryAgent.Mock

/-!
# The mock backend

A connector over tables in memory.  It keeps a log of the statements compiled
while connected, whether or not what follows succeeds, and can be told to be
slow or to fail.
-/

/-- How the mock backend behaves. -/
structure Setup where
  connectDelay : Nat
  queryDelay : Nat
  dialect : Sql.Dialect
  queryFailure : Option String
  probeFailure : Option String
deriving Repr

/-- A mock backend that answers at once after a short time to connect. -/
def Setup.standard : Setup where
  connectDelay := 10
  queryDelay := 0
  dialect := .postgres
  queryFailure := none
  probeFailure := none

/-- The state of the mock backend. -/
structure State where
  connected : Bool
  tables : Tables
  statements : List Sql.Statement

/-- The state before connecting. -/
def State.initial : State where
  connected := false
  tables := Tables.initial
  statements := []

/-- Connects, which always succeeds. -/
def connect
    (setup : Setup)
    (state : State) : Call State Unit where
  result := .ok ()
  duration := setup.connectDelay
  state := { state with connected := true }

/-- Answers a probe. -/
def probe
    (setup : Setup)
    (state : State) : Call State Unit where
  result :=
    if !state.connected then
      .error notConnected
    else
      match setup.probeFailure with
      | some message =>
          .error (.connector (.executionFailed message))
      | none =>
          .ok ()
  duration := 0
  state := state

/-- What a query comes to once its statement is logged. -/
def answer
    (setup : Setup)
    (tables : Tables)
    (query : Query) : Result ResultSet :=
  match setup.queryFailure with
  | some message =>
      .error (.connector (.executionFailed message))
  | none =>
      (tables.select query).mapError SelectError.toAgentError

/-- Runs a query: compiles it, logs the statement, and selects rows. -/
def run
    (setup : Setup)
    (query : Query)
    (state : State) : Call State ResultSet :=
  if !state.connected then
    ⟨.error notConnected, 0, state⟩
  else
    match setup.dialect.statement query with
    | .error error =>
        ⟨.error error, 0, state⟩
    | .ok statement =>
        { result := answer setup state.tables query
          duration := setup.queryDelay
          state := { state with statements := state.statements ++ [statement] } }

/-- Closes the connection, any number of times. -/
def close
    (state : State) : Call State Unit where
  result := .ok ()
  duration := 0
  state := { state with connected := false }

/-- The mock backend as a connector. -/
def connector
    (setup : Setup) : Connector State where
  probe := probe setup
  run := run setup
  close := close

end QueryAgent.Mock

import QueryAgent.Connector.Pooled
import QueryAgent.Mysql.Cell
import QueryAgent.Mysql.Options
import QueryAgent.Sql.Statement

namespace QueryAgent.Mysql

/-!
# Sessions with a MySQL server

How the connector connects, probes, runs queries and closes, given what the
server answers to what is sent.
-/

/-- An error that a server reports. -/
structure ServerError where
  state : String
  code : Nat
  message : String
deriving Repr, DecidableEq

/-- Why a server did not do what it was asked. -/
inductive ServerFault where
  | network (reason : String)
  | refused (error : ServerError)
deriving Repr, DecidableEq

/-- The words of a fault. -/
def ServerFault.message : ServerFault → String
  | .network reason =>
      "Input/output error: Input/output error: " ++ reason
  | .refused error =>
      "Server error: `ERROR " ++ error.state ++ " (" ++ Text.decimal error.code ++ "): "
        ++ error.message ++ "'"

/-- Why a statement got no answer. -/
inductive StatementFault where
  | connection (cause : ServerFault)
  | execution (cause : ServerFault)
deriving Repr, DecidableEq

/-- The error of a statement without an answer. -/
def StatementFault.toAgentError : StatementFault → AgentError
  | .connection cause =>
      .connector (.connectionFailed
        ("Failed to get connection from pool: " ++ cause.message))
  | .execution cause =>
      .connector (.executionFailed cause.message)

/-- What a server answers to a statement: columns, and rows with each cell. -/
structure Answer where
  columns : List Column
  rows : List (List Cell)

/-- A server, by what it does with what it is sent. -/
structure Server where
  greet : Options → Reply ServerFault Unit
  first : String → Reply StatementFault (Option Int64)
  answer : String → List Cell → Reply StatementFault Answer
  disconnect : Reply ServerFault Unit

/-- The fault of a server that cannot be reached. -/
def ServerFault.unreachable : ServerFault :=
  .network "Network is unreachable (os error 101)"

/-- A server that cannot be reached. -/
def Server.unreachable : Server where
  greet := fun _ => ⟨.error .unreachable, 0⟩
  first := fun _ => ⟨.error (.connection .unreachable), 0⟩
  answer := fun _ _ => ⟨.error (.connection .unreachable), 0⟩
  disconnect := ⟨.ok (), 0⟩

/-- The state of the connector. -/
abbrev Session := Pooled Options

/-- Connects; a failure leaves the connector as it was. -/
def connect
    (server : Server)
    (settings : ConnectionSettings)
    (session : Session) : Call Session Unit :=
  match Options.ofSettings settings with
  | .error error =>
      session.refuse error
  | .ok options =>
      session.openPool settings ServerFault.message options (server.greet options)

/-- The number that a probe got back, as an error shows it. -/
def probeText : Option Int64 → String
  | some number => "Some(" ++ Text.integer number.toInt ++ ")"
  | none => "None"

/-- Accepts the number one and nothing else. -/
def readProbe
    (outcome : Except StatementFault (Option Int64)) : Result Unit :=
  match outcome with
  | .error fault =>
      .error fault.toAgentError
  | .ok number =>
      if number = some 1 then
        .ok ()
      else
        .error (.connector (.executionFailed
          ("unexpected probe result: " ++ probeText number)))

/-- Asks whether the server is alive. -/
def probe
    (server : Server)
    (session : Session) : Call Session Unit :=
  match session.held with
  | .error error =>
      session.refuse error
  | .ok _ =>
      session.conclude "probe" (server.first "SELECT 1") readProbe

/-- The result set that a server's answer holds. -/
def readAnswer
    (outcome : Except StatementFault Answer) : Result ResultSet :=
  match outcome with
  | .error fault =>
      .error fault.toAgentError
  | .ok answer =>
      .ok (ResultSet.ofRows
        (answer.rows.map (fun cells => rowOf answer.columns (cells.map some))))

/-- The values bound for parameters, in their order. -/
def bound : List Param → Result (List Cell)
  | [] =>
      .ok []
  | param :: rest => do
      let cell ← ofParam param
      let cells ← bound rest
      .ok (cell :: cells)

/-- A statement and the values bound to its places. -/
def boundStatement
    (query : Query) : Result (String × List Cell) := do
  let statement ← Sql.Dialect.mysql.statement query
  let cells ← bound statement.parameters
  .ok (statement.text, cells)

/-- Runs a query. -/
def run
    (server : Server)
    (query : Query)
    (session : Session) : Call Session ResultSet :=
  match session.held with
  | .error error =>
      session.refuse error
  | .ok _ =>
      match boundStatement query with
      | .error error =>
          session.refuse error
      | .ok (text, cells) =>
          session.conclude "query" (server.answer text cells) readAnswer

/-- Closes; the pool is let go even when the server reports a failure. -/
def close
    (server : Server)
    (session : Session) : Call Session Unit :=
  match session.pool with
  | none =>
      ⟨.ok (), 0, session.closed⟩
  | some _ =>
      let result : Result Unit :=
        match server.disconnect.outcome with
        | .ok () =>
            .ok ()
        | .error fault =>
            .error (.connector (.connectionFailed
              ("Failed to close pool: " ++ fault.message)))
      ⟨result, server.disconnect.duration, session.closed⟩

/-- The connector to a server. -/
def connector
    (server : Server) : Connector Session where
  probe := probe server
  run := run server
  close := close server

end QueryAgent.Mysql

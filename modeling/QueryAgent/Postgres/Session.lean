import QueryAgent.Connector.Pooled
import QueryAgent.Postgres.ConnectionString
import QueryAgent.Postgres.Decode
import QueryAgent.Postgres.Literal
import QueryAgent.Sql.Statement

namespace QueryAgent.Postgres

/-!
# Sessions with a PostgreSQL server

How the connector connects, probes, runs queries and closes, given what the
server answers to what is sent.
-/

/-- Why no session with a server came about. -/
inductive ConnectFault where
  | unreachable
  | incomplete
  | encryption
  | refused
deriving Repr, DecidableEq

/-- The words of a fault, as the pool reports it. -/
def ConnectFault.message
    (fault : ConnectFault) : String :=
  "Error occurred while creating a new object: "
    ++ match fault with
      | .unreachable => "error connecting to server"
      | .incomplete => "invalid configuration"
      | .encryption => "error performing TLS handshake"
      | .refused => "db error"

/-- An error that a server reports. -/
structure ServerError where
  severity : String
  message : String
  detail : Option String
  hint : Option String
deriving Repr, DecidableEq

/-- A line that is there when it has something to say. -/
def noteLine
    (title : String) : Option String → String
  | some note => "\n" ++ title ++ ": " ++ note
  | none => ""

/-- The words of a server's error, with detail and hint on lines of their own. -/
def ServerError.written
    (error : ServerError) : String :=
  error.severity ++ ": " ++ error.message
    ++ noteLine "DETAIL" error.detail ++ noteLine "HINT" error.hint

/-- Why a statement got no answer. -/
inductive StatementFault where
  | connection (cause : ConnectFault)
  | refused (error : ServerError)
  | broken (reason : String)
deriving Repr, DecidableEq

/-- The error of a call that the server did not carry out. -/
def executionFailed
    (reason : String) : AgentError :=
  .connector (.executionFailed reason)

/-- The error of a statement without an answer; a server's own words are kept. -/
def StatementFault.toAgentError : StatementFault → AgentError
  | .connection cause =>
      .connector (.connectionFailed
        ("Failed to get connection from pool: " ++ cause.message))
  | .refused error =>
      executionFailed error.written
  | .broken reason =>
      executionFailed reason

/-- A column of an answer. -/
structure Column where
  name : String
  type : ColumnType
deriving Repr, DecidableEq

/-- What a server answers to a statement: columns, and rows with the bytes of each cell. -/
structure Answer where
  columns : List Column
  rows : List (List (Option (List UInt8)))

/-- A server, by what it does with what it is sent. -/
structure Server where
  greet : ConnectionString → Reply ConnectFault Unit
  answer : String → List (Option String) → Reply StatementFault Answer

/-- A server that cannot be reached. -/
def Server.unreachable : Server where
  greet := fun _ => ⟨.error .unreachable, 0⟩
  answer := fun _ _ => ⟨.error (.connection .unreachable), 0⟩

/-- What the connector holds while it is connected. -/
structure Pool where
  target : ConnectionString
  size : Nat
deriving Repr, DecidableEq

/-- The state of the connector. -/
abbrev Session := Pooled Pool

/-- Where to connect, by the settings. -/
def target
    (settings : ConnectionSettings) : Result ConnectionString := do
  let url ← settings.requireUrl
  match ConnectionString.parse? (withSslMode url settings.sslMode) with
  | some target =>
      .ok target
  | none =>
      .error (.connector (.connectionFailed
        "Invalid connection url: invalid connection string"))

/-- Tries to get a first connection; the connector itself cannot encrypt. -/
def attempt
    (server : Server)
    (target : ConnectionString) : Reply ConnectFault Unit :=
  if target.isComplete then
    let reply := server.greet target
    match reply.outcome with
    | .error .unreachable =>
        reply
    | _ =>
        if target.sslMode = .require then
          { reply with outcome := .error .encryption }
        else
          reply
  else
    ⟨.error .incomplete, 0⟩

/-- Connects; a failure leaves the connector as it was. -/
def connect
    (server : Server)
    (settings : ConnectionSettings)
    (session : Session) : Call Session Unit :=
  match target settings with
  | .error error =>
      session.refuse error
  | .ok target =>
      session.openPool settings ConnectFault.message ⟨target, settings.poolSize⟩
        (attempt server target)

/-- The number in the first cell of the only row that a probe gets back. -/
def probeNumber
    (answer : Answer) : Except String Int64 :=
  match answer.rows with
  | [row] =>
      match answer.columns, row with
      | column :: _, cell :: _ =>
          match column.type, cell with
          | .plain _ 23 true, some bytes =>
              (signedValue 4 bytes).mapError fun _ =>
                "Failed to read probe result: error deserializing column 0"
          | _, _ =>
              .error "Failed to read probe result: error deserializing column 0"
      | _, _ =>
          .error "Failed to read probe result: invalid column `0`"
  | _ =>
      .error "query returned an unexpected number of rows"

/-- Accepts the number one and nothing else. -/
def readProbe
    (outcome : Except StatementFault Answer) : Result Unit :=
  match outcome with
  | .error fault =>
      .error fault.toAgentError
  | .ok answer =>
      match probeNumber answer with
      | .error reason =>
          .error (executionFailed reason)
      | .ok number =>
          if number = 1 then
            .ok ()
          else
            .error (executionFailed
              ("unexpected probe result: " ++ Text.integer number.toInt))

/-- Asks whether the server is alive. -/
def probe
    (server : Server)
    (session : Session) : Call Session Unit :=
  match session.held with
  | .error error =>
      session.refuse error
  | .ok _ =>
      session.conclude "probe" (server.answer "SELECT 1" []) readProbe

/-- The cells of a row under the names of their columns; the first that cannot be read is the error. -/
def readCells : List Column → List (Option (List UInt8)) → Result (List (String × Value))
  | column :: columns, none :: cells => do
      let others ← readCells columns cells
      .ok ((column.name, .null) :: others)
  | column :: columns, some bytes :: cells =>
      match decodeColumn column.type bytes with
      | .error cause =>
          .error (executionFailed
            ("Failed to read column '" ++ column.name ++ "': " ++ cause.message))
      | .ok value => do
          let others ← readCells columns cells
          .ok ((column.name, value) :: others)
  | _, _ =>
      .ok []

/-- The rows of an answer, in their order. -/
def readRows
    (columns : List Column) : List (List (Option (List UInt8))) → Result (List Row)
  | [] =>
      .ok []
  | cells :: rest => do
      let row ← readCells columns cells
      let rows ← readRows columns rest
      .ok (Row.ofCells row :: rows)

/-- The result set that a server's answer holds. -/
def readAnswer
    (outcome : Except StatementFault Answer) : Result ResultSet :=
  match outcome with
  | .error fault =>
      .error fault.toAgentError
  | .ok answer =>
      (readRows answer.columns answer.rows).map ResultSet.ofRows

/-- Runs a query. -/
def run
    (server : Server)
    (query : Query)
    (session : Session) : Call Session ResultSet :=
  match session.held with
  | .error error =>
      session.refuse error
  | .ok _ =>
      match Sql.Dialect.postgres.statement query with
      | .error error =>
          session.refuse error
      | .ok statement =>
          session.conclude "query"
            (server.answer statement.text (statement.parameters.map sentText?)) readAnswer

/-- Closes; a connector that is not connected stays so. -/
def close
    (session : Session) : Call Session Unit :=
  ⟨.ok (), 0, session.closed⟩

/-- The connector to a server. -/
def connector
    (server : Server) : Connector Session where
  probe := probe server
  run := run server
  close := close

end QueryAgent.Postgres

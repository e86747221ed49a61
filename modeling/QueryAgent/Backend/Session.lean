import QueryAgent.Mock.Session
import QueryAgent.Mysql.Session
import QueryAgent.Postgres.Session

namespace QueryAgent.Backend

/-!
# Sessions of any backend

One connector for whichever backend a configuration names.  A session keeps to
the backend that it was created for.
-/

/-- The servers that sessions reach. -/
structure Network where
  postgres : Postgres.Server
  mysql : Mysql.Server

/-- A network without servers. -/
def Network.unreachable : Network where
  postgres := .unreachable
  mysql := .unreachable

/-- The state of the connector to a backend. -/
inductive Session where
  | mock (state : Mock.State)
  | postgres (state : Postgres.Session)
  | mysql (state : Mysql.Session)

namespace Session

/-- A session that has never been connected. -/
def initial : Backend → Session
  | .mock => .mock .initial
  | .postgres => .postgres .initial
  | .mysql => .mysql .initial

/-- The backend of a session. -/
def backend : Session → Backend
  | .mock _ => .mock
  | .postgres _ => .postgres
  | .mysql _ => .mysql

/-- Connects; the mock backend needs no settings. -/
def connect
    (network : Network)
    (settings : ConnectionSettings) : Session → Call Session Unit
  | .mock state =>
      (Mock.connect .standard state).mapState .mock
  | .postgres state =>
      (Postgres.connect network.postgres settings state).mapState .postgres
  | .mysql state =>
      (Mysql.connect network.mysql settings state).mapState .mysql

/-- Answers a probe. -/
def probe
    (network : Network) : Session → Call Session Unit
  | .mock state =>
      (Mock.probe .standard state).mapState .mock
  | .postgres state =>
      (Postgres.probe network.postgres state).mapState .postgres
  | .mysql state =>
      (Mysql.probe network.mysql state).mapState .mysql

/-- Runs a query. -/
def run
    (network : Network)
    (query : Query) : Session → Call Session ResultSet
  | .mock state =>
      (Mock.run .standard query state).mapState .mock
  | .postgres state =>
      (Postgres.run network.postgres query state).mapState .postgres
  | .mysql state =>
      (Mysql.run network.mysql query state).mapState .mysql

/-- Closes. -/
def close
    (network : Network) : Session → Call Session Unit
  | .mock state =>
      (Mock.close state).mapState .mock
  | .postgres state =>
      (Postgres.close state).mapState .postgres
  | .mysql state =>
      (Mysql.close network.mysql state).mapState .mysql

/-- The connector of sessions over a network. -/
def connector
    (network : Network) : Connector Session where
  probe := probe network
  run := run network
  close := close network

/-- Connects to the database of a configuration for the first time. -/
def start
    (network : Network)
    (database : DatabaseConfig) : Call Session Unit :=
  (initial database.backend).connect network (.ofConfig database)

/-- Probes once and closes; a failure to close is not a failure of the probe. -/
def probeAndClose
    (network : Network)
    (session : Session) : Call Session Unit :=
  let probed := session.probe network
  let closed := probed.state.close network
  ⟨probed.result, probed.duration + closed.duration, closed.state⟩

end Session

/-- Whether the database of a configuration answers: connects, probes once and closes. -/
def reach
    (network : Network)
    (database : DatabaseConfig) : Result Unit :=
  if database.lacksUrl then
    .error database.urlRequired
  else
    let started := Session.start network database
    match started.result with
    | .error error =>
        .error error
    | .ok () =>
        (started.state.probeAndClose network).result

end QueryAgent.Backend

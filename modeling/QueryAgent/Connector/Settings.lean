import QueryAgent.Config.Basic

namespace QueryAgent

/-!
# Connection settings

What a connector is told when it connects.
-/

/-- The settings of a connection; timeouts are in seconds. -/
structure ConnectionSettings where
  url : Option String
  sslMode : Option String
  connectSeconds : Option Nat
  querySeconds : Option Nat
  maxConnections : Option Nat
deriving Repr, DecidableEq

namespace ConnectionSettings

/-- Half a minute to connect, four connections, no address. -/
def standard : ConnectionSettings where
  url := none
  sslMode := none
  connectSeconds := some 30
  querySeconds := none
  maxConnections := some 4

/-- The settings that a configuration's database section gives. -/
def ofConfig
    (database : DatabaseConfig) : ConnectionSettings where
  url := database.url
  sslMode := some database.sslMode
  connectSeconds := some database.connectTimeout
  querySeconds := database.queryTimeout
  maxConnections := some database.maxConnections

/-- The seconds that connecting may take. -/
def connectTimeout
    (settings : ConnectionSettings) : Nat :=
  settings.connectSeconds.getD 30

/-- The seconds that a query may take; zero leaves it unbounded. -/
def queryTimeout
    (settings : ConnectionSettings) : Option Nat :=
  settings.querySeconds.filter (fun seconds => 0 < seconds)

/-- The size of the pool, at least one. -/
def poolSize
    (settings : ConnectionSettings) : Nat :=
  max (settings.maxConnections.getD 4) 1

/-- The address, which must not be blank. -/
def requireUrl
    (settings : ConnectionSettings) : Result String :=
  match Text.nonBlank? settings.url with
  | some url =>
      .ok url
  | none =>
      .error (.connector (.connectionFailed "connection url is required"))

end ConnectionSettings

end QueryAgent

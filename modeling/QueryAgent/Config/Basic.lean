import QueryAgent.Backend
import QueryAgent.Config.LogFormat
import QueryAgent.Error
import QueryAgent.Text.Blank

namespace QueryAgent

/-!
# Configuration

Where the controller is, which database to use, how often to poll, how to log;
and the rules that hold before the agent starts.
-/

/-- The controller and how to sign in to it; the timeout is in seconds. -/
structure ControllerConfig where
  url : String
  connectorId : String
  authToken : String
  requestTimeout : Nat
deriving Repr, DecidableEq

/-- The database; timeouts are in seconds, and queries may have none. -/
structure DatabaseConfig where
  backend : Backend
  url : Option String
  sslMode : String
  maxConnections : Nat
  connectTimeout : Nat
  queryTimeout : Option Nat
deriving Repr, DecidableEq

/-- The seconds between polls and between heartbeats. -/
structure ScheduleConfig where
  pollInterval : Nat
  heartbeatInterval : Nat
deriving Repr, DecidableEq

/-- What is logged and in which form. -/
structure LoggingConfig where
  level : String
  format : LogFormat
deriving Repr, DecidableEq

/-- The configuration of an agent. -/
structure AgentConfig where
  controller : ControllerConfig
  database : DatabaseConfig
  schedule : ScheduleConfig
  logging : LoggingConfig
deriving Repr, DecidableEq

/-- A controller on this machine, without credentials. -/
def ControllerConfig.standard : ControllerConfig where
  url := "http://localhost:9001"
  connectorId := ""
  authToken := ""
  requestTimeout := 30

/-- A PostgreSQL database without an address. -/
def DatabaseConfig.standard : DatabaseConfig where
  backend := .postgres
  url := none
  sslMode := "prefer"
  maxConnections := 4
  connectTimeout := 30
  queryTimeout := none

/-- A poll each five seconds and a heartbeat each thirty. -/
def ScheduleConfig.standard : ScheduleConfig where
  pollInterval := 5
  heartbeatInterval := 30

/-- Compact lines for what is worth telling. -/
def LoggingConfig.standard : LoggingConfig where
  level := "info"
  format := .compact

/-- The configuration that holds when nothing is set. -/
def AgentConfig.standard : AgentConfig where
  controller := .standard
  database := .standard
  schedule := .standard
  logging := .standard

/-- A database other than the mock one needs an address that is not blank. -/
def DatabaseConfig.lacksUrl
    (database : DatabaseConfig) : Bool :=
  database.backend ≠ .mock && (Text.nonBlank? database.url).isNone

/-- The error for a database without an address. -/
def DatabaseConfig.urlRequired
    (database : DatabaseConfig) : AgentError :=
  .configuration
    ("database url is required for the " ++ database.backend.name ++ " backend")

/-- The rule on intervals. -/
def intervalsRequired : AgentError :=
  .configuration "intervals must be greater than zero"

/-- Checks the rules in their order; the first one broken is the error. -/
def AgentConfig.validate
    (config : AgentConfig) : Result Unit :=
  if Text.allBlank config.controller.url then
    .error (.configuration "controller url is required")
  else if Text.allBlank config.controller.connectorId then
    .error (.configuration "connector id is required")
  else if Text.allBlank config.controller.authToken then
    .error (.configuration "auth token is required")
  else if config.database.lacksUrl then
    .error config.database.urlRequired
  else if config.schedule.pollInterval = 0 || config.schedule.heartbeatInterval = 0 then
    .error intervalsRequired
  else if config.database.maxConnections = 0 then
    .error (.configuration "max connections must be greater than zero")
  else
    .ok ()

end QueryAgent

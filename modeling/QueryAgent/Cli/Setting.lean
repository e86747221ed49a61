import QueryAgent.Cli.Display
import QueryAgent.Cli.Usage
import QueryAgent.Config.Basic

namespace QueryAgent.Cli

/-!
# Settings

What can be set on a command line, each with the way its value is read.  A
setting may also be taken from a variable of the environment.
-/

/-- What has been set so far. -/
structure Draft where
  logLevel : Option String
  logFormat : Option LogFormat
  controllerUrl : Option String
  connectorId : Option String
  authToken : Option String
  requestTimeout : Option Nat
  databaseUrl : Option String
  backend : Option Backend
  sslMode : Option String
  maxConnections : Option Nat
  connectTimeout : Option Nat
  queryTimeout : Option Nat
  pollInterval : Option Nat
  heartbeatInterval : Option Nat
  payload : Option String
  dialect : Option Sql.Dialect
  format : Option OutputFormat

/-- Nothing set. -/
def Draft.empty : Draft where
  logLevel := none
  logFormat := none
  controllerUrl := none
  connectorId := none
  authToken := none
  requestTimeout := none
  databaseUrl := none
  backend := none
  sslMode := none
  maxConnections := none
  connectTimeout := none
  queryTimeout := none
  pollInterval := none
  heartbeatInterval := none
  payload := none
  dialect := none
  format := none

/-- Why a value does not fit. -/
inductive ValueFault where
  | unlisted
  | invalid (reason : String)
deriving Repr, DecidableEq

/-- The reason a value does not fit, told of a setting. -/
def ValueFault.toStop
    (name value : String) : ValueFault → UsageStop
  | .unlisted => .unlistedValue name value
  | .invalid reason => .invalidValue name value reason

/-- A way to read a value. -/
abbrev ValueReader (α : Type) :=
  String → Except ValueFault α

/-- Takes any text as it is. -/
def readText : ValueReader String :=
  .ok

/-- Reads a natural number below a power of two. -/
def readBelow
    (bits : Nat) : ValueReader Nat :=
  fun value =>
    match Text.readNaturalBelow? bits value with
    | some number => .ok number
    | none => .error (.invalid "not a number in range")

/-- Reads the size of a pool; a sign is read too, and a negative size refused. -/
def readPoolSize : ValueReader Nat :=
  fun value =>
    match Text.readInteger? value.toList with
    | some number =>
        if 0 ≤ number && number < Nat.pow 2 32 then
          .ok number.toNat
        else
          .error (.invalid "not a number in range")
    | none =>
        .error (.invalid "not a number")

/-- Reads the name of a backend. -/
def readBackend : ValueReader Backend :=
  fun value => (Backend.ofName value).mapError .invalid

/-- Reads the name of a log format. -/
def readLogFormat : ValueReader LogFormat :=
  fun value => (LogFormat.ofName value).mapError .invalid

/-- Reads the name of a dialect. -/
def readDialect : ValueReader Sql.Dialect :=
  fun value =>
    match Sql.Dialect.ofName? value with
    | some dialect =>
        .ok dialect
    | none =>
        .error (.invalid
          ("unknown dialect '" ++ value ++ "', expected postgres or mysql"))

/-- Reads the name of an output format. -/
def readOutputFormat : ValueReader OutputFormat :=
  fun value =>
    match value with
    | "table" => .ok .table
    | "json" => .ok .json
    | _ => .error .unlisted

/-- Something that can be set once. -/
structure Setting where
  name : String
  letter : Option Char
  fallback : Option String
  isGiven : Draft → Bool
  fill : String → Draft → Except UsageStop Draft

namespace Setting

/-- The setting of one field of a draft. -/
def ofField
    (name : String)
    (read : ValueReader α)
    (field : Draft → Option α)
    (put : Draft → α → Draft) : Setting where
  name := name
  letter := none
  fallback := none
  isGiven := fun draft => (field draft).isSome
  fill := fun value draft =>
    match read value with
    | .ok content => .ok (put draft content)
    | .error fault => .error (fault.toStop name value)

/-- The same setting, with a letter for short. -/
def withLetter
    (setting : Setting)
    (letter : Char) : Setting :=
  { setting with letter := some letter }

/-- The same setting, also taken from a variable of the environment. -/
def withVariable
    (setting : Setting)
    (name : String) : Setting :=
  { setting with fallback := some name }

/-- Sets the value, unless one has been set already. -/
def give
    (setting : Setting)
    (value : String)
    (draft : Draft) : Except UsageStop Draft :=
  if setting.isGiven draft then
    .error (.repeated setting.name)
  else
    setting.fill value draft

end Setting

/-- The settings of logging, which every command takes. -/
def loggingSettings : List Setting :=
  [.ofField "log-level" readText Draft.logLevel
      (fun draft value => { draft with logLevel := some value }),
    (Setting.ofField "log-format" readLogFormat Draft.logFormat
      (fun draft value => { draft with logFormat := some value })).withVariable "LOG_FORMAT"]

/-- The settings of the controller. -/
def controllerSettings : List Setting :=
  [(Setting.ofField "controller-url" readText Draft.controllerUrl
      (fun draft value => { draft with controllerUrl := some value })).withVariable
      "CONTROLLER_URL",
    (Setting.ofField "connector-id" readText Draft.connectorId
      (fun draft value => { draft with connectorId := some value })).withVariable
      "CONNECTOR_ID",
    (Setting.ofField "auth-token" readText Draft.authToken
      (fun draft value => { draft with authToken := some value })).withVariable
      "AUTH_TOKEN",
    (Setting.ofField "request-timeout" (readBelow 64) Draft.requestTimeout
      (fun draft value => { draft with requestTimeout := some value })).withVariable
      "CONTROLLER_TIMEOUT_SECS"]

/-- The settings of the database. -/
def databaseSettings : List Setting :=
  [(Setting.ofField "database-url" readText Draft.databaseUrl
      (fun draft value => { draft with databaseUrl := some value })).withVariable
      "DB_URL",
    (Setting.ofField "backend" readBackend Draft.backend
      (fun draft value => { draft with backend := some value })).withVariable
      "DB_BACKEND",
    (Setting.ofField "ssl-mode" readText Draft.sslMode
      (fun draft value => { draft with sslMode := some value })).withVariable
      "DB_SSL_MODE",
    (Setting.ofField "max-connections" readPoolSize Draft.maxConnections
      (fun draft value => { draft with maxConnections := some value })).withVariable
      "DB_MAX_CONNECTIONS",
    (Setting.ofField "connect-timeout" (readBelow 64) Draft.connectTimeout
      (fun draft value => { draft with connectTimeout := some value })).withVariable
      "DB_CONNECT_TIMEOUT_SECS",
    (Setting.ofField "query-timeout" (readBelow 64) Draft.queryTimeout
      (fun draft value => { draft with queryTimeout := some value })).withVariable
      "DB_QUERY_TIMEOUT_SECS"]

/-- The settings of the schedule. -/
def scheduleSettings : List Setting :=
  [(Setting.ofField "poll-interval" (readBelow 64) Draft.pollInterval
      (fun draft value => { draft with pollInterval := some value })).withVariable
      "POLL_INTERVAL_SECS",
    (Setting.ofField "heartbeat-interval" (readBelow 64) Draft.heartbeatInterval
      (fun draft value => { draft with heartbeatInterval := some value })).withVariable
      "HEARTBEAT_INTERVAL_SECS"]

/-- The settings of a compilation. -/
def compileSettings : List Setting :=
  [(Setting.ofField "dialect" readDialect Draft.dialect
      (fun draft value => { draft with dialect := some value })).withLetter 'd',
    (Setting.ofField "format" readOutputFormat Draft.format
      (fun draft value => { draft with format := some value })).withLetter 'f']

/-- The payload, which is given without a name. -/
def payloadOperand : Setting :=
  .ofField "PAYLOAD" readText Draft.payload
    (fun draft value => { draft with payload := some value })

/-- The variables of the environment. -/
abbrev Environment := List (String × String)

/-- Sets from the environment what has not been set. -/
def fillFrom
    (environment : Environment) : List Setting → Draft → Except UsageStop Draft
  | [], draft =>
      .ok draft
  | setting :: rest, draft =>
      match setting.isGiven draft, setting.fallback.bind (fun name => environment.lookup name) with
      | false, some value => do
          let filled ← setting.fill value draft
          fillFrom environment rest filled
      | _, _ =>
          fillFrom environment rest draft

end QueryAgent.Cli

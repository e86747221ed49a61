import QueryAgent.Config.Basic

namespace QueryAgent

/-!
# Configuration documents

The JSON form of a configuration, in both directions.  Every section must be
there, and within a section every field that cannot be null.
-/

namespace ControllerConfig

/-- The JSON value of the section. -/
def toJson
    (config : ControllerConfig) : Json :=
  .object
    [("url", .text config.url),
      ("connector_id", .text config.connectorId),
      ("auth_token", .text config.authToken),
      ("request_timeout", .integer config.requestTimeout)]

/-- The fields of the section that have been given. -/
structure Draft where
  url : Option String
  connectorId : Option String
  authToken : Option String
  requestTimeout : Option Nat

/-- The fields of the section in their order. -/
def record : Json.Record Draft where
  name := "struct ControllerConfig"
  fields :=
    [{ name := "url"
       accepted := ["url"]
       mayEndBefore := false
       isGiven := fun draft => draft.url.isSome
       fill := fun depth node draft => do
         let url ← Json.decodeText depth node
         .ok { draft with url := some url } },
     { name := "connector_id"
       accepted := ["connector_id"]
       mayEndBefore := false
       isGiven := fun draft => draft.connectorId.isSome
       fill := fun depth node draft => do
         let connectorId ← Json.decodeText depth node
         .ok { draft with connectorId := some connectorId } },
     { name := "auth_token"
       accepted := ["auth_token"]
       mayEndBefore := false
       isGiven := fun draft => draft.authToken.isSome
       fill := fun depth node draft => do
         let authToken ← Json.decodeText depth node
         .ok { draft with authToken := some authToken } },
     { name := "request_timeout"
       accepted := ["request_timeout"]
       mayEndBefore := false
       isGiven := fun draft => draft.requestTimeout.isSome
       fill := fun depth node draft => do
         let requestTimeout ← Json.decodeNatural "u64" 64 depth node
         .ok { draft with requestTimeout := some requestTimeout } }]

/-- Decodes the section. -/
def decode : Json.Decoder ControllerConfig :=
  record.decode ⟨none, none, none, none⟩ fun draft => do
    let url ← Json.required "url" draft.url
    let connectorId ← Json.required "connector_id" draft.connectorId
    let authToken ← Json.required "auth_token" draft.authToken
    let requestTimeout ← Json.required "request_timeout" draft.requestTimeout
    .ok ⟨url, connectorId, authToken, requestTimeout⟩

end ControllerConfig

namespace DatabaseConfig

/-- A text or null. -/
def optionalText : Option String → Json
  | some content => .text content
  | none => .null

/-- A number or null. -/
def optionalNumber : Option Nat → Json
  | some number => .integer number
  | none => .null

/-- The JSON value of the section. -/
def toJson
    (config : DatabaseConfig) : Json :=
  .object
    [("backend", .text config.backend.documentName),
      ("url", optionalText config.url),
      ("ssl_mode", .text config.sslMode),
      ("max_connections", .integer config.maxConnections),
      ("connect_timeout", .integer config.connectTimeout),
      ("query_timeout", optionalNumber config.queryTimeout)]

/-- The fields of the section that have been given. -/
structure Draft where
  backend : Option Backend
  url : Option (Option String)
  sslMode : Option String
  maxConnections : Option Nat
  connectTimeout : Option Nat
  queryTimeout : Option (Option Nat)

/-- The fields of the section in their order. -/
def record : Json.Record Draft where
  name := "struct DatabaseConfig"
  fields :=
    [{ name := "backend"
       accepted := ["backend"]
       mayEndBefore := false
       isGiven := fun draft => draft.backend.isSome
       fill := fun depth node draft => do
         let backend ← Backend.decode depth node
         .ok { draft with backend := some backend } },
     { name := "url"
       accepted := ["url"]
       mayEndBefore := false
       isGiven := fun draft => draft.url.isSome
       fill := fun depth node draft => do
         let url ← Json.decodeOptional Json.decodeText depth node
         .ok { draft with url := some url } },
     { name := "ssl_mode"
       accepted := ["ssl_mode"]
       mayEndBefore := false
       isGiven := fun draft => draft.sslMode.isSome
       fill := fun depth node draft => do
         let sslMode ← Json.decodeText depth node
         .ok { draft with sslMode := some sslMode } },
     { name := "max_connections"
       accepted := ["max_connections"]
       mayEndBefore := false
       isGiven := fun draft => draft.maxConnections.isSome
       fill := fun depth node draft => do
         let maxConnections ← Json.decodeNatural "u32" 32 depth node
         .ok { draft with maxConnections := some maxConnections } },
     { name := "connect_timeout"
       accepted := ["connect_timeout"]
       mayEndBefore := false
       isGiven := fun draft => draft.connectTimeout.isSome
       fill := fun depth node draft => do
         let connectTimeout ← Json.decodeNatural "u64" 64 depth node
         .ok { draft with connectTimeout := some connectTimeout } },
     { name := "query_timeout"
       accepted := ["query_timeout"]
       mayEndBefore := false
       isGiven := fun draft => draft.queryTimeout.isSome
       fill := fun depth node draft => do
         let queryTimeout ←
           Json.decodeOptional (Json.decodeNatural "u64" 64) depth node
         .ok { draft with queryTimeout := some queryTimeout } }]

/-- Decodes the section; the address and the query timeout may be absent. -/
def decode : Json.Decoder DatabaseConfig :=
  record.decode ⟨none, none, none, none, none, none⟩ fun draft => do
    let backend ← Json.required "backend" draft.backend
    let sslMode ← Json.required "ssl_mode" draft.sslMode
    let maxConnections ← Json.required "max_connections" draft.maxConnections
    let connectTimeout ← Json.required "connect_timeout" draft.connectTimeout
    .ok
      ⟨backend, draft.url.join, sslMode, maxConnections, connectTimeout,
        draft.queryTimeout.join⟩

end DatabaseConfig

namespace ScheduleConfig

/-- The JSON value of the section. -/
def toJson
    (config : ScheduleConfig) : Json :=
  .object
    [("poll_interval", .integer config.pollInterval),
      ("heartbeat_interval", .integer config.heartbeatInterval)]

/-- The fields of the section that have been given. -/
structure Draft where
  pollInterval : Option Nat
  heartbeatInterval : Option Nat

/-- The fields of the section in their order. -/
def record : Json.Record Draft where
  name := "struct ScheduleConfig"
  fields :=
    [{ name := "poll_interval"
       accepted := ["poll_interval"]
       mayEndBefore := false
       isGiven := fun draft => draft.pollInterval.isSome
       fill := fun depth node draft => do
         let pollInterval ← Json.decodeNatural "u64" 64 depth node
         .ok { draft with pollInterval := some pollInterval } },
     { name := "heartbeat_interval"
       accepted := ["heartbeat_interval"]
       mayEndBefore := false
       isGiven := fun draft => draft.heartbeatInterval.isSome
       fill := fun depth node draft => do
         let heartbeatInterval ← Json.decodeNatural "u64" 64 depth node
         .ok { draft with heartbeatInterval := some heartbeatInterval } }]

/-- Decodes the section. -/
def decode : Json.Decoder ScheduleConfig :=
  record.decode ⟨none, none⟩ fun draft => do
    let pollInterval ← Json.required "poll_interval" draft.pollInterval
    let heartbeatInterval ← Json.required "heartbeat_interval" draft.heartbeatInterval
    .ok ⟨pollInterval, heartbeatInterval⟩

end ScheduleConfig

namespace LoggingConfig

/-- The JSON value of the section. -/
def toJson
    (config : LoggingConfig) : Json :=
  .object
    [("level", .text config.level), ("format", .text config.format.name)]

/-- The fields of the section that have been given. -/
structure Draft where
  level : Option String
  format : Option LogFormat

/-- The fields of the section in their order. -/
def record : Json.Record Draft where
  name := "struct LoggingConfig"
  fields :=
    [{ name := "level"
       accepted := ["level"]
       mayEndBefore := false
       isGiven := fun draft => draft.level.isSome
       fill := fun depth node draft => do
         let level ← Json.decodeText depth node
         .ok { draft with level := some level } },
     { name := "format"
       accepted := ["format"]
       mayEndBefore := false
       isGiven := fun draft => draft.format.isSome
       fill := fun depth node draft => do
         let format ← LogFormat.decode depth node
         .ok { draft with format := some format } }]

/-- Decodes the section. -/
def decode : Json.Decoder LoggingConfig :=
  record.decode ⟨none, none⟩ fun draft => do
    let level ← Json.required "level" draft.level
    let format ← Json.required "format" draft.format
    .ok ⟨level, format⟩

end LoggingConfig

namespace AgentConfig

/-- The JSON value of a configuration. -/
def toJson
    (config : AgentConfig) : Json :=
  .object
    [("controller", config.controller.toJson),
      ("database", config.database.toJson),
      ("schedule", config.schedule.toJson),
      ("logging", config.logging.toJson)]

/-- The sections that have been given. -/
structure Draft where
  controller : Option ControllerConfig
  database : Option DatabaseConfig
  schedule : Option ScheduleConfig
  logging : Option LoggingConfig

/-- The sections in their order. -/
def record : Json.Record Draft where
  name := "struct AgentConfig"
  fields :=
    [{ name := "controller"
       accepted := ["controller"]
       mayEndBefore := false
       isGiven := fun draft => draft.controller.isSome
       fill := fun depth node draft => do
         let controller ← ControllerConfig.decode depth node
         .ok { draft with controller := some controller } },
     { name := "database"
       accepted := ["database"]
       mayEndBefore := false
       isGiven := fun draft => draft.database.isSome
       fill := fun depth node draft => do
         let database ← DatabaseConfig.decode depth node
         .ok { draft with database := some database } },
     { name := "schedule"
       accepted := ["schedule"]
       mayEndBefore := false
       isGiven := fun draft => draft.schedule.isSome
       fill := fun depth node draft => do
         let schedule ← ScheduleConfig.decode depth node
         .ok { draft with schedule := some schedule } },
     { name := "logging"
       accepted := ["logging"]
       mayEndBefore := false
       isGiven := fun draft => draft.logging.isSome
       fill := fun depth node draft => do
         let logging ← LoggingConfig.decode depth node
         .ok { draft with logging := some logging } }]

/-- Decodes a configuration. -/
def decode : Json.Decoder AgentConfig :=
  record.decode ⟨none, none, none, none⟩ fun draft => do
    let controller ← Json.required "controller" draft.controller
    let database ← Json.required "database" draft.database
    let schedule ← Json.required "schedule" draft.schedule
    let logging ← Json.required "logging" draft.logging
    .ok ⟨controller, database, schedule, logging⟩

end AgentConfig

end QueryAgent

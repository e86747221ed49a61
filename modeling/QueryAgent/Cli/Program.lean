import QueryAgent.Agent.Startup
import QueryAgent.Cli.Arguments
import QueryAgent.Logging.Filter
import QueryAgent.Query.Payload

namespace QueryAgent.Cli

/-!
# The program

What the program writes and with which code it ends, given its words and its
surroundings.  Results go to the output; errors and remarks go elsewhere, so
that the output can be piped.
-/

/-- Gives the bytes of the file at a path, or the words for why it cannot be read. -/
abbrev FileReader :=
  String → Except String (List UInt8)

/-- Where a payload is: in the argument itself, or in the file at a path. -/
inductive PayloadSource where
  | inline (payload : String)
  | file (path : String)
deriving Repr, DecidableEq

/-- An argument that begins with an at sign is the path of a file. -/
def PayloadSource.ofArgument
    (argument : String) : PayloadSource :=
  match argument.toList with
  | '@' :: path => .file (String.ofList path)
  | _ => .inline argument

/-- The error for a payload file. -/
def unreadablePayload
    (path reason : String) : AgentError :=
  .configuration ("Failed to read payload file '" ++ path ++ "': " ++ reason)

/-- The payload that an argument is or points at; a file must hold UTF-8. -/
def readPayload
    (files : FileReader)
    (argument : String) : Result String :=
  match PayloadSource.ofArgument argument with
  | .inline payload =>
      .ok payload
  | .file path =>
      match files path with
      | .error reason =>
          .error (unreadablePayload path reason)
      | .ok bytes =>
          match Text.decodeUtf8 bytes with
          | .ok characters =>
              .ok (String.ofList characters)
          | .error _ =>
              .error (unreadablePayload path "stream did not contain valid UTF-8")

/-- The statement of a payload in a dialect. -/
def compile
    (files : FileReader)
    (argument : String)
    (dialect : Sql.Dialect) : Result Sql.Statement := do
  let payload ← readPayload files argument
  let query ← Query.ofPayload payload
  dialect.statement query

/-- Says that the database of a configuration answers. -/
def probe
    (network : Backend.Network)
    (database : DatabaseConfig) : Result String := do
  Backend.reach network database
  .ok (database.backend.name ++ " backend is reachable")

/-- What the program leaves: the code it ends with, its output, its errors and remarks. -/
structure Report where
  code : Nat
  output : String
  errors : String
deriving Repr, DecidableEq

/-- What surrounds the program. -/
structure Surroundings where
  environment : Environment
  files : FileReader
  network : Backend.Network
  colored : Bool
  agentId : String

/-- What the program comes to: it ends, or an agent is to be run. -/
inductive Outcome where
  | ended (report : Report)
  | serving (agent : Agent.Ready)

namespace Report

/-- Words that come to no command. -/
def ofStop
    (stop : UsageStop) : Report :=
  if stop.isAnswered then
    ⟨0, stop.message, ""⟩
  else
    ⟨2, "", stop.message⟩

/-- An error of the agent. -/
def ofError
    (colored : Bool)
    (error : AgentError) : Report :=
  ⟨1, "", showError colored error ++ "\n"⟩

/-- A compiled statement; a table comes with a remark on the dialect. -/
def ofStatement
    (colored : Bool)
    (format : OutputFormat)
    (dialect : Sql.Dialect)
    (statement : Sql.Statement) : Report where
  code := 0
  output := showStatement colored format dialect statement ++ "\n"
  errors :=
    match format with
    | .table => showInfo colored ("compiled for " ++ dialect.name) ++ "\n"
    | .json => ""

/-- A probe that succeeded. -/
def ofProbe
    (colored : Bool)
    (message : String) : Report :=
  ⟨0, showSuccess colored message ++ "\n", ""⟩

/-- A run that has ended. -/
def ofRun
    (colored : Bool) : Result Unit → Report
  | .ok () => ⟨0, "", ""⟩
  | .error error => ofError colored error

end Report

/-- The configuration of the agent that a run command asks for. -/
def Arguments.agentConfig
    (arguments : Arguments)
    (controller : ControllerConfig)
    (database : DatabaseConfig)
    (schedule : ScheduleConfig) : AgentConfig where
  controller := controller
  database := database
  schedule := schedule
  logging := arguments.logging

/-- Carries out a command. -/
def Arguments.perform
    (arguments : Arguments)
    (surroundings : Surroundings) : Result Outcome :=
  let colored := surroundings.colored
  match arguments.command with
  | .run controller database schedule =>
      (Agent.start surroundings.network
        (arguments.agentConfig controller database schedule) surroundings.agentId).map .serving
  | .compile argument dialect format =>
      (compile surroundings.files argument dialect).map fun statement =>
        .ended (.ofStatement colored format dialect statement)
  | .probe database =>
      (probe surroundings.network database).map fun message =>
        .ended (.ofProbe colored message)

/-- The variable whose filter takes precedence over the level that was set. -/
def filterVariable : String := "RUST_LOG"

/-- Carries out a command once its log filter has been read. -/
def Arguments.outcome
    (arguments : Arguments)
    (surroundings : Surroundings) : Result Outcome := do
  let _ ← Logging.Filter.choose (surroundings.environment.lookup filterVariable)
    arguments.logging.level
  arguments.perform surroundings

/-- The file that the words of a command line need read, if any. -/
def payloadPath?
    (environment : Environment)
    (words : List String) : Option String :=
  match Arguments.ofWords environment words with
  | .ok ⟨.compile argument _ _, _⟩ =>
      match PayloadSource.ofArgument argument with
      | .file path => some path
      | .inline _ => none
  | _ =>
      none

/-- Whether a variable switches something on, none when it is not there. -/
def switchedOn?
    (environment : Environment)
    (name : String) : Option Bool :=
  (environment.lookup name).map (fun value => value ≠ "0")

/-- Whether to write in colours: as the environment says, else on terminals. -/
def usesColor
    (environment : Environment)
    (isTerminal : Bool) : Bool :=
  if switchedOn? environment "CLICOLOR_FORCE" = some true then
    true
  else if (switchedOn? environment "NO_COLOR").isSome then
    false
  else
    (switchedOn? environment "CLICOLOR").getD true && isTerminal

/-- The variables of the environment that the program looks at. -/
def environmentNames : List String :=
  (controllerSettings ++ databaseSettings ++ scheduleSettings ++ loggingSettings).filterMap
      Setting.fallback
    ++ [filterVariable, "CLICOLOR_FORCE", "NO_COLOR", "CLICOLOR"]

/-- What the words of a command line come to. -/
def outcome
    (surroundings : Surroundings)
    (words : List String) : Outcome :=
  match Arguments.ofWords surroundings.environment words with
  | .error stop =>
      .ended (.ofStop stop)
  | .ok arguments =>
      match arguments.outcome surroundings with
      | .ok outcome =>
          outcome
      | .error error =>
          .ended (.ofError surroundings.colored error)

end QueryAgent.Cli

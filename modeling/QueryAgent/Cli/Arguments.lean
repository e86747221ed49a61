import QueryAgent.Cli.Setting
import QueryAgent.Text.Split

namespace QueryAgent.Cli

/-!
# Arguments

The words of a command line as a command.  Words are taken from left to right,
and the first mistake is the one reported.  The value of a setting is read only
when the next setting or operand begins or when the words end, so a word that
is not known comes before a value that does not fit.
-/

/-- What the program is asked to do. -/
inductive Command where
  | run (controller : ControllerConfig) (database : DatabaseConfig) (schedule : ScheduleConfig)
  | compile (payload : String) (dialect : Sql.Dialect) (format : OutputFormat)
  | probe (database : DatabaseConfig)
deriving Repr, DecidableEq

/-- A command, and how to log while it is carried out. -/
structure Arguments where
  command : Command
  logging : LoggingConfig
deriving Repr, DecidableEq

/-- The forms of words. -/
inductive Word where
  /-- Two hyphens: only operands follow. -/
  | separator
  /-- A name after two hyphens, perhaps with a value after an equals sign. -/
  | named (name : String) (value : Option String)
  /-- A letter after one hyphen, and what follows in the word. -/
  | lettered (letter : Char) (rest : List Char)
  /-- Anything else. -/
  | plain
deriving Repr, DecidableEq

/-- The form of a word. -/
def Word.ofText
    (word : String) : Word :=
  match word.toList with
  | ['-', '-'] =>
      .separator
  | '-' :: '-' :: content =>
      match Text.splitFirst? '=' content with
      | some (name, value) => .named (String.ofList name) (some (String.ofList value))
      | none => .named (String.ofList content) none
  | '-' :: letter :: rest =>
      .lettered letter rest
  | _ =>
      .plain

/-- The value that follows a letter in the same word. -/
def attachedValue? : List Char → Option String
  | [] => none
  | '=' :: value => some (String.ofList value)
  | value => some (String.ofList value)

/-- What can follow at some point of a command line. -/
structure Grammar where
  settings : List Setting
  operands : List Setting
  commands : List String
  answersVersion : Bool

namespace Grammar

/-- The request of a flag by its name. -/
def flagNamed?
    (grammar : Grammar)
    (name : String) : Option UsageStop :=
  if name = "help" then
    some .help
  else if grammar.answersVersion && name = "version" then
    some .version
  else
    none

/-- The request of a flag by its letter. -/
def flagLettered?
    (grammar : Grammar)
    (letter : Char) : Option UsageStop :=
  if letter = 'h' then
    some .help
  else if grammar.answersVersion && letter = 'V' then
    some .version
  else
    none

/-- The setting of a name. -/
def settingNamed?
    (grammar : Grammar)
    (name : String) : Option Setting :=
  grammar.settings.find? (fun setting => setting.name = name)

/-- The setting of a letter. -/
def settingLettered?
    (grammar : Grammar)
    (letter : Char) : Option Setting :=
  grammar.settings.find? (fun setting => setting.letter = some letter)

/-- A command of a name, or the one that helps with the others. -/
def isCommand
    (grammar : Grammar)
    (word : String) : Bool :=
  !grammar.commands.isEmpty && (word = "help" || grammar.commands.contains word)

/-- What a request for help comes to: help, unless a word after it is no command. -/
def helpFor
    (grammar : Grammar) : List String → UsageStop
  | [] => .help
  | [name] => if grammar.isCommand name then .help else .unknownCommand name
  | name :: next :: _ => .unknownCommand (if grammar.isCommand name then next else name)

end Grammar

/-- A setting whose value has not been read yet, or has not come yet. -/
structure Pending where
  setting : Setting
  value : Option String

/-- How far the words have been taken. -/
structure Progress where
  draft : Draft
  pending : Option Pending
  operands : List Setting
  onlyOperands : Bool

namespace Progress

/-- No word taken. -/
def initial
    (grammar : Grammar) : Progress where
  draft := .empty
  pending := none
  operands := grammar.operands
  onlyOperands := false

/-- Whether the next word is to be a value. -/
def awaitsValue
    (progress : Progress) : Bool :=
  match progress.pending with
  | some pending => pending.value.isNone
  | none => false

/-- Reads the value that is pending. -/
def settle
    (progress : Progress) : Except UsageStop Progress :=
  match progress.pending with
  | none =>
      .ok progress
  | some ⟨setting, none⟩ =>
      .error (.missingValue setting.name)
  | some ⟨setting, some value⟩ => do
      let draft ← setting.give value progress.draft
      .ok { progress with draft := draft, pending := none }

/-- Takes a setting; a value in the same word is read at once. -/
def takeSetting
    (progress : Progress)
    (setting : Setting)
    (value : Option String) : Except UsageStop Progress := do
  let settled ← progress.settle
  match value with
  | none =>
      .ok { settled with pending := some ⟨setting, none⟩ }
  | some value => do
      let draft ← setting.give value settled.draft
      .ok { settled with draft := draft }

/-- Takes a flag, which ends the reading. -/
def takeFlag
    (progress : Progress)
    (stop : UsageStop) : Except UsageStop Progress := do
  let _ ← progress.settle
  .error stop

/-- Takes a word that begins with two hyphens. -/
def takeNamed
    (progress : Progress)
    (grammar : Grammar)
    (name : String)
    (value : Option String) : Except UsageStop Progress :=
  match grammar.flagNamed? name, grammar.settingNamed? name with
  | some stop, _ =>
      if value.isSome then
        .error (.unexpectedValue name)
      else
        progress.takeFlag stop
  | none, some setting =>
      progress.takeSetting setting value
  | none, none =>
      .error (.unknownArgument ("--" ++ name))

/-- Takes a word that begins with one hyphen. -/
def takeLettered
    (progress : Progress)
    (grammar : Grammar)
    (letter : Char)
    (rest : List Char) : Except UsageStop Progress :=
  match grammar.flagLettered? letter, grammar.settingLettered? letter with
  | some stop, _ =>
      progress.takeFlag stop
  | none, some setting =>
      progress.takeSetting setting (attachedValue? rest)
  | none, none =>
      .error (.unknownArgument (String.ofList ['-', letter]))

/-- Takes an operand. -/
def takeOperand
    (progress : Progress)
    (grammar : Grammar)
    (word : String) : Except UsageStop Progress :=
  match progress.operands with
  | operand :: others => do
      let settled ← progress.settle
      .ok { settled with pending := some ⟨operand, some word⟩, operands := others }
  | [] =>
      if grammar.commands.isEmpty || grammar.isCommand word then
        .error (.unknownArgument word)
      else
        .error (.unknownCommand word)

/-- Takes a word that is no command. -/
def takeWord
    (progress : Progress)
    (grammar : Grammar)
    (word : String) : Except UsageStop Progress :=
  if progress.onlyOperands then
    progress.takeOperand grammar word
  else
    match Word.ofText word with
    | .separator =>
        .ok { progress with onlyOperands := true }
    | .named name value =>
        progress.takeNamed grammar name value
    | .lettered letter rest =>
        progress.takeLettered grammar letter rest
    | .plain =>
        match progress.pending with
        | some ⟨setting, none⟩ =>
            .ok { progress with pending := some ⟨setting, some word⟩ }
        | _ =>
            progress.takeOperand grammar word

/-- Takes words up to a command; answers with the command and the words after it. -/
def takeWords
    (grammar : Grammar) :
    Progress → List String → Except UsageStop (Progress × Option (String × List String))
  | progress, [] =>
      .ok (progress, none)
  | progress, word :: rest =>
      if !progress.onlyOperands && !progress.awaitsValue && grammar.isCommand word then
        if word = "help" then
          .error (grammar.helpFor rest)
        else
          .ok (progress, some (word, rest))
      else do
        let next ← progress.takeWord grammar word
        takeWords grammar next rest

end Progress

/-- What must have been set. -/
def required
    (name : String) : Option α → Except UsageStop α
  | some value => .ok value
  | none => .error (.missingRequired name)

namespace Draft

/-- The configuration of the controller. -/
def controller
    (draft : Draft) : Except UsageStop ControllerConfig := do
  let standard := ControllerConfig.standard
  let connectorId ← required "connector-id" draft.connectorId
  let authToken ← required "auth-token" draft.authToken
  .ok
    { url := draft.controllerUrl.getD standard.url
      connectorId := connectorId
      authToken := authToken
      requestTimeout := draft.requestTimeout.getD standard.requestTimeout }

/-- The configuration of the database. -/
def database
    (draft : Draft) : DatabaseConfig :=
  let standard := DatabaseConfig.standard
  { backend := draft.backend.getD standard.backend
    url := draft.databaseUrl
    sslMode := draft.sslMode.getD standard.sslMode
    maxConnections := draft.maxConnections.getD standard.maxConnections
    connectTimeout := draft.connectTimeout.getD standard.connectTimeout
    queryTimeout := draft.queryTimeout }

/-- The configuration of the schedule. -/
def schedule
    (draft : Draft) : ScheduleConfig :=
  let standard := ScheduleConfig.standard
  { pollInterval := draft.pollInterval.getD standard.pollInterval
    heartbeatInterval := draft.heartbeatInterval.getD standard.heartbeatInterval }

/-- The command that a draft is for, by its name. -/
def command
    (draft : Draft) : String → Except UsageStop Command
  | "run" => do
      let controller ← draft.controller
      .ok (.run controller draft.database draft.schedule)
  | "compile" => do
      let payload ← required payloadOperand.name draft.payload
      .ok (.compile payload (draft.dialect.getD .postgres) (draft.format.getD .table))
  | "probe" =>
      .ok (.probe draft.database)
  | name =>
      .error (.unknownCommand name)

end Draft

/-- What follows the name of a command. -/
def commandGrammar
    (name : String) : Grammar where
  settings :=
    (match name with
      | "run" => controllerSettings ++ databaseSettings ++ scheduleSettings
      | "compile" => compileSettings
      | "probe" => databaseSettings
      | _ => []) ++ loggingSettings
  operands := if name = "compile" then [payloadOperand] else []
  commands := []
  answersVersion := false

/-- What the words begin with. -/
def rootGrammar : Grammar where
  settings := loggingSettings
  operands := []
  commands := ["run", "compile", "probe"]
  answersVersion := true

/-- What is set for logging: after the command, before it, by the environment. -/
def loggingOf
    (after before surrounding : Draft) : LoggingConfig :=
  let standard := LoggingConfig.standard
  { level := (after.logLevel.or before.logLevel).getD standard.level
    format :=
      ((after.logFormat.or before.logFormat).or surrounding.logFormat).getD standard.format }

namespace Arguments

/-- The words of a command line without a command. -/
def withoutCommand
    (environment : Environment)
    (before : Progress) : Except UsageStop Arguments := do
  let settled ← before.settle
  let draft ← fillFrom environment loggingSettings settled.draft
  if loggingSettings.any (fun setting => setting.isGiven draft) then
    .error .missingCommand
  else
    .error .nothingGiven

/-- The words of a command line with a command and the words after it. -/
def withCommand
    (environment : Environment)
    (before : Progress)
    (name : String)
    (words : List String) : Except UsageStop Arguments := do
  let grammar := commandGrammar name
  let (taken, _) ← Progress.takeWords grammar (.initial grammar) words
  let after ← taken.settle
  let full ← fillFrom environment grammar.settings after.draft
  let command ← full.command name
  let settled ← before.settle
  let _ ← fillFrom environment loggingSettings settled.draft
  .ok ⟨command, loggingOf after.draft settled.draft full⟩

/-- The words of a command line, without the name of the program, in an environment. -/
def ofWords
    (environment : Environment)
    (words : List String) : Except UsageStop Arguments := do
  let (before, command) ← Progress.takeWords rootGrammar (.initial rootGrammar) words
  match command with
  | none => withoutCommand environment before
  | some (name, rest) => withCommand environment before name rest

end Arguments

end QueryAgent.Cli

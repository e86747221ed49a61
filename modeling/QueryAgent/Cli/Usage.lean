namespace QueryAgent.Cli

/-!
# Usage

Why the words of a command line come to no command, and what is said about it.
Asking for help or for the version is such a reason, but no mistake.
-/

/-- Why words come to no command. -/
inductive UsageStop where
  | help
  | version
  | nothingGiven
  | missingCommand
  | unknownCommand (word : String)
  | unknownArgument (word : String)
  | repeated (name : String)
  | missingValue (name : String)
  | unexpectedValue (name : String)
  | unlistedValue (name value : String)
  | invalidValue (name value reason : String)
  | missingRequired (name : String)
deriving Repr, DecidableEq

namespace UsageStop

/-- The name under which the program is called. -/
def programName : String := "sqlrunner-agent"

/-- The name of the program with its version. -/
def versionText : String := programName ++ " 0.1.0\n"

/-- How the program is called. -/
def helpText : String :=
  "Remote SQL execution agent\n\n"
    ++ "Usage: " ++ programName ++ " [OPTIONS] <COMMAND>\n\n"
    ++ "Commands:\n"
    ++ "  run      Connect to the controller and process jobs until interrupted\n"
    ++ "  compile  Compile a DSL payload to SQL without touching a database\n"
    ++ "  probe    Connect to the configured database and run the liveness probe once\n"
    ++ "  help     Print this message\n\n"
    ++ "Options:\n"
    ++ "      --log-level <LOG_LEVEL>    Log level or filter directives\n"
    ++ "      --log-format <LOG_FORMAT>  Log line format: compact or json\n"
    ++ "  -h, --help                     Print help\n"
    ++ "  -V, --version                  Print version\n"

/-- The words for a mistake. -/
def reason : UsageStop → String
  | .help => ""
  | .version => ""
  | .nothingGiven => "nothing was asked for"
  | .missingCommand => "a command is required"
  | .unknownCommand word => "unrecognized command '" ++ word ++ "'"
  | .unknownArgument word => "unexpected argument '" ++ word ++ "' found"
  | .repeated name => "'" ++ name ++ "' cannot be used multiple times"
  | .missingValue name => "a value is required for '" ++ name ++ "' but none was supplied"
  | .unexpectedValue name => "'" ++ name ++ "' takes no value"
  | .unlistedValue name value => "invalid value '" ++ value ++ "' for '" ++ name ++ "'"
  | .invalidValue name value reason =>
      "invalid value '" ++ value ++ "' for '" ++ name ++ "': " ++ reason
  | .missingRequired name => "'" ++ name ++ "' is required"

/-- Help and version are answered, anything else is a mistake. -/
def isAnswered : UsageStop → Bool
  | .help => true
  | .version => true
  | _ => false

/-- What is written about it. -/
def message : UsageStop → String
  | .help => helpText
  | .version => versionText
  | .nothingGiven => helpText
  | stop => "error: " ++ stop.reason ++ "\n"

end UsageStop

end QueryAgent.Cli

import QueryAgent.Connector.Settings
import QueryAgent.Url.Parser

namespace QueryAgent.Mysql

/-!
# Connection options

Where a MySQL server is and how to sign in, read from a URL and from the
settings of the connection.
-/

/-- Why a URL gives no options. -/
inductive UrlFault where
  | unreadable (cause : Url.Fault)
  | unsupportedScheme (scheme : String)
  | incomplete
  | unknownParameter (name : String)
  | invalidValue (name value : String)
  | invalidPool (least greatest : Nat)
deriving Repr, DecidableEq

/-- The words of a fault. -/
def UrlFault.message : UrlFault → String
  | .unreadable cause =>
      "URL parse error: " ++ cause.message
  | .unsupportedScheme scheme =>
      "Unsupported connection URL scheme `" ++ scheme ++ "'"
  | .incomplete =>
      "Invalid or incomplete connection URL"
  | .unknownParameter name =>
      "Unknown connection URL parameter `" ++ name ++ "'"
  | .invalidValue name value =>
      "Invalid value `" ++ value ++ "' for connection URL parameter `" ++ name ++ "'"
  | .invalidPool least greatest =>
      "Invalid pool constraints: pool_min (" ++ Text.decimal least ++ ") > pool_max ("
        ++ Text.decimal greatest ++ ")."

/-- How an encrypted connection checks the server. -/
structure Encryption where
  acceptsInvalidCertificates : Bool
  skipsDomainValidation : Bool
deriving Repr, DecidableEq

/-- The options of a connection. -/
structure Options where
  host : String
  port : Nat
  user : Option String
  password : Option String
  database : Option String
  poolLeast : Nat
  poolGreatest : Nat
  encryption : Option Encryption
deriving Repr, DecidableEq

/-- The port of a server when the URL names none. -/
def standardPort : Nat := 3306

/-- A plus sign in a query stands for a blank. -/
def plusAsBlank
    (content : List Char) : List Char :=
  content.map fun character => if character = '+' then ' ' else character

/-- One part of a query as a name and a value. -/
def queryPair
    (part : List Char) : String × String :=
  let (name, value) := (Text.splitFirst? '=' part).getD (part, [])
  (String.ofList (Url.decodeText (plusAsBlank name)),
    String.ofList (Url.decodeText (plusAsBlank value)))

/-- The names and values of a query in their order. -/
def queryPairs
    (query : List Char) : List (String × String) :=
  ((Text.splitAll (· == '&') query).filter (fun part => !part.isEmpty)).map queryPair

/-- A part of a URL decoded, nothing when it is empty. -/
def decodedPart?
    (part : List Char) : Option String :=
  if part.isEmpty then
    none
  else
    some (String.ofList (Url.decodeText part))

/-- What the query of a URL may set. -/
structure QuerySettings where
  poolLeast : Nat
  poolGreatest : Nat
  encrypts : Bool
  acceptsInvalidCertificates : Bool
  skipsDomainValidation : Bool
deriving Repr, DecidableEq

/-- The settings that hold when the query sets nothing. -/
def QuerySettings.standard : QuerySettings where
  poolLeast := 10
  poolGreatest := 100
  encrypts := false
  acceptsInvalidCertificates := false
  skipsDomainValidation := false

/-- The kinds of values that a parameter takes. -/
inductive ParameterKind where
  | number (bits : Nat)
  | truth
  | compression
  | anything
deriving Repr, DecidableEq

/-- The parameters that a query may hold. -/
def parameterKinds : List (String × ParameterKind) :=
  [("pool_min", .number 64), ("pool_max", .number 64),
    ("inactive_connection_ttl", .number 64), ("ttl_check_interval", .number 64),
    ("conn_ttl", .number 64), ("abs_conn_ttl", .number 64),
    ("abs_conn_ttl_jitter", .number 64), ("tcp_keepalive", .number 32),
    ("max_allowed_packet", .number 64), ("wait_timeout", .number 64),
    ("enable_cleartext_plugin", .truth), ("reset_connection", .truth),
    ("tcp_nodelay", .truth), ("stmt_cache_size", .number 64), ("prefer_socket", .truth),
    ("secure_auth", .truth), ("client_found_rows", .truth), ("socket", .anything),
    ("compression", .compression), ("require_ssl", .truth), ("verify_ca", .truth),
    ("verify_identity", .truth)]

/-- The levels of compression by name or by digit. -/
def isCompression
    (value : String) : Bool :=
  ["fast", "on", "true", "best"].contains value
    || (value.length = 1 && value.toList.all Char.isDigit)

/-- Whether a value is of a kind. -/
def ParameterKind.accepts
    (kind : ParameterKind)
    (value : String) : Bool :=
  match kind with
  | .number bits => (Text.readNaturalBelow? bits value).isSome
  | .truth => value = "true" || value = "false"
  | .compression => isCompression value
  | .anything => true

/-- The name under which a value that does not fit is reported. -/
def reportedName
    (name : String) : String :=
  if name = "tcp_keepalive" then "tcp_keepalive_ms" else name

/-- Makes the setting of a parameter whose value fits. -/
def QuerySettings.set
    (settings : QuerySettings)
    (name value : String) : QuerySettings :=
  match name with
  | "pool_min" =>
      { settings with poolLeast := (Text.readNaturalBelow? 64 value).getD 0 }
  | "pool_max" =>
      { settings with poolGreatest := (Text.readNaturalBelow? 64 value).getD 0 }
  | "require_ssl" =>
      { settings with encrypts := value = "true" }
  | "verify_ca" =>
      { settings with acceptsInvalidCertificates := value ≠ "true" }
  | "verify_identity" =>
      { settings with skipsDomainValidation := value ≠ "true" }
  | _ =>
      settings

/-- Makes the settings of a query; the first that is not known or does not fit is the fault. -/
def QuerySettings.setAll
    (settings : QuerySettings) : List (String × String) → Except UrlFault QuerySettings
  | [] =>
      .ok settings
  | (name, value) :: rest =>
      match parameterKinds.lookup name with
      | none =>
          .error (.unknownParameter name)
      | some kind =>
          if kind.accepts value then
            (settings.set name value).setAll rest
          else
            .error (.invalidValue (reportedName name) value)

namespace Options

/-- Reads options from a URL. -/
def ofUrl
    (content : String) : Except UrlFault Options := do
  let url ← (Url.parse content).mapError .unreadable
  if url.port.isNone && (!url.hasHost || Url.isFileScheme url.scheme) then
    .error .incomplete
  else if url.scheme ≠ "mysql".toList then
    .error (.unsupportedScheme (String.ofList url.scheme))
  else
    let query ← QuerySettings.standard.setAll (queryPairs (url.query.getD []))
    if query.poolGreatest < query.poolLeast then
      .error (.invalidPool query.poolLeast query.poolGreatest)
    else
      .ok
        { host := String.ofList url.hostText
          port := url.port.getD standardPort
          user := decodedPart? url.username
          password := decodedPart? url.password
          database := decodedPart? (url.path.parts.headD [])
          poolLeast := query.poolLeast
          poolGreatest := query.poolGreatest
          encryption :=
            if query.encrypts then
              some ⟨query.acceptsInvalidCertificates, query.skipsDomainValidation⟩
            else
              none }

/-- The options with the encryption that a mode asks for, none for a mode that is not known. -/
def withSslMode?
    (options : Options)
    (mode : String) : Option Options :=
  match mode with
  | "" => some options
  | "disable" => some options
  | "prefer" => some options
  | "require" => some { options with encryption := some ⟨true, false⟩ }
  | "verify-ca" => some { options with encryption := some ⟨false, false⟩ }
  | "verify-full" => some { options with encryption := some ⟨false, false⟩ }
  | _ => none

/-- The options that the settings of a connection give; they set the size of the pool. -/
def ofSettings
    (settings : ConnectionSettings) : Result Options := do
  let url ← settings.requireUrl
  match ofUrl url with
  | .error fault =>
      .error (.connector (.connectionFailed ("Invalid connection url: " ++ fault.message)))
  | .ok options =>
      let mode := Text.trim (settings.sslMode.getD "prefer")
      match withSslMode? { options with poolLeast := 0, poolGreatest := settings.poolSize } mode with
      | some options =>
          .ok options
      | none =>
          .error (.connector (.connectionFailed ("Unsupported ssl mode: " ++ mode)))

end Options

end QueryAgent.Mysql

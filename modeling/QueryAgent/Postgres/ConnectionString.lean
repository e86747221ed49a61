import QueryAgent.Text.Address
import QueryAgent.Text.Blank
import QueryAgent.Url.Percent

namespace QueryAgent.Postgres

/-!
# Connection strings

Where a PostgreSQL server is and how to sign in, as a URL or as settings of
the form `key=value`.  A setting given twice keeps its last value, except for
hosts and ports, which are gathered.
-/

/-- Whether the connection is encrypted. -/
inductive SslMode where
  | disable
  | prefer
  | require
deriving Repr, DecidableEq

/-- How the server is told that encryption is wanted. -/
inductive SslNegotiation where
  | postgres
  | direct
deriving Repr, DecidableEq

/-- Which servers will do. -/
inductive SessionTarget where
  | any
  | readWrite
  | readOnly
deriving Repr, DecidableEq

/-- Whether the sign-in is bound to the encrypted channel. -/
inductive ChannelBinding where
  | disable
  | prefer
  | require
deriving Repr, DecidableEq

/-- In which order hosts are tried. -/
inductive HostOrder where
  | given
  | random
deriving Repr, DecidableEq

/-- Where a server listens. -/
inductive ServerHost where
  | name (content : String)
  | socket (path : List UInt8)
deriving Repr, DecidableEq

/-- An address of a server in numbers. -/
inductive HostAddress where
  | ipv4 (bytes : List Nat)
  | ipv6 (groups : List Nat)
deriving Repr, DecidableEq

/-- The settings of a connection; times are in seconds. -/
structure ConnectionString where
  user : Option String
  password : Option (List UInt8)
  database : Option String
  options : Option String
  applicationName : Option String
  sslMode : SslMode
  sslNegotiation : SslNegotiation
  hosts : List ServerHost
  hostAddresses : List HostAddress
  ports : List Nat
  connectTimeout : Option Nat
  userTimeout : Option Nat
  keepsAlive : Bool
  idleBeforeProbe : Nat
  probeInterval : Option Nat
  probeRetries : Option Nat
  sessionTarget : SessionTarget
  channelBinding : ChannelBinding
  hostOrder : HostOrder
deriving Repr, DecidableEq

namespace ConnectionString

/-- The settings that hold when nothing is set. -/
def standard : ConnectionString where
  user := none
  password := none
  database := none
  options := none
  applicationName := none
  sslMode := .prefer
  sslNegotiation := .postgres
  hosts := []
  hostAddresses := []
  ports := []
  connectTimeout := none
  userTimeout := none
  keepsAlive := true
  idleBeforeProbe := 7200
  probeInterval := none
  probeRetries := none
  sessionTarget := .any
  channelBinding := .prefer
  hostOrder := .given

/-- The texts between commas. -/
def listed
    (value : String) : List String :=
  (Text.splitAll (· == ',') value.toList).map String.ofList

/-- A host by its name, or by the path of a socket. -/
def hostOf
    (content : String) : ServerHost :=
  if content.toList.head? = some '/' then
    .socket (Text.encodeUtf8 content.toList)
  else
    .name content

/-- An address in either form. -/
def hostAddressOf?
    (content : String) : Option HostAddress :=
  match Text.readIpv4? content.toList with
  | some bytes =>
      some (.ipv4 bytes)
  | none =>
      (Text.readIpv6? content.toList).map .ipv6

/-- A port; an empty one is the usual one. -/
def portOf?
    (content : String) : Option Nat :=
  if content.isEmpty then
    some 5432
  else
    Text.readNaturalBelow? 16 content

/-- The seconds of a time, nothing when it is not positive. -/
def secondsOf?
    (value : String) : Option (Option Nat) :=
  (Text.readIntegerWithin? 64 value).map fun seconds =>
    if 0 < seconds then some seconds.toNat else none

/-- The mode of a name. -/
def sslModeOf? : String → Option SslMode
  | "disable" => some .disable
  | "prefer" => some .prefer
  | "require" => some .require
  | _ => none

/-- Makes one setting; a key that is not known or a value that does not fit is refused. -/
def set?
    (settings : ConnectionString)
    (key value : String) : Option ConnectionString :=
  match key with
  | "user" =>
      some { settings with user := some value }
  | "password" =>
      some { settings with password := some (Text.encodeUtf8 value.toList) }
  | "dbname" =>
      some { settings with database := some value }
  | "options" =>
      some { settings with options := some value }
  | "application_name" =>
      some { settings with applicationName := some value }
  | "sslmode" =>
      (sslModeOf? value).map fun mode => { settings with sslMode := mode }
  | "sslnegotiation" =>
      match value with
      | "postgres" => some { settings with sslNegotiation := .postgres }
      | "direct" => some { settings with sslNegotiation := .direct }
      | _ => none
  | "host" =>
      some { settings with hosts := settings.hosts ++ (listed value).map hostOf }
  | "hostaddr" =>
      ((listed value).mapM hostAddressOf?).map fun addresses =>
        { settings with hostAddresses := settings.hostAddresses ++ addresses }
  | "port" =>
      ((listed value).mapM portOf?).map fun ports =>
        { settings with ports := settings.ports ++ ports }
  | "connect_timeout" =>
      (secondsOf? value).map fun seconds =>
        { settings with connectTimeout := seconds.orElse fun _ => settings.connectTimeout }
  | "tcp_user_timeout" =>
      (secondsOf? value).map fun seconds =>
        { settings with userTimeout := seconds.orElse fun _ => settings.userTimeout }
  | "keepalives" =>
      (Text.readNaturalBelow? 64 value).map fun number =>
        { settings with keepsAlive := number ≠ 0 }
  | "keepalives_idle" =>
      (secondsOf? value).map fun seconds =>
        { settings with idleBeforeProbe := seconds.getD settings.idleBeforeProbe }
  | "keepalives_interval" =>
      (secondsOf? value).map fun seconds =>
        { settings with probeInterval := seconds.orElse fun _ => settings.probeInterval }
  | "keepalives_retries" =>
      (Text.readNaturalBelow? 32 value).map fun retries =>
        { settings with probeRetries := some retries }
  | "target_session_attrs" =>
      match value with
      | "any" => some { settings with sessionTarget := .any }
      | "read-write" => some { settings with sessionTarget := .readWrite }
      | "read-only" => some { settings with sessionTarget := .readOnly }
      | _ => none
  | "channel_binding" =>
      match value with
      | "disable" => some { settings with channelBinding := .disable }
      | "prefer" => some { settings with channelBinding := .prefer }
      | "require" => some { settings with channelBinding := .require }
      | _ => none
  | "load_balance_hosts" =>
      match value with
      | "disable" => some { settings with hostOrder := .given }
      | "random" => some { settings with hostOrder := .random }
      | _ => none
  | _ =>
      none

/-- Makes settings one after another. -/
def setAll?
    (settings : ConnectionString) : List (String × String) → Option ConnectionString
  | [] =>
      some settings
  | (key, value) :: rest => do
      let settings ← settings.set? key value
      settings.setAll? rest

/-! ## Settings of the form `key=value` -/

/-- A value without quotes, in which a backslash takes the next character as it is. -/
def readBare : List Char → List Char × List Char
  | [] =>
      ([], [])
  | '\\' :: next :: rest =>
      let (value, after) := readBare rest
      (next :: value, after)
  | ['\\'] =>
      ([], [])
  | character :: rest =>
      if Text.isBlank character then
        ([], character :: rest)
      else
        let (value, after) := readBare rest
        (character :: value, after)

/-- A value up to the closing quote, none without one. -/
def readQuoted? : List Char → Option (List Char × List Char)
  | [] =>
      none
  | '\'' :: rest =>
      some ([], rest)
  | '\\' :: next :: rest =>
      (readQuoted? rest).map fun parts => (next :: parts.1, parts.2)
  | ['\\'] =>
      none
  | character :: rest =>
      (readQuoted? rest).map fun parts => (character :: parts.1, parts.2)

/-- A value in quotes or without; without them it cannot be empty. -/
def readValue? : List Char → Option (List Char × List Char)
  | '\'' :: rest =>
      readQuoted? rest
  | characters =>
      let (value, after) := readBare characters
      if value.isEmpty then none else some (value, after)

/-- A character that a key can hold. -/
def isKeyChar
    (character : Char) : Bool :=
  !Text.isBlank character && character ≠ '='

/-- What follows the equals sign after a key. -/
def afterEquals?
    (characters : List Char) : Option (List Char) :=
  match Text.trimStartList characters with
  | '=' :: rest =>
      some (Text.trimStartList rest)
  | _ =>
      none

/-- The settings of a text, at most as many as it has characters. -/
def readPairs? : Nat → List Char → Option (List (String × String))
  | 0, _ =>
      some []
  | more + 1, characters =>
      let started := Text.trimStartList characters
      let key := started.takeWhile isKeyChar
      if key.isEmpty then
        some []
      else do
        let started ← afterEquals? (started.dropWhile isKeyChar)
        let (value, rest) ← readValue? started
        let others ← readPairs? more rest
        some ((String.ofList key, String.ofList value) :: others)

/-- Reads settings of the form `key=value`. -/
def ofPairs?
    (characters : List Char) : Option ConnectionString := do
  let pairs ← readPairs? (characters.length + 1) characters
  standard.setAll? pairs

/-! ## URLs -/

/-- The text that a text in percent form stands for, none when it is none. -/
def decoded?
    (content : List Char) : Option String :=
  match Text.decodeUtf8 (Url.decode content) with
  | .ok characters =>
      some (String.ofList characters)
  | .error _ =>
      none

/-- Adds a host in percent form. -/
def addHost?
    (settings : ConnectionString)
    (content : List Char) : Option ConnectionString :=
  let bytes := Url.decode content
  match bytes with
  | 0x2f :: _ =>
      some { settings with hosts := settings.hosts ++ [.socket bytes] }
  | _ =>
      (decoded? content).map fun name =>
        { settings with hosts := settings.hosts ++ [.name name] }

/-- Takes the credentials off the front, which an at sign ends. -/
def takeCredentials?
    (content : List Char) : Option (ConnectionString × List Char) :=
  match Text.splitFirst? '@' content with
  | none =>
      some (standard, content)
  | some (credentials, rest) =>
      match Text.splitFirst? ':' credentials with
      | none =>
          (decoded? credentials).map fun user =>
            ({ standard with user := some user }, rest)
      | some (user, password) =>
          (decoded? user).map fun user =>
            ({ standard with user := some user, password := some (Url.decode password) }, rest)

/-- The host of a server and its port, none when brackets are not closed or followed. -/
def splitHostPort? : List Char → Option (List Char × List Char)
  | '[' :: rest =>
      match Text.splitFirst? ']' rest with
      | some (host, []) => some (host, "5432".toList)
      | some (host, ':' :: port) => some (host, port)
      | _ => none
  | content =>
      match Text.splitFirst? ':' content with
      | some (host, port) => some (host, port)
      | none => some (content, "5432".toList)

/-- Adds servers, each with its port. -/
def addServers?
    (settings : ConnectionString) : List (List Char) → Option ConnectionString
  | [] =>
      some settings
  | server :: rest => do
      let (host, port) ← splitHostPort? server
      let settings ← settings.addHost? host
      let port ← decoded? port
      let settings ← settings.set? "port" port
      settings.addServers? rest

/-- A character that ends the servers of a URL. -/
def endsServers
    (character : Char) : Bool :=
  character = '/' || character = '?'

/-- Takes the servers off the front. -/
def takeServers?
    (settings : ConnectionString)
    (content : List Char) : Option (ConnectionString × List Char) :=
  let servers := content.takeWhile (fun c => !endsServers c)
  let rest := content.dropWhile (fun c => !endsServers c)
  if servers.isEmpty then
    some (settings, rest)
  else
    (settings.addServers? (Text.splitAll (· == ',') servers)).map fun settings =>
      (settings, rest)

/-- Takes the database off the front. -/
def takeDatabase?
    (settings : ConnectionString)
    (content : List Char) : Option (ConnectionString × List Char) :=
  match content with
  | '/' :: path =>
      let database := path.takeWhile (· ≠ '?')
      let rest := path.dropWhile (· ≠ '?')
      if database.isEmpty then
        some (settings, rest)
      else
        (decoded? database).map fun database =>
          ({ settings with database := some database }, rest)
  | content =>
      some (settings, content)

/-- Makes one setting in percent form; a host is not split at commas. -/
def setEncoded?
    (settings : ConnectionString)
    (key value : List Char) : Option ConnectionString := do
  let key ← decoded? key
  if key = "host" then
    settings.addHost? value
  else
    let value ← decoded? value
    settings.set? key value

/-- Makes the settings of a query, at most as many as it has characters. -/
def setQuery?
    (settings : ConnectionString) : Nat → List Char → Option ConnectionString
  | 0, _ =>
      some settings
  | more + 1, content =>
      if content.isEmpty then
        some settings
      else do
        let (key, rest) ← Text.splitFirst? '=' content
        match Text.splitFirst? '&' rest with
        | some (value, rest) =>
            let settings ← settings.setEncoded? key value
            settings.setQuery? more rest
        | none =>
            settings.setEncoded? key rest

/-- Reads a URL from what follows its scheme. -/
def ofUrl?
    (content : List Char) : Option ConnectionString := do
  let (settings, content) ← takeCredentials? content
  let (settings, content) ← settings.takeServers? content
  let (settings, content) ← settings.takeDatabase? content
  match content with
  | '?' :: query =>
      settings.setQuery? (query.length + 1) query
  | _ =>
      some settings

/-- What follows the scheme of a URL, none when the text is no URL. -/
def afterScheme?
    (content : List Char) : Option (List Char) :=
  (Text.afterFront? "postgres://".toList content).orElse fun _ =>
    Text.afterFront? "postgresql://".toList content

/-- Reads a connection string in either form. -/
def parse?
    (content : String) : Option ConnectionString :=
  match afterScheme? content.toList with
  | some rest =>
      ofUrl? rest
  | none =>
      ofPairs? content.toList

/-- Whether every server has a host and the ports fit the hosts. -/
def isComplete
    (settings : ConnectionString) : Bool :=
  let servers := max settings.hosts.length settings.hostAddresses.length
  0 < servers
    && (settings.hosts.isEmpty || settings.hostAddresses.isEmpty
      || settings.hosts.length = settings.hostAddresses.length)
    && (settings.ports.length ≤ 1 || settings.ports.length = servers)

end ConnectionString

/-- Adds a mode to a connection string that does not name one. -/
def withSslMode
    (url : String)
    (mode : Option String) : String :=
  match Text.nonBlank? mode with
  | none =>
      url
  | some mode =>
      let mode := Text.trim mode
      if Text.occursIn "sslmode=".toList url.toList then
        url
      else if Text.occursIn "://".toList url.toList then
        url ++ (if url.toList.contains '?' then "&" else "?") ++ "sslmode=" ++ mode
      else
        String.ofList (Text.trimEndList url.toList) ++ " sslmode=" ++ mode

end QueryAgent.Postgres

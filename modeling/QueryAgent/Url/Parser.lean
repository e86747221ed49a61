import QueryAgent.Url.Segment

namespace QueryAgent.Url

/-!
# Reading addresses

An address by itself, or relative to another one.  The query and the fragment
are cut off first, then comes the scheme, then host and path.
-/

/-- A character that is dropped at both ends: a blank or a control. -/
def isMargin
    (character : Char) : Bool :=
  character.toNat ≤ 0x20

/-- The text without margins, tabs and line breaks. -/
def cleaned
    (content : List Char) : List Char :=
  let started := content.dropWhile isMargin
  let trimmed := (started.reverse.dropWhile isMargin).reverse
  trimmed.filter (fun character => !isDropped character)

/-- A text with its query and its fragment cut off. -/
structure Reference where
  body : List Char
  query : Option (List Char)
  fragment : Option (List Char)
deriving Repr, DecidableEq

/-- Cuts a text at its first number sign and before that at its first question mark. -/
def Reference.ofText
    (content : List Char) : Reference :=
  let (before, fragment) :=
    match Text.splitFirst? '#' content with
    | some (before, fragment) => (before, some fragment)
    | none => (content, none)
  match Text.splitFirst? '?' before with
  | some (body, query) => ⟨body, some query, fragment⟩
  | none => ⟨before, none, fragment⟩

/-- A character that a scheme can hold. -/
def isSchemeChar
    (character : Char) : Bool :=
  character.isAlphanum || character = '+' || character = '-' || character = '.'

/-- The scheme in lower case and what follows its colon, none without a scheme. -/
def takeScheme? : List Char → Option (List Char × List Char)
  | first :: rest =>
      match rest.dropWhile isSchemeChar with
      | ':' :: after =>
          if first.isAlpha then
            some ((first :: rest.takeWhile isSchemeChar).map Char.toLower, after)
          else
            none
      | _ =>
          none
  | [] =>
      none

/-- The query as an address of a scheme writes it. -/
def encodeQuery
    (scheme : List Char) : Option (List Char) → Option (List Char) :=
  Option.map
    (encode (if isSpecialScheme scheme then reservedInSpecialQuery else reservedInQuery))

/-- The fragment as it is written. -/
def encodeFragment : Option (List Char) → Option (List Char) :=
  Option.map (encode reservedInFragment)

/-- The credentials, host and port that stand before the path. -/
structure Authority where
  username : List Char
  password : List Char
  host : Host
  port : Option Nat
deriving Repr, DecidableEq

/-- No credentials, an empty name, no port. -/
def Authority.empty : Authority :=
  ⟨[], [], .name [], none⟩

/-- Splits a host from what follows the first colon outside brackets. -/
def splitPort
    (bracketed : Bool) : List Char → List Char × Option (List Char)
  | [] =>
      ([], none)
  | character :: rest =>
      if character = ':' && !bracketed then
        ([], some rest)
      else
        let (host, port) :=
          splitPort (if character = '[' then true else if character = ']' then false else bracketed)
            rest
        (character :: host, port)

/-- Reads a port up to its end or to a backslash; the default one of the scheme is left out. -/
def readPort
    (scheme : List Char)
    (content : List Char) : Except Fault (Option Nat × List Char) :=
  let digits := content.takeWhile Char.isDigit
  let left := content.dropWhile Char.isDigit
  let port := Text.foldDigits 0 digits
  if 65535 < port || left.head?.any (· ≠ '\\') then
    .error .invalidPort
  else if digits.isEmpty || defaultPort? scheme = some port then
    .ok (none, left)
  else
    .ok (some port, left)

/-- A host, a port and what is left behind them. -/
structure Place where
  host : Host
  port : Option Nat
  left : List Char
deriving Repr, DecidableEq

/-- Reads a host and a port; special schemes need a host. -/
def readPlace
    (scheme : List Char)
    (content : List Char) : Except Fault Place := do
  let (hostText, portText) := splitPort false content
  if hostText.isEmpty && (isSpecialScheme scheme || portText.isSome) then
    .error .emptyHost
  else
    let host ←
      if isSpecialScheme scheme then readSpecialHost hostText else readPlainHost hostText
    let (port, left) ←
      match portText with
      | some digits => readPort scheme digits
      | none => .ok (none, [])
    .ok ⟨host, port, left⟩

/-- A user name and a password with the colon between them. -/
def splitCredentials
    (credentials : List Char) : List Char × List Char :=
  (Text.splitFirst? ':' credentials).getD (credentials, [])

/-- The credentials that stand before the last at sign, and what follows it. -/
def takeCredentials
    (content : List Char) : List Char × List Char :=
  (Text.splitLast? '@' content).getD ([], content)

/-- Reads what stands between two slashes and the path; credentials need a host. -/
def readAuthority
    (scheme : List Char)
    (content : List Char) : Except Fault (Authority × List Char) := do
  let (credentials, rest) := takeCredentials content
  let (username, password) := splitCredentials credentials
  let place ← readPlace scheme rest
  if place.host = .name [] && !(username.isEmpty && password.isEmpty) then
    .error .emptyHost
  else
    .ok
      ({ username := encode reservedInCredentials username
         password := encode reservedInCredentials password
         host := place.host
         port := place.port },
        place.left)

/-- The path of a text after a host; special schemes always have one. -/
def pathAfterHost
    (scheme : List Char)
    (content : List Char) : Path :=
  match content with
  | [] =>
      if isSpecialScheme scheme then .segments [[]] else .segments []
  | first :: rest =>
      .segments (resolve scheme [] (if isSlash scheme first then rest else first :: rest))

/-- An address from its parts. -/
def assemble
    (scheme : List Char)
    (authority : Option Authority)
    (path : Path)
    (reference : Reference) : Url where
  scheme := scheme
  username := (authority.map Authority.username).getD []
  password := (authority.map Authority.password).getD []
  host := authority.map Authority.host
  port := authority.bind Authority.port
  path := path
  query := encodeQuery scheme reference.query
  fragment := encodeFragment reference.fragment

/-- Nothing stands behind a text in the address. -/
def endsAddress
    (after : List Char)
    (reference : Reference) : Bool :=
  after.isEmpty && reference.query.isNone && reference.fragment.isNone

/-- Reads an address from what follows its two slashes. -/
def readAfterSlashes
    (scheme : List Char)
    (content : List Char)
    (reference : Reference) : Except Fault Url := do
  let authorityText := content.takeWhile (fun c => !isSlash scheme c)
  let pathText := content.dropWhile (fun c => !isSlash scheme c)
  if authorityText = ['@'] && !endsAddress pathText reference then
    .error .emptyHost
  else
    let (authority, left) ← readAuthority scheme authorityText
    let path := pathAfterHost scheme (left ++ pathText)
    .ok (assemble scheme (some authority) path reference)

/-- Either slash. -/
def isEitherSlash
    (character : Char) : Bool :=
  character = '/' || character = '\\'

/-- Reads an address with a scheme that is not special. -/
def readPlain
    (scheme : List Char)
    (content : List Char)
    (reference : Reference) : Except Fault Url :=
  match content with
  | '/' :: '/' :: rest =>
      readAfterSlashes scheme rest reference
  | '/' :: rest =>
      .ok (assemble scheme none (.segments (resolve scheme [] rest)) reference)
  | content =>
      .ok (assemble scheme none (.plain (encode reservedNowhere content)) reference)

/-- The authority of another address. -/
def authority?
    (url : Url) : Option Authority :=
  url.host.map fun host => ⟨url.username, url.password, host, url.port⟩

/-- The segments of a path, none of a plain one. -/
def Path.parts : Path → List (List Char)
  | .plain _ => []
  | .segments parts => parts

/-- The same address up to its path, with the query and fragment of a reference. -/
def withReference
    (base : Url)
    (reference : Reference) : Url :=
  let query :=
    match reference.body, reference.query with
    | [], none => base.query
    | _, query => encodeQuery base.scheme query
  { base with
    query := query
    fragment := encodeFragment reference.fragment }

/-- The segments above the last one of a base. -/
def placeOf
    (base : Url) : List (List Char) :=
  base.path.parts.dropLast

/-- Reads a text relative to an address with segments. -/
def readRelative
    (base : Url)
    (reference : Reference) : Except Fault Url :=
  match reference.body with
  | [] =>
      .ok (base.withReference reference)
  | first :: rest =>
      if isEitherSlash first then
        match rest with
        | second :: after =>
            if isEitherSlash second then
              readAfterSlashes base.scheme
                (if first = '/' && second = '/' then after else after.dropWhile isEitherSlash)
                reference
            else
              .ok (assemble base.scheme base.authority?
                (.segments (resolve base.scheme [] rest)) reference)
        | [] =>
            .ok (assemble base.scheme base.authority?
              (.segments (resolve base.scheme [] rest)) reference)
      else
        .ok (assemble base.scheme base.authority?
          (.segments (resolve base.scheme (placeOf base) reference.body)) reference)

/-- A text that begins with the letter of a drive as a whole segment. -/
def startsWithDrive
    (content : List Char) : Bool :=
  isDriveLetter (content.takeWhile (fun c => !isEitherSlash c))

/-- The address of a file from its host and the text of its path. -/
def fileUrl
    (scheme : List Char)
    (host : Host)
    (before : List (List Char))
    (content : List Char)
    (reference : Reference) : Url :=
  assemble scheme (some { Authority.empty with host := host })
    (.segments (resolve scheme before content)) reference

/-- Reads the host of a file; this machine counts as none. -/
def readFileHost
    (content : List Char) : Except Fault Host :=
  if content.isEmpty then
    .ok (.name [])
  else
    (readSpecialHost content).map fun host =>
      if host = .name "localhost".toList then .name [] else host

/-- Reads the address of a file from what follows its two slashes; a drive needs no host. -/
def readFileAfterSlashes
    (scheme : List Char)
    (content : List Char)
    (reference : Reference) : Except Fault Url := do
  let hostText := content.takeWhile (fun c => !isEitherSlash c)
  if isDriveLetter hostText then
    .ok (fileUrl scheme (.name []) [] content reference)
  else
    let host ← readFileHost hostText
    let rest := content.dropWhile (fun c => !isEitherSlash c)
    if host = .name [] then
      .ok (fileUrl scheme host [] rest reference)
    else
      let below := rest.drop 1
      let onDrive := (extended scheme [] below).head?.any isKeptDriveLetter
      .ok (fileUrl scheme (if onDrive then .name [] else host) [] below reference)

/-- The drive that a base keeps. -/
def driveOf
    (base : Url) : List (List Char) :=
  (base.path.parts.take 1).filter isKeptDriveLetter

/-- The address of a file at the root of a base: on its drive, or else on its host. -/
def fileAtRoot
    (scheme : List Char)
    (base : Option Url)
    (content : List Char)
    (reference : Reference) : Url :=
  let drive := (base.map driveOf).getD []
  let host := if drive.isEmpty then (base.bind Url.host).getD (.name []) else .name []
  fileUrl scheme host drive content reference

/-- Reads the address of a file, perhaps relative to that of another. -/
def readFile
    (scheme : List Char)
    (base : Option Url)
    (reference : Reference) : Except Fault Url :=
  match reference.body with
  | [] =>
      match base with
      | some base => .ok (base.withReference reference)
      | none => .ok (fileUrl scheme (.name []) [] [] reference)
  | first :: rest =>
      if isEitherSlash first then
        match rest with
        | second :: after =>
            if isEitherSlash second then
              readFileAfterSlashes scheme after reference
            else if startsWithDrive rest then
              .ok (fileUrl scheme (.name []) [] rest reference)
            else
              .ok (fileAtRoot scheme base rest reference)
        | [] =>
            .ok (fileAtRoot scheme base rest reference)
      else if startsWithDrive reference.body then
        .ok (fileUrl scheme (.name []) [] reference.body reference)
      else
        .ok (fileUrl scheme ((base.bind Url.host).getD (.name []))
          ((base.map placeOf).getD []) reference.body reference)

/-- Reads an address with a special scheme that is not that of files. -/
def readSpecial
    (scheme : List Char)
    (base : Option Url)
    (content : List Char)
    (reference : Reference) : Except Fault Url :=
  match base with
  | some base =>
      if base.scheme = scheme && (content.takeWhile isEitherSlash).length < 2 then
        readRelative base { reference with body := content }
      else
        readAfterSlashes scheme (content.dropWhile isEitherSlash) reference
  | none =>
      readAfterSlashes scheme (content.dropWhile isEitherSlash) reference

/-- Reads a text without a scheme, which needs a base. -/
def readWithoutScheme
    (base : Option Url)
    (reference : Reference) : Except Fault Url :=
  match base with
  | none =>
      .error .relativeWithoutBase
  | some base =>
      match base.path with
      | .plain _ =>
          if reference.body.isEmpty && reference.query.isNone && reference.fragment.isSome then
            .ok { base with fragment := encodeFragment reference.fragment }
          else
            .error .relativeWithPlainBase
      | .segments _ =>
          if isFileScheme base.scheme then
            readFile base.scheme (some base) reference
          else
            readRelative base reference

/-- Reads an address, relative to a base when there is one. -/
def read
    (base : Option Url)
    (content : List Char) : Except Fault Url :=
  let reference := Reference.ofText (cleaned content)
  match takeScheme? reference.body with
  | none =>
      readWithoutScheme base reference
  | some (scheme, rest) =>
      if isFileScheme scheme then
        readFile scheme (base.filter (fun base => isFileScheme base.scheme))
          { reference with body := rest }
      else if isSpecialScheme scheme then
        readSpecial scheme base rest reference
      else
        readPlain scheme rest reference

/-- The address that a text is. -/
def parse
    (content : String) : Except Fault Url :=
  read none content.toList

/-- The address that a text is relative to another one. -/
def join
    (base : Url)
    (content : String) : Except Fault Url :=
  read (some base) content.toList

end QueryAgent.Url

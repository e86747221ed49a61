import QueryAgent.Url.Host

namespace QueryAgent

/-!
# Addresses

An address is a scheme, perhaps a host with credentials and a port, a path, and
perhaps a query and a fragment.  All parts are kept in the form in which they
are written.
-/

/-- The path of an address: segments, or for some schemes a plain text. -/
inductive Url.Path where
  | plain (content : List Char)
  | segments (parts : List (List Char))
deriving Repr, DecidableEq

/-- An address; its host is absent when it has no place for one. -/
structure Url where
  scheme : List Char
  username : List Char
  password : List Char
  host : Option Url.Host
  port : Option Nat
  path : Url.Path
  query : Option (List Char)
  fragment : Option (List Char)
deriving Repr, DecidableEq

namespace Url

/-- The port of a scheme when the address names none. -/
def defaultPort?
    (scheme : List Char) : Option Nat :=
  match String.ofList scheme with
  | "http" => some 80
  | "ws" => some 80
  | "https" => some 443
  | "wss" => some 443
  | "ftp" => some 21
  | _ => none

/-- The scheme of files. -/
def isFileScheme
    (scheme : List Char) : Bool :=
  String.ofList scheme = "file"

/-- A scheme whose addresses always have a host or are files. -/
def isSpecialScheme
    (scheme : List Char) : Bool :=
  isFileScheme scheme || (defaultPort? scheme).isSome

/-- A path as it is written. -/
def Path.written : Path → List Char
  | .plain content =>
      content
  | .segments parts =>
      parts.flatMap (fun part => '/' :: part)

/-- The path as it is written. -/
def pathText
    (url : Url) : String :=
  String.ofList url.path.written

/-- The credentials as they are written in front of the host. -/
def credentialsText
    (url : Url) : List Char :=
  if url.username.isEmpty && url.password.isEmpty then
    []
  else
    url.username
      ++ (if url.password.isEmpty then [] else ':' :: url.password)
      ++ ['@']

/-- What stands between the scheme and the path. -/
def authorityText
    (url : Url) : List Char :=
  match url.host with
  | some host =>
      '/' :: '/' :: (url.credentialsText ++ host.written
        ++ match url.port with
          | some port => ':' :: Text.decimalList port
          | none => [])
  | none =>
      match url.path with
      | .segments ([] :: _ :: _) =>
          ['/', '.']
      | _ =>
          []

/-- A part that is written after its mark when it is there. -/
def markedText
    (mark : Char) : Option (List Char) → List Char
  | some content =>
      mark :: content
  | none =>
      []

/-- The address as it is written. -/
def written
    (url : Url) : String :=
  String.ofList
    (url.scheme ++ ':' :: (url.authorityText ++ url.path.written
      ++ markedText '?' url.query ++ markedText '#' url.fragment))

/-- Whether the address names a host. -/
def hasHost
    (url : Url) : Bool :=
  match url.host with
  | some (.name []) => false
  | some _ => true
  | none => false

/-- The host as it is written. -/
def hostText
    (url : Url) : List Char :=
  (url.host.map Host.written).getD []

end Url

end QueryAgent

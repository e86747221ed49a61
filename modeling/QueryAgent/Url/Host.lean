import QueryAgent.Text.Address
import QueryAgent.Text.Split
import QueryAgent.Url.Name
import QueryAgent.Url.Percent

namespace QueryAgent.Url

/-!
# Hosts

A host is a name, an address of four bytes or an address of eight groups.
Addresses are read in every form in which they can be written.
-/

/-- Why a text is no address. -/
inductive Fault where
  | relativeWithoutBase
  | relativeWithPlainBase
  | emptyHost
  | invalidPort
  | invalidIpv4
  | invalidIpv6
  | invalidHostChar
  | invalidName
deriving Repr, DecidableEq

/-- The words of a fault. -/
def Fault.message : Fault → String
  | .relativeWithoutBase => "relative URL without a base"
  | .relativeWithPlainBase => "relative URL with a cannot-be-a-base base"
  | .emptyHost => "empty host"
  | .invalidPort => "invalid port number"
  | .invalidIpv4 => "invalid IPv4 address"
  | .invalidIpv6 => "invalid IPv6 address"
  | .invalidHostChar => "invalid domain character"
  | .invalidName => "invalid international domain name"

/-- The host of an address; the empty name is the host of one that has none. -/
inductive Host where
  | name (content : List Char)
  | ipv4 (address : Nat)
  | ipv6 (groups : List Nat)
deriving Repr, DecidableEq

/-- The bytes of a number of 32 bits, the highest first. -/
def ipv4Bytes
    (address : Nat) : List UInt8 :=
  [UInt8.ofNat (address / 16777216 % 256), UInt8.ofNat (address / 65536 % 256),
    UInt8.ofNat (address / 256 % 256), UInt8.ofNat (address % 256)]

/-- A host as it is written. -/
def Host.written : Host → List Char
  | .name content =>
      content
  | .ipv4 address =>
      Text.showIpv4 (ipv4Bytes address)
  | .ipv6 groups =>
      '[' :: (Text.showIpv6Groups groups ++ [']'])

/-- The digits of a number in base eight, ten or sixteen, with the base. -/
def splitRadix : List Char → Nat × List Char
  | '0' :: 'x' :: digits => (16, digits)
  | '0' :: 'X' :: digits => (16, digits)
  | '0' :: next :: digits => (8, next :: digits)
  | digits => (10, digits)

/-- The value of digits in a base, none when one is no digit of it. -/
def readInRadix?
    (radix : Nat)
    (digits : List Char) : Option Nat :=
  digits.foldl
    (fun read digit =>
      read.bind fun number =>
        ((Text.hexValue? digit).filter (· < radix)).map fun value =>
          number * radix + value)
    (some 0)

/-- One part of an address of four bytes, none when it is no number. -/
def ipv4Part?
    (part : List Char) : Option Nat :=
  if part.isEmpty then
    none
  else
    let (radix, digits) := splitRadix part
    readInRadix? radix digits

/-- The parts of a name, without the empty one after a final dot. -/
def nameParts
    (name : List Char) : List (List Char) :=
  let parts := Text.splitAll (· == '.') name
  if 1 < parts.length && parts.getLast? == some [] then
    parts.dropLast
  else
    parts

/-- A name whose last part is a number has to be an address of four bytes. -/
def endsInNumber
    (name : List Char) : Bool :=
  match (nameParts name).getLast? with
  | some last =>
      (!last.isEmpty && last.all Char.isDigit) || (ipv4Part? last).isSome
  | none =>
      false

/-- Weighs the leading numbers of an address by their places. -/
def ipv4Value
    (place : Nat) : List Nat → Nat
  | [] =>
      0
  | number :: rest =>
      number * Nat.pow 256 place + ipv4Value (place - 1) rest

/-- Reads an address of four bytes; the last of its parts fills what is left. -/
def readIpv4
    (name : List Char) : Except Fault Nat :=
  let parts := nameParts name
  match parts.mapM ipv4Part? with
  | none =>
      .error .invalidIpv4
  | some numbers =>
      let leading := numbers.dropLast
      let last := numbers.getLastD 0
      if 4 < parts.length || leading.any (255 < ·)
          || Nat.pow 256 (4 - leading.length) ≤ last then
        .error .invalidIpv4
      else
        .ok (ipv4Value 3 leading + last)

/-- Reads an address of eight groups. -/
def readIpv6
    (content : List Char) : Except Fault (List Nat) :=
  match Text.readIpv6? content with
  | some groups =>
      .ok groups
  | none =>
      .error .invalidIpv6

/-- Reads what stands in brackets, which have to be closed. -/
def readBracketed
    (content : List Char) : Except Fault Host :=
  if content.getLast? = some ']' then
    (readIpv6 content.dropLast).map .ipv6
  else
    .error .invalidIpv6

/-- Reads the host of an address with one of the special schemes. -/
def readSpecialHost
    (content : List Char) : Except Fault Host :=
  match content with
  | '[' :: rest =>
      readBracketed rest
  | content =>
      match canonicalName? (decodeText content) with
      | none =>
          .error .invalidName
      | some name =>
          if name.isEmpty then
            .error .emptyHost
          else if endsInNumber name then
            (readIpv4 name).map .ipv4
          else
            .ok (.name name)

/-- Characters that no host can hold. -/
def forbiddenInHost : List Char :=
  Char.ofNat 0 :: "\t\n\r #/:<>?@[\\]^|".toList

/-- Reads the host of an address with any other scheme, whose names are kept as they are. -/
def readPlainHost
    (content : List Char) : Except Fault Host :=
  match content with
  | '[' :: rest =>
      readBracketed rest
  | content =>
      if content.any forbiddenInHost.contains then
        .error .invalidHostChar
      else
        .ok (.name (encode reservedNowhere content))

end QueryAgent.Url

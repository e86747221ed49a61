import QueryAgent.Json.Decode
import QueryAgent.Text.Utf8

namespace QueryAgent.Postgres

/-!
# Binary values

Big-endian numbers taken from the bytes of a value, and what can be wrong with
such bytes.
-/

/-- Why the bytes of a value cannot be read as its type. -/
inductive WireError where
  | tooShort
  | tooLong
  | notDrained (what : String)
  | uuidSize
  | outOfRange
  | notText (fault : Text.Utf8Fault)
  | treeVersion (what : String)
  | json (cause : Json.DecodeError)
  | jsonVersion
  | dimensionCount
  | dimensionSize
  | tooManyDimensions
  | tooManyElements
  | valueLength
  | malformed (what : String)
  | unsupportedType (name : String)
deriving Repr, DecidableEq

/-- The words of an error in the bytes of a value. -/
def WireError.message : WireError → String
  | .tooShort =>
      "failed to fill whole buffer"
  | .tooLong =>
      "invalid buffer size"
  | .notDrained what =>
      "invalid message length: " ++ what ++ " not drained"
  | .uuidSize =>
      "invalid message length: uuid size mismatch"
  | .outOfRange =>
      "value too large to decode"
  | .notText fault =>
      fault.message
  | .treeVersion what =>
      what ++ " version 1 only supported"
  | .json cause =>
      cause.message
  | .jsonVersion =>
      "unsupported JSONB encoding version"
  | .dimensionCount =>
      "invalid dimension count"
  | .dimensionSize =>
      "invalid dimension size"
  | .tooManyDimensions =>
      "array contains too many dimensions"
  | .tooManyElements =>
      "too many array elements"
  | .valueLength =>
      "invalid value length"
  | .malformed what =>
      "malformed " ++ what
  | .unsupportedType name =>
      "unsupported column type " ++ name

/-- The number that bytes spell, the highest first. -/
def unsignedOf
    (bytes : List UInt8) : Nat :=
  bytes.foldl (fun number byte => number * 256 + byte.toNat) 0

/-- The number with a sign that bytes spell in two's complement. -/
def signedOf
    (bytes : List UInt8) : Int :=
  let number := unsignedOf bytes
  if 2 * number < Nat.pow 256 bytes.length then
    number
  else
    (number : Int) - Nat.pow 256 bytes.length

/-- Takes a number of bytes from the front. -/
def takeBytes
    (count : Nat)
    (bytes : List UInt8) : Except WireError (List UInt8 × List UInt8) :=
  if bytes.length < count then
    .error .tooShort
  else
    .ok (bytes.take count, bytes.drop count)

/-- Takes all bytes of a value that has the given number of them. -/
def exactly
    (count : Nat)
    (whenLonger : WireError)
    (bytes : List UInt8) : Except WireError (List UInt8) := do
  let (taken, rest) ← takeBytes count bytes
  if rest.isEmpty then
    .ok taken
  else
    .error whenLonger

/-- A whole value of so many bytes, with a sign. -/
def signedValue
    (count : Nat)
    (bytes : List UInt8) : Except WireError Int64 :=
  (exactly count .tooLong bytes).map fun taken => Int64.ofInt (signedOf taken)

/-- A whole value of so many bytes, without a sign. -/
def unsignedValue
    (count : Nat)
    (bytes : List UInt8) : Except WireError Nat :=
  (exactly count .tooLong bytes).map unsignedOf

/-- The text that bytes spell. -/
def textOf
    (bytes : List UInt8) : Except WireError String :=
  match Text.decodeUtf8 bytes with
  | .ok characters =>
      .ok (String.ofList characters)
  | .error fault =>
      .error (.notText fault)

end QueryAgent.Postgres

import QueryAgent.Calendar
import QueryAgent.Data.Value
import QueryAgent.Postgres.ColumnType
import QueryAgent.Postgres.Interval
import QueryAgent.Postgres.Network
import QueryAgent.Postgres.Numeric
import QueryAgent.Text.Uuid

namespace QueryAgent.Postgres

/-!
# Decoding columns

From the bytes of a column to a cell, by the column's type.  A type that is
not known is an error and never shown as bytes.
-/

/-- The element bytes of an array, each none for an absent element. -/
def arrayElements : Nat → List UInt8 → Except WireError (List (Option (List UInt8)))
  | 0, rest =>
      if rest.isEmpty then
        .ok []
      else
        .error (.notDrained "arrayvalue")
  | remaining + 1, bytes => do
      let (lengthBytes, rest) ← takeBytes 4 bytes
      match signedOf lengthBytes with
      | .negSucc _ =>
          let elements ← arrayElements remaining rest
          .ok (none :: elements)
      | .ofNat length =>
          if rest.length < length then
            .error .valueLength
          else
            let elements ← arrayElements remaining (rest.drop length)
            .ok (some (rest.take length) :: elements)

/-- Multiplies the lengths of dimensions; the product must fit 31 bits. -/
def arrayLengths : Nat → Nat → List UInt8 → Except WireError (Nat × List UInt8)
  | 0, count, bytes =>
      .ok (count, bytes)
  | remaining + 1, count, bytes => do
      let (lengthBytes, bytes) ← takeBytes 4 bytes
      match signedOf lengthBytes with
      | .negSucc _ =>
          .error .dimensionSize
      | .ofNat length =>
          let (_, bytes) ← takeBytes 4 bytes
          if Nat.pow 2 31 ≤ count * length then
            .error .tooManyElements
          else
            arrayLengths remaining (count * length) bytes

/-- The element bytes of an array of at most one dimension. -/
def splitArray
    (bytes : List UInt8) : Except WireError (List (Option (List UInt8))) := do
  let (dimensionBytes, bytes) ← takeBytes 4 bytes
  match signedOf dimensionBytes with
  | .negSucc _ =>
      .error .dimensionCount
  | .ofNat dimensions =>
      let (_, bytes) ← takeBytes 4 bytes
      let (_, bytes) ← takeBytes 4 bytes
      let (count, bytes) ← arrayLengths dimensions 1 bytes
      if 1 < dimensions then
        .error .tooManyDimensions
      else
        arrayElements (if dimensions = 0 then 0 else count) bytes

/-- The text of a type whose values are texts; trees carry a version in front. -/
def decodeText
    (typeName : String)
    (bytes : List UInt8) : Except WireError String :=
  if typeName = "ltree" ∨ typeName = "lquery" ∨ typeName = "ltxtquery" then
    match bytes with
    | 1 :: rest =>
        textOf rest
    | _ =>
        .error (.treeVersion typeName)
  else
    textOf bytes

/-- The document that bytes hold. -/
def decodeDocument
    (bytes : List UInt8) : Except WireError Value :=
  match (Json.readBytes bytes).decode Json.decodeAny with
  | .ok document =>
      .ok (.json document)
  | .error cause =>
      .error (.json cause)

/-- The document of a JSONB, after its version. -/
def decodeVersioned : List UInt8 → Except WireError Value
  | [] =>
      .error .tooShort
  | version :: rest =>
      if version = 1 then
        decodeDocument rest
      else
        .error .jsonVersion

/-- The text of a value, or the error that it is malformed. -/
def orMalformed
    (what : String) : Option String → Except WireError Value
  | some content =>
      .ok (.text content)
  | none =>
      .error (.malformed what)

/-- The double of four bytes. -/
def decodeSingle
    (bytes : List UInt8) : Except WireError Value :=
  (unsignedValue 4 bytes).map fun number =>
    .float (Number.Binary64.ofBinary32 (UInt32.ofNat number))

/-- The double of eight bytes. -/
def decodeDouble
    (bytes : List UInt8) : Except WireError Value :=
  (unsignedValue 8 bytes).map fun number => .float ⟨UInt64.ofNat number⟩

/-- A truth value of one byte. -/
def decodeBoolean : List UInt8 → Except WireError Value
  | [byte] =>
      .ok (.boolean (byte ≠ 0))
  | _ =>
      .error .tooLong

/-- A date by its day number. -/
def decodeDate
    (bytes : List UInt8) : Except WireError Value := do
  let taken ← exactly 4 (.notDrained "date") bytes
  match Date.ofDayNumber? (signedOf taken) with
  | some date =>
      .ok (.date date.written)
  | none =>
      .error .outOfRange

/-- A time of day by its microseconds, whole days left out. -/
def decodeTime
    (bytes : List UInt8) : Except WireError Value := do
  let taken ← exactly 8 (.notDrained "time") bytes
  .ok (.text (TimeOfDay.ofMicroseconds (signedOf taken)).written)

/-- A point in time by its microseconds, with what follows its text. -/
def decodeTimestamp
    (suffix : String)
    (bytes : List UInt8) : Except WireError Value := do
  let taken ← exactly 8 (.notDrained "timestamp") bytes
  match Timestamp.ofMicroseconds? (signedOf taken) with
  | some timestamp =>
      .ok (.dateTime (timestamp.written ++ suffix))
  | none =>
      .error .outOfRange

/-- A universally unique identifier. -/
def decodeUuid
    (bytes : List UInt8) : Except WireError Value :=
  if bytes.length = 16 then
    .ok (.text (Text.uuid bytes))
  else
    .error .uuidSize

/-- A cell of a type with a representation of its own. -/
def decodePlain
    (name : String)
    (oid : Nat)
    (builtIn : Bool)
    (bytes : List UInt8) : Except WireError Value :=
  match oid with
  | 16 => decodeBoolean bytes
  | 17 => .ok (Value.ofBytes bytes)
  | 18 =>
      (unsignedValue 1 bytes).map fun code => .text (String.singleton (Char.ofNat code))
  | 19 => (decodeText name bytes).map .text
  | 20 => (signedValue 8 bytes).map .integer
  | 21 => (signedValue 2 bytes).map .integer
  | 23 => (signedValue 4 bytes).map .integer
  | 25 => (decodeText name bytes).map .text
  | 26 => (unsignedValue 4 bytes).map fun number => .integer (Int64.ofInt number)
  | 114 => decodeDocument bytes
  | 650 => orMalformed "network address" (decodeNetwork? bytes)
  | 700 => decodeSingle bytes
  | 701 => decodeDouble bytes
  | 705 => (decodeText name bytes).map .text
  | 774 => orMalformed "mac address" (decodeHardware? bytes)
  | 790 => orMalformed "money value" (decodeMoney? bytes)
  | 829 => orMalformed "mac address" (decodeHardware? bytes)
  | 869 => orMalformed "network address" (decodeNetwork? bytes)
  | 1042 => (decodeText name bytes).map .text
  | 1043 => (decodeText name bytes).map .text
  | 1082 => decodeDate bytes
  | 1083 => decodeTime bytes
  | 1114 => decodeTimestamp "" bytes
  | 1184 => decodeTimestamp "+00:00" bytes
  | 1186 =>
      orMalformed "interval value" ((Interval.ofBytes? bytes).map Interval.written)
  | 1700 => orMalformed "numeric value" (decodeNumeric? bytes)
  | 2950 => decodeUuid bytes
  | 3802 => if builtIn then decodeVersioned bytes else decodeDocument bytes
  | _ => .error (.unsupportedType name)

/-- Decodes elements in order; an absent one is null. -/
def decodeElements
    (decode : List UInt8 → Except WireError Value) :
    List (Option (List UInt8)) → Except WireError (List Json)
  | [] =>
      .ok []
  | none :: rest => do
      let values ← decodeElements decode rest
      .ok (.null :: values)
  | some bytes :: rest => do
      let value ← decode bytes
      let values ← decodeElements decode rest
      .ok (value.toJson :: values)

/-- The cell that bytes hold in a column of a type. -/
def decodeColumn : ColumnType → List UInt8 → Except WireError Value
  | .array _ member, bytes => do
      let elements ← splitArray bytes
      let values ← decodeElements (decodeColumn member) elements
      .ok (.json (.list values))
  | .enumeration _, bytes =>
      (textOf bytes).map .text
  | .domain _ base, bytes =>
      decodeColumn base bytes
  | .plain name oid builtIn, bytes =>
      decodePlain name oid builtIn bytes

end QueryAgent.Postgres

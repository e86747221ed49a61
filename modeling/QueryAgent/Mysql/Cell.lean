import QueryAgent.Data.ResultSet
import QueryAgent.Error
import QueryAgent.Query.Param

namespace QueryAgent.Mysql

/-!
# MySQL values

What travels between a MySQL server and the agent: the values bound to
placeholders and the cells of a result.
-/

/-- The moment that a date cell holds. -/
structure Moment where
  year : Nat
  month : Nat
  day : Nat
  hour : Nat
  minute : Nat
  second : Nat
  microsecond : Nat
deriving Repr, DecidableEq

/-- The span that a time cell holds. -/
structure Span where
  isNegative : Bool
  days : Nat
  hours : Nat
  minutes : Nat
  seconds : Nat
  microseconds : Nat
deriving Repr, DecidableEq

/-- A value on the wire. -/
inductive Cell where
  | null
  | integer (value : Int64)
  | unsigned (value : UInt64)
  | single (bits : UInt32)
  | double (value : Number.Binary64)
  | bytes (content : List UInt8)
  | date (moment : Moment)
  | time (span : Span)
deriving Repr

/-- The code of the column type of dates without a time. -/
def dateType : Nat := 10

/-- The code of the column type of documents. -/
def documentType : Nat := 245

/-- The value bound for a parameter; a placeholder takes no list. -/
def ofParam : Param → Result Cell
  | .null =>
      .ok .null
  | .boolean value =>
      .ok (.integer (if value then 1 else 0))
  | .integer value =>
      .ok (.integer value)
  | .float value =>
      .ok (.double value)
  | .text content =>
      .ok (.bytes (Text.encodeUtf8 content.toList))
  | .list _ =>
      .error (.connector (.unsupportedOperation
        "list parameters cannot be bound to a MySQL placeholder"))

/-- A day as year, month and day. -/
def Moment.dayText
    (moment : Moment) : String :=
  Text.padded 4 moment.year ++ "-" ++ Text.padded 2 moment.month
    ++ "-" ++ Text.padded 2 moment.day

/-- Microseconds as a fraction of a second, nothing when there are none. -/
def fractionText
    (microseconds : Nat) : String :=
  if microseconds = 0 then
    ""
  else
    "." ++ Text.padded 6 microseconds

/-- Hours, minutes and seconds with two digits each at least. -/
def clockText
    (hours minutes seconds : Nat) : String :=
  Text.padded 2 hours ++ ":" ++ Text.padded 2 minutes ++ ":" ++ Text.padded 2 seconds

/-- A day and a time with a `T` between them. -/
def Moment.written
    (moment : Moment) : String :=
  moment.dayText ++ "T" ++ clockText moment.hour moment.minute moment.second
    ++ fractionText moment.microsecond

/-- A span in hours, minutes and seconds, its days counted as hours. -/
def Span.written
    (span : Span) : String :=
  (if span.isNegative then "-" else "")
    ++ clockText (span.days * 24 + span.hours) span.minutes span.seconds
    ++ fractionText span.microseconds

/-- The document that bytes hold, or the bytes as text when they hold none. -/
def documentOrText
    (content : List UInt8) : Value :=
  match (Json.readBytes content).decode Json.decodeAny with
  | .ok document =>
      .json document
  | .error _ =>
      Value.ofBytes content

/-- The value of a cell in a column of a type. -/
def Cell.value
    (columnType : Nat) : Cell → Value
  | .null =>
      .null
  | .integer value =>
      .integer value
  | .unsigned value =>
      if value.toNat < Nat.pow 2 63 then
        .integer (Int64.ofNat value.toNat)
      else
        .text (Text.decimal value.toNat)
  | .single bits =>
      .float (Number.Binary64.ofBinary32 bits)
  | .double value =>
      .float value
  | .bytes content =>
      if columnType = documentType then
        documentOrText content
      else
        Value.ofBytes content
  | .date moment =>
      if columnType = dateType then
        .date moment.dayText
      else
        .dateTime moment.written
  | .time span =>
      .text span.written

/-- A column of a result. -/
structure Column where
  name : String
  type : Nat
deriving Repr, DecidableEq

/-- The row of the cells under their columns; a cell that is gone is null. -/
def rowOf
    (columns : List Column)
    (cells : List (Option Cell)) : Row :=
  Row.ofCells
    (List.zipWith
      (fun column cell =>
        (column.name, (cell.map (Cell.value column.type)).getD .null))
      columns cells)

end QueryAgent.Mysql

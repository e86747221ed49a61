import QueryAgent.Postgres.Wire
import QueryAgent.Text.Digits

namespace QueryAgent.Postgres

/-!
# Intervals

Months, days and microseconds, each with a sign of its own, in the server's
default style.
-/

/-- A span of time. -/
structure Interval where
  months : Int
  days : Int
  microseconds : Int
deriving Repr, DecidableEq

namespace Interval

/-- A field that is written out: how many of which unit. -/
structure Field where
  amount : Int
  name : String
deriving Repr, DecidableEq

/-- The fields written before the time, zeros left out. -/
def fields
    (interval : Interval) : List Field :=
  [⟨Int.tdiv interval.months 12, "year"⟩,
    ⟨Int.tmod interval.months 12, "mon"⟩,
    ⟨interval.days, "day"⟩].filter (fun field => field.amount ≠ 0)

/-- A field, with a plus sign when it is positive after a negative one. -/
def showField
    (afterNegative : Bool)
    (field : Field) : String :=
  (if afterNegative && 0 < field.amount then "+" else "")
    ++ Text.integer field.amount ++ " " ++ field.name
    ++ if field.amount ≠ 1 then "s" else ""

/-- Fields one after another, with whether the last of them is negative. -/
def showFields
    (afterNegative : Bool) : List Field → List String × Bool
  | [] =>
      ([], afterNegative)
  | field :: rest =>
      let (texts, last) := showFields (field.amount < 0) rest
      (showField afterNegative field :: texts, last)

/-- Drops the zeros at the end. -/
def dropTrailingZeros
    (digits : List Char) : List Char :=
  (digits.reverse.dropWhile (· == '0')).reverse

/-- The fraction of a second without zeros at the end. -/
def showFraction
    (microseconds : Nat) : String :=
  if microseconds = 0 then
    ""
  else
    "." ++ String.ofList
      (dropTrailingZeros (Text.zeroPadList 6 (Text.decimalList microseconds)))

/-- The time, with a plus sign when it is not negative after a negative field. -/
def showTime
    (afterNegative : Bool)
    (microseconds : Int) : String :=
  let total := microseconds.natAbs
  (if microseconds < 0 then "-" else if afterNegative then "+" else "")
    ++ Text.padded 2 (total / 3600000000)
    ++ ":" ++ Text.padded 2 (total / 60000000 % 60)
    ++ ":" ++ Text.padded 2 (total / 1000000 % 60)
    ++ showFraction (total % 1000000)

/-- An interval; one that is zero is written as a time. -/
def written
    (interval : Interval) : String :=
  let (texts, afterNegative) := showFields false interval.fields
  let time :=
    if texts.isEmpty || interval.microseconds ≠ 0 then
      [showTime afterNegative interval.microseconds]
    else
      []
  " ".intercalate (texts ++ time)

/-- The interval of sixteen bytes, none of any other number. -/
def ofBytes?
    (bytes : List UInt8) : Option Interval :=
  if bytes.length = 16 then
    some
      { microseconds := signedOf (bytes.take 8)
        days := signedOf ((bytes.drop 8).take 4)
        months := signedOf (bytes.drop 12) }
  else
    none

end Interval

end QueryAgent.Postgres

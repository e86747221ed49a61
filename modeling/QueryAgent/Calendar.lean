import QueryAgent.Text.Digits

namespace QueryAgent

/-!
# Dates and times

The proleptic Gregorian calendar by days, times of day by microseconds, and
how both are written.  Day zero is the first of January 2000.
-/

/-- A date; years before the first are zero and negative. -/
structure Date where
  year : Int
  month : Nat
  day : Nat
deriving Repr, DecidableEq

namespace Date

/-- The days of an era of four hundred years, after which the calendar repeats. -/
def daysPerEra : Nat := 146097

/-- The days from the first of March of year zero to the first of January 2000. -/
def daysBeforeEpoch : Int := 730425

/-- The years of an era that lie before one of its days. -/
def yearOfEra
    (day : Nat) : Nat :=
  (day - day / 1460 + day / 36524 - day / 146096) / 365

/-- The days of an era before one of its years. -/
def daysBeforeYear
    (year : Nat) : Nat :=
  365 * year + year / 4 - year / 100

/-- The days of a year that begins in March before one of its months. -/
def daysBeforeMonth
    (month : Nat) : Nat :=
  (153 * month + 2) / 5

/-- The date of a day number. -/
def ofDayNumber
    (number : Int) : Date :=
  let shifted := number + daysBeforeEpoch
  let era := shifted / daysPerEra
  let dayOfEra := (shifted % daysPerEra).toNat
  let year := yearOfEra dayOfEra
  let dayOfYear := dayOfEra - daysBeforeYear year
  let month := (5 * dayOfYear + 2) / 153
  let calendarMonth := if month < 10 then month + 3 else month - 9
  { year := year + era * 400 + if calendarMonth ≤ 2 then 1 else 0
    month := calendarMonth
    day := dayOfYear - daysBeforeMonth month + 1 }

/-- The day number of a date. -/
def dayNumber
    (date : Date) : Int :=
  let year := if date.month ≤ 2 then date.year - 1 else date.year
  let era := year / 400
  let month := if date.month ≤ 2 then date.month + 9 else date.month - 3
  era * daysPerEra + daysBeforeYear (year % 400).toNat + daysBeforeMonth month
    + (date.day - 1 : Nat) - daysBeforeEpoch

/-- The least year of the supported range. -/
def leastYear : Int := -262143

/-- The greatest year of the supported range. -/
def greatestYear : Int := 262142

/-- The date of a day number, none outside the supported years. -/
def ofDayNumber?
    (number : Int) : Option Date :=
  let date := ofDayNumber number
  if leastYear ≤ date.year ∧ date.year ≤ greatestYear then
    some date
  else
    none

/-- A year with four digits, and with a sign outside the first ten thousand. -/
def showYear
    (year : Int) : String :=
  if 0 ≤ year ∧ year ≤ 9999 then
    Text.padded 4 year.natAbs
  else
    (if year < 0 then "-" else "+") ++ Text.padded 4 year.natAbs

/-- A date as year, month and day. -/
def written
    (date : Date) : String :=
  showYear date.year ++ "-" ++ Text.padded 2 date.month ++ "-" ++ Text.padded 2 date.day

end Date

/-- A time of day in microseconds since midnight. -/
structure TimeOfDay where
  microseconds : Nat
deriving Repr, DecidableEq

namespace TimeOfDay

/-- The microseconds of a day. -/
def perDay : Nat := 86400000000

/-- The fraction of a second with the fewest of none, three and six digits. -/
def showFraction
    (microseconds : Nat) : String :=
  if microseconds = 0 then
    ""
  else if microseconds % 1000 = 0 then
    "." ++ Text.padded 3 (microseconds / 1000)
  else
    "." ++ Text.padded 6 microseconds

/-- A time of day as hours, minutes, seconds and a fraction. -/
def written
    (time : TimeOfDay) : String :=
  Text.padded 2 (time.microseconds / 3600000000)
    ++ ":" ++ Text.padded 2 (time.microseconds / 60000000 % 60)
    ++ ":" ++ Text.padded 2 (time.microseconds / 1000000 % 60)
    ++ showFraction (time.microseconds % 1000000)

/-- The time of day that a count of microseconds reaches, days left out. -/
def ofMicroseconds
    (count : Int) : TimeOfDay :=
  ⟨(count % perDay).toNat⟩

end TimeOfDay

/-- A date and a time of day. -/
structure Timestamp where
  date : Date
  time : TimeOfDay
deriving Repr, DecidableEq

namespace Timestamp

/-- The point in time of a count of microseconds, none outside the supported years. -/
def ofMicroseconds?
    (count : Int) : Option Timestamp :=
  (Date.ofDayNumber? (count / TimeOfDay.perDay)).map fun date =>
    ⟨date, .ofMicroseconds count⟩

/-- A point in time as a date and a time with a `T` between them. -/
def written
    (timestamp : Timestamp) : String :=
  timestamp.date.written ++ "T" ++ timestamp.time.written

end Timestamp

end QueryAgent

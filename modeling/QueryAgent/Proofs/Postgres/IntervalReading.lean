import QueryAgent.Postgres.Interval
import QueryAgent.Proofs.Text.Clock
import QueryAgent.Proofs.Text.Marks

namespace QueryAgent.Postgres

/-!
# Reading intervals

An interval text is a list of words: a number and a unit for each of years,
months and days, any of which may be left out, and then a time without bounds
that may be left out.  What it denotes is said without the functions that write
it.
-/

/-! ## Reading an interval -/

/-- A number with its mark, as it stands in front of a unit. -/
structure ReadField where
  mark : Text.Mark
  count : Nat
deriving DecidableEq

/-- A time with its mark. -/
structure ReadTime where
  mark : Text.Mark
  clock : Text.ClockTime
deriving DecidableEq

/-- What an interval text says, part by part. -/
structure ReadInterval where
  years : Option ReadField
  months : Option ReadField
  days : Option ReadField
  time : Option ReadTime
deriving DecidableEq

/-- Reads a number that a sign may precede. -/
def readField?
    (word : List Char) : Option ReadField :=
  (Text.readDecimal? (Text.Mark.split word).2).map fun count => ⟨(Text.Mark.split word).1, count⟩

/-- Reads a time that a sign may precede. -/
def readTime?
    (word : List Char) : Option ReadTime :=
  (Text.readClock? (Text.Mark.split word).2).map fun clock => ⟨(Text.Mark.split word).1, clock⟩

/-- A word names a unit, in the singular or in the plural. -/
abbrev NamesUnit
    (unit word : List Char) : Prop :=
  word = unit ∨ word = unit ++ ['s']

/--
Takes a number and its unit off the front of words where they stand there, none
where another word stands in front of the unit.
-/
def takeField?
    (unit : List Char)
    (words : List (List Char)) : Option (Option ReadField × List (List Char)) :=
  match words with
  | number :: name :: rest =>
      if NamesUnit unit name then
        (readField? number).map fun field => (some field, rest)
      else
        some (none, words)
  | _ =>
      some (none, words)

/-- Reads the time that may follow the fields, none where anything else follows. -/
def takeTime? : List (List Char) → Option (Option ReadTime)
  | [] =>
      some none
  | [word] =>
      (readTime? word).map some
  | _ =>
      none

/--
Reads an interval: years, months and days that may each be left out, and then a
time that may be left out.
-/
def readInterval?
    (characters : List Char) : Option ReadInterval := do
  let (years, words) ← takeField? "year".toList (characters.splitOn ' ')
  let (months, words) ← takeField? "mon".toList words
  let (days, words) ← takeField? "day".toList words
  let time ← takeTime? words
  some ⟨years, months, days, time⟩

/-! ## What an interval text says -/

/-- The number that a field stands for. -/
def ReadField.amount
    (field : ReadField) : Int :=
  field.mark.signed field.count

/-- The microseconds that a time stands for. -/
def ReadTime.amount
    (time : ReadTime) : Int :=
  time.mark.signed time.clock.total

/-- The number of a field that may have been left out. -/
def amountOf
    (field : Option ReadField) : Int :=
  (field.map ReadField.amount).getD 0

/-- A part of an interval text. -/
inductive ReadPart where
  | number (read : ReadField)
  | clock (read : ReadTime)

namespace ReadPart

def mark : ReadPart → Text.Mark
  | .number read => read.mark
  | .clock read => read.mark

def amount : ReadPart → Int
  | .number read => read.amount
  | .clock read => read.amount

/-- A positive number, and a time that is not negative. -/
def IsUpward : ReadPart → Prop
  | .number read => 0 < read.amount
  | .clock read => 0 ≤ read.amount

end ReadPart

/-- The parts of an interval text in their order. -/
def ReadInterval.parts
    (read : ReadInterval) : List ReadPart :=
  read.years.toList.map .number ++ (read.months.toList.map .number
    ++ (read.days.toList.map .number ++ read.time.toList.map .clock))

/--
A plus sign stands exactly before the upward parts whose nearest part before is
negative.
-/
def PlusAfterNegative : Option Int → List ReadPart → Prop
  | _, [] =>
      True
  | previous, part :: rest =>
      (part.mark = .plus ↔ part.IsUpward ∧ ∃ amount, previous = some amount ∧ amount < 0)
        ∧ PlusAfterNegative (some part.amount) rest

/--
An interval text denotes an interval.  No number in it is zero, and the time is
zero only where nothing else is written; minutes and seconds stay below sixty.
-/
structure ReadInterval.Denotes
    (read : ReadInterval)
    (interval : Interval) : Prop where
  months : 12 * amountOf read.years + amountOf read.months = interval.months
  years : amountOf read.years = interval.months.tdiv 12
  days : amountOf read.days = interval.days
  microseconds : (read.time.map ReadTime.amount).getD 0 = interval.microseconds
  numbersNotZero :
    ∀ field, some field ∈ [read.years, read.months, read.days] → field.amount ≠ 0
  timeNotZero :
    ∀ time,
      read.time = some time →
        time.amount ≠ 0 ∨ read.years = none ∧ read.months = none ∧ read.days = none
  withinHour : ∀ time, read.time = some time → time.clock.minutes < 60 ∧ time.clock.seconds < 60
  plusAfterNegative : PlusAfterNegative none read.parts

end QueryAgent.Postgres

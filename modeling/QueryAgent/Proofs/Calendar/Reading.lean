import QueryAgent.Proofs.Calendar.Gregorian
import QueryAgent.Proofs.Text.Clock
import QueryAgent.Proofs.Text.Marks

namespace QueryAgent

/-!
# Dates and times read back

A date is read as a year, a month and a day, the year with a sign where it has
other than four digits or is negative; a point in time as a date, a time of day
and an offset.  Valid dates and times of day read back from their texts.
-/

/-! ## Dates -/

namespace Date

/--
Reads a year behind its mark: four digits without a mark, and behind a mark a
year that four digits alone do not reach.
-/
def readYear?
    (mark : Text.Mark)
    (digits : List Char) : Option Int :=
  if mark = .absent then
    (Text.readDigitsOf? 4 digits).map fun year => (year : Int)
  else
    ((Text.readDecimal? digits).map mark.signed).filter fun year =>
      4 ≤ digits.length ∧ ¬ (0 ≤ year ∧ year ≤ 9999)

/-- Reads a date as year, month and day. -/
def read?
    (characters : List Char) : Option Date :=
  match (Text.Mark.split characters).2.splitOn '-' with
  | [year, month, day] => do
      let year ← readYear? (Text.Mark.split characters).1 year
      let month ← Text.readDigitsOf? 2 month
      let day ← Text.readDigitsOf? 2 day
      some ⟨year, month, day⟩
  | _ =>
      none

/-- The mark that is written in front of a year. -/
def yearMark
    (year : Int) : Text.Mark :=
  if 0 ≤ year ∧ year ≤ 9999 then
    .absent
  else if year < 0 then
    .minus
  else
    .plus

/-- A year is written as its mark and at least four digits. -/
theorem toList_showYear
    (year : Int) :
    (showYear year).toList =
      (yearMark year).text ++ Text.zeroPadList 4 (Text.decimalList year.natAbs) := by
  rw [showYear, yearMark]
  by_cases fourDigits : 0 ≤ year ∧ year ≤ 9999
  · rw [if_pos fourDigits, if_pos fourDigits]
    simp [Text.padded, Text.Mark.text]
  · rw [if_neg fourDigits, if_neg fourDigits]
    by_cases negative : year < 0 <;> simp [negative, Text.padded, Text.Mark.text]

/-- A year of other than four digits has a sign, and it is its own. -/
theorem yearMark_of_signed
    {year : Int}
    (signed : ¬ (0 ≤ year ∧ year ≤ 9999)) :
    yearMark year ≠ .absent ∧ (yearMark year).signed year.natAbs = year := by
  rw [yearMark, if_neg signed]
  split
  next negative =>
      refine ⟨by decide, ?_⟩
      rw [Text.Mark.signed, if_pos rfl]
      omega
  next notNegative =>
      refine ⟨by decide, ?_⟩
      rw [Text.Mark.signed, if_neg (by decide)]
      omega

/-- A year reads back behind its mark. -/
theorem readYear?_written
    (year : Int) :
    readYear? (yearMark year) (Text.zeroPadList 4 (Text.decimalList year.natAbs)) = some year := by
  by_cases fourDigits : 0 ≤ year ∧ year ≤ 9999
  · have small : year.natAbs < 10 ^ 4 := by
      norm_num
      omega
    have same : (year.natAbs : Int) = year := by
      omega
    rw [yearMark, if_pos fourDigits, readYear?, if_pos rfl,
      Text.readDigitsOf?_zeroPadList (by norm_num) small]
    exact congrArg some same
  · obtain ⟨marked, signed⟩ := yearMark_of_signed fourDigits
    have enough : 4 ≤ (Text.zeroPadList 4 (Text.decimalList year.natAbs)).length :=
      Text.le_length_zeroPadList
    rw [readYear?, if_neg marked, Text.readDecimal?_zeroPadList, Option.map_some, signed,
      Option.filter_some, if_pos (decide_eq_true ⟨enough, fourDigits⟩)]

/-- The texts of a date's numbers with hyphens between them. -/
def dateList
    (date : Date) : List Char :=
  ['-'].intercalate
    [Text.zeroPadList 4 (Text.decimalList date.year.natAbs),
      Text.zeroPadList 2 (Text.decimalList date.month),
      Text.zeroPadList 2 (Text.decimalList date.day)]

theorem toList_written
    (date : Date) :
    date.written.toList = (yearMark date.year).text ++ dateList date := by
  rw [written]
  simp [toList_showYear, dateList, Text.padded]

/-- Every valid date reads back. -/
theorem read?_written
    {date : Date}
    (valid : date.IsValid) :
    read? date.written.toList = some date := by
  have noHyphen (width number : Nat) : '-' ∉ Text.zeroPadList width (Text.decimalList number) :=
    Text.not_mem_zeroPadList rfl width number
  have opens : ∀ first ∈ (dateList date).head?, first.isDigit = true := by
    intro first isFirst
    rw [dateList, List.intercalate_cons_cons, List.append_assoc] at isFirst
    exact Text.isDigit_of_head?_zeroPadList isFirst
  have parts :
      (dateList date).splitOn '-' =
        [Text.zeroPadList 4 (Text.decimalList date.year.natAbs),
          Text.zeroPadList 2 (Text.decimalList date.month),
          Text.zeroPadList 2 (Text.decimalList date.day)] :=
    List.splitOn_intercalate '-' (by simp [noHyphen]) (List.cons_ne_nil _ _)
  have monthSmall := valid.monthTo
  have daySmall := valid.day_lt
  rw [read?, toList_written, Text.Mark.split_append _ opens]
  dsimp only
  rw [parts]
  dsimp only
  rw [readYear?_written, Text.readDigitsOf?_zeroPadList (by norm_num) (by omega),
    Text.readDigitsOf?_zeroPadList (by norm_num) (by omega)]
  rfl

/-- No date holds the letter in front of a time. -/
theorem not_mem_written
    (date : Date) :
    'T' ∉ date.written.toList := by
  have noLetter (width number : Nat) : 'T' ∉ Text.zeroPadList width (Text.decimalList number) :=
    Text.not_mem_zeroPadList rfl width number
  rw [toList_written, dateList, List.mem_append, not_or]
  exact ⟨Text.Mark.not_mem_text (by decide) (by decide) _, by simp [noLetter]⟩

end Date

/-! ## Times of day -/

namespace TimeOfDay

/-- A fraction of none, three or six digits is a fraction of microseconds. -/
theorem fractionWrittenAs_showFraction
    {microseconds : Nat}
    (small : microseconds < 10 ^ 6) :
    Text.FractionWrittenAs microseconds (showFraction microseconds).toList := by
  rw [showFraction]
  split
  next none =>
      subst none
      exact .absent
  next =>
      split
      next whole =>
          have thousandths : microseconds / 1000 < 10 ^ 3 := by
            omega
          have same : microseconds / 1000 * 10 ^ (6 - 3) = microseconds := by
            omega
          have written := Text.fractionWrittenAs_padded (by norm_num) (by decide) thousandths
          rw [same] at written
          simpa [Text.padded] using written
      next =>
          have written := Text.fractionWrittenAs_padded (by norm_num) le_rfl small
          simpa [Text.padded] using written

/-- The clock time of a time of day. -/
def clock
    (time : TimeOfDay) : Text.ClockTime :=
  .ofTotal time.microseconds

theorem fraction_clock
    (time : TimeOfDay) :
    Text.FractionWrittenAs time.clock.microseconds
      (showFraction time.clock.microseconds).toList :=
  fractionWrittenAs_showFraction (Text.ClockTime.microseconds_ofTotal_lt time.microseconds)

theorem toList_written
    (time : TimeOfDay) :
    time.written.toList =
      Text.clockList time.clock.hours time.clock.minutes time.clock.seconds
        (showFraction time.clock.microseconds).toList := by
  rw [written]
  simp [Text.clockList, Text.padded, clock, Text.ClockTime.ofTotal]

/-- Every time of day reads back. -/
theorem readClock?_written
    (time : TimeOfDay) :
    Text.readClock? time.written.toList = some time.clock := by
  have minutes : time.clock.minutes < 60 :=
    Text.ClockTime.minutes_ofTotal_lt time.microseconds
  have seconds : time.clock.seconds < 60 :=
    Text.ClockTime.seconds_ofTotal_lt time.microseconds
  rw [toList_written]
  exact Text.readClock?_clockList _ (by omega) (by omega) time.fraction_clock

/-- No time of day holds a plus sign. -/
theorem not_mem_written
    (time : TimeOfDay) :
    '+' ∉ time.written.toList := by
  rw [toList_written]
  exact Text.not_mem_clockList time.fraction_clock rfl (by decide) (by decide) _ _

end TimeOfDay

/-! ## Points in time -/

namespace Timestamp

/-- What a text says of a point in time. -/
structure Reading where
  date : Date
  clock : Text.ClockTime
  isUtc : Bool

/-- Reads a time of day that an offset of zero may follow. -/
def readTime?
    (characters : List Char) : Option (Text.ClockTime × Bool) :=
  match Text.splitFirst? '+' characters with
  | none =>
      (Text.readClock? characters).map (·, false)
  | some (clock, offset) =>
      if offset = "00:00".toList then
        (Text.readClock? clock).map (·, true)
      else
        none

/-- Reads a date and a time of day with a letter between them. -/
def read?
    (characters : List Char) : Option Reading :=
  match Text.splitFirst? 'T' characters with
  | none =>
      none
  | some (date, time) => do
      let date ← Date.read? date
      let (clock, isUtc) ← readTime? time
      some ⟨date, clock, isUtc⟩

/-- A reading is a point in time that many microseconds after the start of 2000. -/
structure Reading.Denotes
    (reading : Reading)
    (count : Int) : Prop where
  dateValid : reading.date.IsValid
  hours : reading.clock.hours < 24
  minutes : reading.clock.minutes < 60
  seconds : reading.clock.seconds < 60
  microseconds : reading.clock.microseconds < 1000000
  count : reading.date.daysSinceEpoch * 86400000000 + reading.clock.total = count

/-- What follows the text of a point in time, with an offset or without. -/
def offset
    (isUtc : Bool) : String :=
  if isUtc then "+00:00" else ""

/-- Every time of day reads back, with its offset where it has one. -/
theorem readTime?_written
    (time : TimeOfDay)
    (isUtc : Bool) :
    readTime? (time.written.toList ++ (offset isUtc).toList) = some (time.clock, isUtc) := by
  cases isUtc with
  | false =>
      have none : (offset false).toList = [] := rfl
      rw [none, List.append_nil, readTime?, Text.splitFirst?_of_not_mem time.not_mem_written]
      dsimp only
      rw [time.readClock?_written]
      rfl
  | true =>
      have zero : (offset true).toList = '+' :: "00:00".toList := rfl
      rw [zero, readTime?, Text.splitFirst?_append_cons time.not_mem_written]
      dsimp only
      rw [if_pos rfl, time.readClock?_written]
      rfl

/-- Every point in time reads back, with its offset where it has one. -/
theorem read?_written
    {timestamp : Timestamp}
    (valid : timestamp.date.IsValid)
    (isUtc : Bool) :
    read? (timestamp.written ++ offset isUtc).toList =
      some ⟨timestamp.date, timestamp.time.clock, isUtc⟩ := by
  have text :
      (timestamp.written ++ offset isUtc).toList =
        timestamp.date.written.toList
          ++ 'T' :: (timestamp.time.written.toList ++ (offset isUtc).toList) := by
    simp [written]
  rw [text, read?, Text.splitFirst?_append_cons timestamp.date.not_mem_written]
  dsimp only
  rw [Date.read?_written valid, readTime?_written]
  rfl

end Timestamp

end QueryAgent

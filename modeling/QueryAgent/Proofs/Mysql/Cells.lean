import QueryAgent.Mysql.Cell
import QueryAgent.Proofs.Text.Clock

namespace QueryAgent.Mysql

/-!
# Numbers and times of MySQL

An integer cell becomes the integer it holds, or the digits of it where 64 bits
with sign do not hold it.  A span is written in hours, its days among them, and
reads back as so many microseconds with its sign; a moment reads back field by
field, and in a column of dates as its day.
-/

/-! ## Integers -/

/-- The integer that an integer cell holds. -/
def Cell.integer? : Cell → Option Int
  | .integer value =>
      some value.toInt
  | .unsigned value =>
      some value.toNat
  | _ =>
      none

/-- A value is exactly an integer: the integer itself where 64 bits hold it, else its digits. -/
inductive DenotesInteger : Value → Int → Prop where
  | held
      {value : Int64} :
      DenotesInteger (.integer value) value.toInt
  | digits
      {text : String}
      {number : Nat}
      (beyond : 2 ^ 63 ≤ number)
      (read : Text.readDecimal? text.toList = some number)
      (noZero : text.toList.head? ≠ some '0') :
      DenotesInteger (.text text) number

/-- An integer cell becomes exactly the integer it holds. -/
theorem denotesInteger_value
    (columnType : Nat)
    {cell : Cell}
    {number : Int}
    (holds : cell.integer? = some number) :
    DenotesInteger (cell.value columnType) number := by
  cases cell with
  | integer value =>
      cases holds
      exact .held
  | unsigned value =>
      cases holds
      rw [Cell.value]
      split
      next small =>
          rw [← Int64.toInt_ofNat_of_lt small]
          exact .held
      next large =>
          have beyond : 2 ^ 63 ≤ value.toNat := Nat.le_of_not_lt large
          refine .digits beyond ?_ ?_
          · rw [Text.decimal, String.toList_ofList, Text.readDecimal?_decimalList]
          · rw [Text.decimal, String.toList_ofList]
            exact Text.head?_decimalList_ne_zero (Nat.lt_of_lt_of_le (by norm_num) beyond)
  | _ =>
      cases holds

/-! ## Clock times -/

/-- Six digits behind a point, or nothing, are a fraction of microseconds. -/
theorem fractionWrittenAs_fractionText
    {microseconds : Nat}
    (small : microseconds < 1000000) :
    Text.FractionWrittenAs microseconds (fractionText microseconds).toList := by
  rw [fractionText]
  split
  next none =>
      subst none
      exact .absent
  next =>
      have written := Text.fractionWrittenAs_padded (by norm_num) le_rfl small
      simpa [Text.padded] using written

/-- Hours, minutes, seconds and a fraction read back. -/
theorem readClock?_written
    (hours : Nat)
    {minutes seconds microseconds : Nat}
    (minutesSmall : minutes < 60)
    (secondsSmall : seconds < 60)
    (fractionSmall : microseconds < 1000000) :
    Text.readClock?
        (clockText hours minutes seconds ++ fractionText microseconds).toList =
      some ⟨hours, minutes, seconds, microseconds⟩ := by
  have text :
      (clockText hours minutes seconds ++ fractionText microseconds).toList =
        Text.clockList hours minutes seconds (fractionText microseconds).toList := by
    simp [clockText, Text.clockList, Text.padded]
  rw [text]
  exact
    Text.readClock?_clockList hours (minutesSmall.trans (by decide))
      (secondsSmall.trans (by decide)) (fractionWrittenAs_fractionText fractionSmall)

/-! ## Spans -/

namespace Span

/-- A span as it travels: days of 32 bits, hours of 8, and the other fields in their ranges. -/
structure InRange
    (span : Span) : Prop where
  days : span.days < 2 ^ 32
  hours : span.hours < 2 ^ 8
  minutes : span.minutes < 60
  seconds : span.seconds < 60
  microseconds : span.microseconds < 1000000

/-- How many microseconds a span has, fewer than none when it is negative. -/
def total
    (span : Span) : Int :=
  let count :=
    span.days * 86400000000 + span.hours * 3600000000 + span.minutes * 60000000
      + span.seconds * 1000000 + span.microseconds
  if span.isNegative then -count else count

end Span

/-- Reads a clock time that a minus sign may precede. -/
def readSpan?
    (characters : List Char) : Option (Bool × Text.ClockTime) :=
  match characters with
  | '-' :: clock =>
      (Text.readClock? clock).map (true, ·)
  | clock =>
      (Text.readClock? clock).map (false, ·)

/-- A value is a span of as many microseconds, its hours a number of 64 bits. -/
def DenotesSpan
    (value : Value)
    (span : Span) : Prop :=
  ∃ text isNegative clock,
    value = .text text
      ∧ readSpan? text.toList = some (isNegative, clock)
      ∧ clock.hours < 2 ^ 64
      ∧ clock.minutes < 60
      ∧ clock.seconds < 60
      ∧ clock.microseconds < 1000000
      ∧ (if isNegative then -(clock.total : Int) else clock.total) = span.total

/-- A clock time behind a minus sign or nothing reads back. -/
theorem readSpan?_signed
    (isNegative : Bool)
    {characters : List Char}
    {clock : Text.ClockTime}
    (opens : ∀ first ∈ characters.head?, first.isDigit = true)
    (read : Text.readClock? characters = some clock) :
    readSpan? ((if isNegative then "-" else "").toList ++ characters) =
      some (isNegative, clock) := by
  cases isNegative with
  | true =>
      have sign : (if true then "-" else "").toList = ['-'] := rfl
      rw [sign, List.singleton_append, readSpan?, read]
      rfl
  | false =>
      have sign : (if false then "-" else "").toList = [] := rfl
      rw [sign, List.nil_append]
      unfold readSpan?
      split
      next rest =>
          cases opens '-' rfl
      · rw [read]
        rfl

/-- A span in its range reads back as what it amounts to. -/
theorem denotesSpan_value
    (columnType : Nat)
    {span : Span}
    (inRange : span.InRange) :
    DenotesSpan ((Cell.time span).value columnType) span := by
  obtain ⟨days, hours, minutes, seconds, microseconds⟩ := inRange
  let clock : Text.ClockTime :=
    ⟨span.days * 24 + span.hours, span.minutes, span.seconds, span.microseconds⟩
  have read := readClock?_written (span.days * 24 + span.hours) minutes seconds microseconds
  have opens :
      ∀ first ∈
          (clockText (span.days * 24 + span.hours) span.minutes span.seconds
            ++ fractionText span.microseconds).toList.head?,
        first.isDigit = true := by
    intro first isFirst
    simp only [clockText, Text.padded, String.append_assoc, String.toList_append,
      String.toList_ofList] at isFirst
    exact Text.isDigit_of_head?_zeroPadList isFirst
  have same :
      (if span.isNegative then -(clock.total : Int) else clock.total) = span.total := by
    have amount :
        clock.total =
          span.days * 86400000000 + span.hours * 3600000000 + span.minutes * 60000000
            + span.seconds * 1000000 + span.microseconds := by
      dsimp only [clock, Text.ClockTime.total]
      omega
    rw [amount, Span.total]
  refine
    ⟨span.written, span.isNegative, clock, rfl, ?_, ?_, minutes, seconds, microseconds, same⟩
  · rw [Span.written, String.append_assoc, String.toList_append]
    exact readSpan?_signed span.isNegative opens read
  · dsimp only [clock]
    omega

/-! ## Moments -/

/-- A moment whose minutes, seconds and microseconds are in their ranges. -/
structure Moment.InRange
    (moment : Moment) : Prop where
  minute : moment.minute < 60
  second : moment.second < 60
  microsecond : moment.microsecond < 1000000

/-- Reads a number of so many digits at least. -/
def readPadded?
    (width : Nat)
    (characters : List Char) : Option Nat :=
  if width ≤ characters.length then
    Text.readDecimal? characters
  else
    none

/-- Reads a day as year, month and day. -/
def readDay?
    (characters : List Char) : Option (Nat × Nat × Nat) :=
  match characters.splitOn '-' with
  | [year, month, day] => do
      let year ← readPadded? 4 year
      let month ← readPadded? 2 month
      let day ← readPadded? 2 day
      some (year, month, day)
  | _ =>
      none

/-- Reads a day and a clock time with a letter between them. -/
def readMoment?
    (characters : List Char) : Option Moment :=
  match Text.splitFirst? 'T' characters with
  | none =>
      none
  | some (day, clock) => do
      let (year, month, day) ← readDay? day
      let clock ← Text.readClock? clock
      some ⟨year, month, day, clock.hours, clock.minutes, clock.seconds, clock.microseconds⟩

theorem readPadded?_zeroPadList
    (width number : Nat) :
    readPadded? width (Text.zeroPadList width (Text.decimalList number)) = some number := by
  rw [readPadded?, if_pos Text.le_length_zeroPadList, Text.readDecimal?_zeroPadList]

namespace Moment

/-- The texts of a day's numbers with hyphens between them. -/
theorem toList_dayText
    (moment : Moment) :
    moment.dayText.toList =
      ['-'].intercalate
        [Text.zeroPadList 4 (Text.decimalList moment.year),
          Text.zeroPadList 2 (Text.decimalList moment.month),
          Text.zeroPadList 2 (Text.decimalList moment.day)] := by
  simp [dayText, Text.padded]

/-- Every day reads back, whatever its numbers. -/
theorem readDay?_dayText
    (moment : Moment) :
    readDay? moment.dayText.toList = some (moment.year, moment.month, moment.day) := by
  have noHyphen (width number : Nat) : '-' ∉ Text.zeroPadList width (Text.decimalList number) :=
    Text.not_mem_zeroPadList rfl width number
  have parts :
      moment.dayText.toList.splitOn '-' =
        [Text.zeroPadList 4 (Text.decimalList moment.year),
          Text.zeroPadList 2 (Text.decimalList moment.month),
          Text.zeroPadList 2 (Text.decimalList moment.day)] := by
    rw [toList_dayText]
    exact List.splitOn_intercalate '-' (by simp [noHyphen]) (List.cons_ne_nil _ _)
  rw [readDay?, parts]
  simp only [readPadded?_zeroPadList]
  rfl

/-- No day holds the letter in front of a time. -/
theorem not_mem_dayText
    (moment : Moment) :
    'T' ∉ moment.dayText.toList := by
  have noLetter (width number : Nat) : 'T' ∉ Text.zeroPadList width (Text.decimalList number) :=
    Text.not_mem_zeroPadList rfl width number
  rw [toList_dayText]
  simp [noLetter]

/-- A moment in its range reads back, field by field. -/
theorem readMoment?_written
    {moment : Moment}
    (inRange : moment.InRange) :
    readMoment? moment.written.toList = some moment := by
  have text :
      moment.written.toList =
        moment.dayText.toList
          ++ 'T' :: (clockText moment.hour moment.minute moment.second
            ++ fractionText moment.microsecond).toList := by
    simp [written]
  rw [text, readMoment?, Text.splitFirst?_append_cons moment.not_mem_dayText]
  dsimp only
  rw [moment.readDay?_dayText,
    readClock?_written moment.hour inRange.minute inRange.second inRange.microsecond]
  rfl

end Moment

/--
Whatever the type of its column, an integer cell becomes exactly its integer,
and a time cell a text that denotes its span.  A date cell becomes a text that
gives all its fields back, or in a column of dates its year, month and day.
-/
theorem numbers_and_times_read_back
    (columnType : Nat) :
    (∀ cell number,
      Cell.integer? cell = some number → DenotesInteger (cell.value columnType) number)
      ∧ (∀ span : Span,
        span.InRange → DenotesSpan ((Cell.time span).value columnType) span)
      ∧ (columnType ≠ dateType →
        ∀ moment : Moment,
          moment.InRange →
            ∃ text,
              (Cell.date moment).value columnType = .dateTime text
                ∧ readMoment? text.toList = some moment)
      ∧ (columnType = dateType →
        ∀ moment : Moment,
          ∃ text,
            (Cell.date moment).value columnType = .date text
              ∧ readDay? text.toList = some (moment.year, moment.month, moment.day)) := by
  refine ⟨fun _ _ => denotesInteger_value columnType, fun _ => denotesSpan_value columnType,
    fun timed moment inRange => ⟨moment.written, ?_, moment.readMoment?_written inRange⟩,
    fun dated moment => ⟨moment.dayText, ?_, moment.readDay?_dayText⟩⟩
  · rw [Cell.value, if_neg timed]
  · rw [Cell.value, if_pos dated]

/-- The greatest numbers, a span just short of nothing, and the last moment of a leap day. -/
theorem numbers_and_times_read_back_extremes :
    DenotesInteger ((Cell.unsigned 18446744073709551615).value 8) 18446744073709551615
      ∧ DenotesSpan ((Cell.time ⟨true, 4294967295, 255, 59, 59, 5⟩).value 11)
        ⟨true, 4294967295, 255, 59, 59, 5⟩
      ∧ (∃ text,
        (Cell.date ⟨2024, 2, 29, 23, 59, 59, 999999⟩).value 12 = .dateTime text
          ∧ readMoment? text.toList = some ⟨2024, 2, 29, 23, 59, 59, 999999⟩)
      ∧ ∃ text,
        (Cell.date ⟨65535, 0, 255, 0, 0, 0, 0⟩).value dateType = .date text
          ∧ readDay? text.toList = some (65535, 0, 255) := by
  obtain ⟨integers, _, _, _⟩ := numbers_and_times_read_back 8
  obtain ⟨_, spans, _, _⟩ := numbers_and_times_read_back 11
  obtain ⟨_, _, moments, _⟩ := numbers_and_times_read_back 12
  obtain ⟨_, _, _, days⟩ := numbers_and_times_read_back dateType
  refine ⟨integers _ _ rfl, spans _ ?_, moments (by decide) _ ?_, days rfl _⟩
  · constructor <;> decide
  · constructor <;> decide

end QueryAgent.Mysql

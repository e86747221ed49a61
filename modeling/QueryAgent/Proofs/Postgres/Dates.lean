import QueryAgent.Postgres.Decode
import QueryAgent.Proofs.Calendar.DayNumbers
import QueryAgent.Proofs.Calendar.Reading
import QueryAgent.Proofs.Postgres.BigEndian

namespace QueryAgent.Postgres

/-!
# Dates and points in time

A date travels as days and a point in time as microseconds, both counted from
the start of 2000.  What is decoded reads back as a date of the Gregorian
calendar that is exactly as many days, or microseconds, away, and counts outside
the supported years are refused.
-/

/-- Bytes are taken where there are just as many of them. -/
theorem exactly_of_length
    {count : Nat}
    {bytes : List UInt8}
    (length : bytes.length = count)
    (whenLonger : WireError) :
    exactly count whenLonger bytes = .ok bytes := by
  have taken := takeBytes_append length []
  rw [List.append_nil] at taken
  rw [exactly, taken]
  rfl

section
variable {Count : Type}

/--
A column decodes each supported count to a value that denotes it, refuses every
other one, and gives no two counts the same value.
-/
structure DecodesCounts
    (column : ColumnType)
    (bytesOf : Count → List UInt8)
    (IsSupported : Count → Prop)
    (Denotes : Value → Count → Prop) : Prop where
  accepted :
    ∀ count,
      IsSupported count →
        ∃ value, decodeColumn column (bytesOf count) = .ok value ∧ Denotes value count
  refused :
    ∀ count, ¬ IsSupported count → decodeColumn column (bytesOf count) = .error .outOfRange
  distinct :
    ∀ first second value,
      decodeColumn column (bytesOf first) = .ok value →
        decodeColumn column (bytesOf second) = .ok value → first = second

/-- Counts are told apart where a value denotes one of them only. -/
theorem DecodesCounts.of_unique
    {column : ColumnType}
    {bytesOf : Count → List UInt8}
    {IsSupported : Count → Prop}
    {Denotes : Value → Count → Prop}
    (accepted :
      ∀ count,
        IsSupported count →
          ∃ value, decodeColumn column (bytesOf count) = .ok value ∧ Denotes value count)
    (refused :
      ∀ count, ¬ IsSupported count → decodeColumn column (bytesOf count) = .error .outOfRange)
    (unique : ∀ value first second, Denotes value first → Denotes value second → first = second) :
    DecodesCounts column bytesOf IsSupported Denotes where
  accepted := accepted
  refused := refused
  distinct := by
    have denoted
        (count : Count)
        (value : Value)
        (decoded : decodeColumn column (bytesOf count) = .ok value) :
        Denotes value count := by
      by_cases supported : IsSupported count
      · obtain ⟨other, otherDecoded, denotes⟩ := accepted count supported
        rw [decoded] at otherDecoded
        cases otherDecoded
        exact denotes
      · rw [refused count supported] at decoded
        cases decoded
    intro first second value firstDecoded secondDecoded
    exact unique value first second (denoted first value firstDecoded)
      (denoted second value secondDecoded)

end

/-! ## Dates -/

/-- A value is a date that many days after the first of January 2000. -/
def DenotesDay
    (value : Value)
    (count : Int) : Prop :=
  ∃ text date,
    value = .date text
      ∧ Date.read? text.toList = some date
      ∧ date.IsValid
      ∧ date.daysSinceEpoch = count

theorem DenotesDay.unique
    {value : Value}
    {first second : Int}
    (isFirst : DenotesDay value first)
    (isSecond : DenotesDay value second) :
    first = second := by
  obtain ⟨text, date, rfl, read, _, rfl⟩ := isFirst
  obtain ⟨_, other, same, otherRead, _, rfl⟩ := isSecond
  cases same
  rw [read] at otherRead
  cases otherRead
  rfl

/-- The bytes of a day number are decoded to the date of the day. -/
theorem decodeDate_signedBytes
    (count : Int32) :
    decodeDate (signedBytes 4 count.toInt) =
      (Date.ofDayNumber? count.toInt).elim (.error .outOfRange) fun date =>
        .ok (.date date.written) := by
  rw [decodeDate, exactly_of_length (length_signedBytes _ _)]
  dsimp only [bind, Except.bind]
  rw [signedOf_signedBytes_int32]
  cases Date.ofDayNumber? count.toInt <;> rfl

theorem date_decodesCounts
    (name : String)
    (builtIn : Bool) :
    DecodesCounts (.plain name 1082 builtIn) (fun count : Int32 => signedBytes 4 count.toInt)
      (fun count => Date.IsSupportedDay count.toInt)
      (fun value count => DenotesDay value count.toInt) := by
  refine .of_unique (fun count supported => ?_) (fun count unsupported => ?_)
    fun value first second isFirst isSecond => Int32.toInt_inj.mp (isFirst.unique isSecond)
  · obtain ⟨valid, counted⟩ := Date.ofDayNumber_spec count.toInt
    refine ⟨.date (Date.ofDayNumber count.toInt).written, ?_, _, _, rfl,
      Date.read?_written valid, valid, counted⟩
    rw [decodeColumn, decodePlain, decodeDate_signedBytes,
      Date.ofDayNumber?_of_isSupportedDay supported, Option.elim_some]
  · rw [decodeColumn, decodePlain, decodeDate_signedBytes,
      Date.ofDayNumber?_of_not_isSupportedDay unsupported, Option.elim_none]

/-! ## Points in time -/

/-- The type of points in time, with an offset or without. -/
def timestampColumn
    (name : String)
    (builtIn isUtc : Bool) : ColumnType :=
  .plain name (if isUtc then 1184 else 1114) builtIn

/-- A value is a point in time that many microseconds after the start of 2000. -/
def DenotesInstant
    (isUtc : Bool)
    (value : Value)
    (count : Int) : Prop :=
  ∃ text reading,
    value = .dateTime text
      ∧ Timestamp.read? text.toList = some reading
      ∧ reading.isUtc = isUtc
      ∧ reading.Denotes count

theorem DenotesInstant.unique
    {isUtc : Bool}
    {value : Value}
    {first second : Int}
    (isFirst : DenotesInstant isUtc value first)
    (isSecond : DenotesInstant isUtc value second) :
    first = second := by
  obtain ⟨text, reading, rfl, read, _, denotes⟩ := isFirst
  obtain ⟨_, other, same, otherRead, _, otherDenotes⟩ := isSecond
  cases same
  rw [read] at otherRead
  cases otherRead
  exact denotes.count.symm.trans otherDenotes.count

/-- The bytes of a count of microseconds are decoded to its point in time. -/
theorem decodeColumn_timestamp
    (name : String)
    (builtIn isUtc : Bool)
    (count : Int64) :
    decodeColumn (timestampColumn name builtIn isUtc) (signedBytes 8 count.toInt) =
      (Timestamp.ofMicroseconds? count.toInt).elim (.error .outOfRange) fun timestamp =>
        .ok (.dateTime (timestamp.written ++ Timestamp.offset isUtc)) := by
  have decoded (suffix : String) :
      decodeTimestamp suffix (signedBytes 8 count.toInt) =
        (Timestamp.ofMicroseconds? count.toInt).elim (.error .outOfRange) fun timestamp =>
          .ok (.dateTime (timestamp.written ++ suffix)) := by
    rw [decodeTimestamp, exactly_of_length (length_signedBytes _ _)]
    dsimp only [bind, Except.bind]
    rw [signedOf_signedBytes_int64]
    cases Timestamp.ofMicroseconds? count.toInt <;> rfl
  cases isUtc <;> exact decoded _

/-- A count of microseconds is whole days and the time of the day that is left. -/
theorem denotes_ofMicroseconds
    (isUtc : Bool)
    (count : Int) :
    Timestamp.Reading.Denotes
      ⟨Date.ofDayNumber (count / TimeOfDay.perDay), (TimeOfDay.ofMicroseconds count).clock, isUtc⟩
      count := by
  obtain ⟨valid, days⟩ := Date.ofDayNumber_spec (count / TimeOfDay.perDay)
  have wholeDay : (0 : Int) < TimeOfDay.perDay := by
    decide
  have nonnegative := Int.emod_nonneg count wholeDay.ne'
  have small := Int.emod_lt_of_pos count wholeDay
  have inDay : (TimeOfDay.ofMicroseconds count).microseconds < 86400000000 :=
    (Int.toNat_lt nonnegative).mpr small
  refine
    { dateValid := valid
      hours := ?_
      minutes := Text.ClockTime.minutes_ofTotal_lt _
      seconds := Text.ClockTime.seconds_ofTotal_lt _
      microseconds := Text.ClockTime.microseconds_ofTotal_lt _
      count := ?_ }
  · exact Nat.div_lt_of_lt_mul inDay
  · have whole := Int.ediv_mul_add_emod count TimeOfDay.perDay
    have left : ((TimeOfDay.ofMicroseconds count).microseconds : Int) = count % TimeOfDay.perDay :=
      Int.toNat_of_nonneg nonnegative
    dsimp only
    rw [days, TimeOfDay.clock, Text.ClockTime.total_ofTotal, left]
    exact whole

theorem timestamp_decodesCounts
    (name : String)
    (builtIn isUtc : Bool) :
    DecodesCounts (timestampColumn name builtIn isUtc)
      (fun count : Int64 => signedBytes 8 count.toInt)
      (fun count => Date.IsSupportedDay (count.toInt / 86400000000))
      (fun value count => DenotesInstant isUtc value count.toInt) := by
  refine .of_unique (fun count supported => ?_) (fun count unsupported => ?_)
    fun value first second isFirst isSecond => Int64.toInt_inj.mp (isFirst.unique isSecond)
  · have denotes := denotes_ofMicroseconds isUtc count.toInt
    refine ⟨.dateTime (Timestamp.written
        ⟨Date.ofDayNumber (count.toInt / TimeOfDay.perDay), .ofMicroseconds count.toInt⟩
          ++ Timestamp.offset isUtc), ?_, _, _, rfl,
      Timestamp.read?_written denotes.dateValid isUtc, rfl, denotes⟩
    have date :
        Date.ofDayNumber? (count.toInt / TimeOfDay.perDay) =
          some (Date.ofDayNumber (count.toInt / TimeOfDay.perDay)) :=
      Date.ofDayNumber?_of_isSupportedDay supported
    rw [decodeColumn_timestamp, Timestamp.ofMicroseconds?, date]
    rfl
  · have date : Date.ofDayNumber? (count.toInt / TimeOfDay.perDay) = none :=
      Date.ofDayNumber?_of_not_isSupportedDay unsupported
    rw [decodeColumn_timestamp, Timestamp.ofMicroseconds?, date]
    rfl

/--
Dates and points in time decode to texts that denote exactly the days, or the
microseconds, that were sent, whatever the name of the type.
-/
theorem dates_and_timestamps_exact
    (name : String)
    (builtIn : Bool) :
    DecodesCounts (.plain name 1082 builtIn) (fun count : Int32 => signedBytes 4 count.toInt)
        (fun count => Date.IsSupportedDay count.toInt)
        (fun value count => DenotesDay value count.toInt)
      ∧ ∀ isUtc,
        DecodesCounts (.plain name (if isUtc then 1184 else 1114) builtIn)
          (fun count : Int64 => signedBytes 8 count.toInt)
          (fun count => Date.IsSupportedDay (count.toInt / 86400000000))
          (fun value count => DenotesInstant isUtc value count.toInt) :=
  ⟨date_decodesCounts name builtIn, timestamp_decodesCounts name builtIn⟩

/-- The last supported day is decoded, and the day after it is refused. -/
theorem dates_and_timestamps_exact_last_day :
    (∃ value,
      decodeColumn (.plain "date" 1082 true) (signedBytes 4 95015279) = .ok value
        ∧ DenotesDay value 95015279)
      ∧ decodeColumn (.plain "date" 1082 true) (signedBytes 4 95015280) =
        .error .outOfRange := by
  obtain ⟨dates, _⟩ := dates_and_timestamps_exact "date" true
  have supported : Date.IsSupportedDay 95015279 :=
    (Date.isSupportedDay_iff 95015279).mpr (by decide)
  have unsupported : ¬ Date.IsSupportedDay 95015280 :=
    mt (Date.isSupportedDay_iff 95015280).mp (by decide)
  exact ⟨dates.accepted 95015279 supported, dates.refused 95015280 unsupported⟩

end QueryAgent.Postgres

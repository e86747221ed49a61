import QueryAgent.Proofs.Postgres.BigEndian
import QueryAgent.Proofs.Postgres.IntervalWords

namespace QueryAgent.Postgres

/-!
# Intervals read back

The words of an interval, read one after another, give the months, the days and
the microseconds that were sent, each with its sign.
-/

/-! ## Reading the words -/

/-- The number of a field is read. -/
theorem readField?_fieldWords
    (afterNegative : Bool)
    (amount : Int) :
    readField? ((markOf afterNegative (amount < 0) (0 < amount)).text
        ++ Text.decimalList amount.natAbs) =
      some ⟨markOf afterNegative (amount < 0) (0 < amount), amount.natAbs⟩ := by
  have opens : ∀ first ∈ (Text.decimalList amount.natAbs).head?, first.isDigit = true :=
    fun first isFirst => Text.isDigit_of_mem_decimalList (List.mem_of_head? isFirst)
  rw [readField?, Text.Mark.split_append _ opens]
  dsimp only
  rw [Text.readDecimal?_decimalList]
  rfl

section
variable {unit : List Char} {fields : List Interval.Field} {tail : List (List Char)}

/-- A field is left out where the words are those of fields of other units. -/
theorem takeField?_of_apart
    (afterNegative : Bool)
    (apart : ∀ field ∈ fields, ¬ NamesUnit unit (unitWord field))
    (short : tail.length ≤ 1) :
    takeField? unit ((fieldGroups afterNegative fields).flatten ++ tail) =
      some (none, (fieldGroups afterNegative fields).flatten ++ tail) := by
  -- A field takes two words, and the tail is at most the one of a time.
  induction fields generalizing afterNegative with
  | nil =>
      rcases tail with _ | ⟨word, _ | ⟨next, others⟩⟩
      · rfl
      · rfl
      · simp at short
  | cons field rest inductionHypothesis =>
      rw [fieldGroups]
      by_cases zero : field.amount = 0
      · rw [if_pos zero, List.nil_append]
        exact inductionHypothesis _ fun other member => apart other (List.mem_cons_of_mem _ member)
      · have other : ¬ NamesUnit unit (unitWord field) :=
          apart field List.mem_cons_self
        rw [if_neg zero]
        exact if_neg other

/-- The field in front is read, and the words of the fields behind it are left. -/
theorem takeField?_cons
    (afterNegative : Bool)
    {amount : Int}
    {name : String}
    (apart : ∀ field ∈ fields, ¬ NamesUnit name.toList (unitWord field))
    (short : tail.length ≤ 1) :
    takeField? name.toList
        ((fieldGroups afterNegative (⟨amount, name⟩ :: fields)).flatten ++ tail) =
      some (fieldOf afterNegative amount,
        (fieldGroups (negativeAfter afterNegative amount) fields).flatten ++ tail) := by
  rw [fieldGroups]
  by_cases zero : amount = 0
  · rw [if_pos zero, List.nil_append, takeField?_of_apart _ apart short, fieldOf, if_pos zero]
  · have names : NamesUnit name.toList (unitWord ⟨amount, name⟩) := by
      rw [unitWord]
      split
      · exact .inr rfl
      · exact .inl (List.append_nil _)
    have taken :
        takeField? name.toList (fieldWords afterNegative ⟨amount, name⟩
            ++ ((fieldGroups (negativeAfter afterNegative amount) fields).flatten ++ tail)) =
          some (fieldOf afterNegative amount,
            (fieldGroups (negativeAfter afterNegative amount) fields).flatten ++ tail) := by
      refine (if_pos names).trans ?_
      rw [readField?_fieldWords, fieldOf, if_neg zero]
      rfl
    rw [if_neg zero]
    exact taken

end

/-- What is read of an interval. -/
def readingOf
    (interval : Interval) : ReadInterval :=
  let years := interval.months.tdiv 12
  let months := interval.months.tmod 12
  { years := fieldOf false years
    months := fieldOf (negativeAfter false years) months
    days := fieldOf (negativeAfter (negativeAfter false years) months) interval.days
    time :=
      if TimeIsWritten interval then
        some (timeOf (lastIsNegative interval) interval.microseconds)
      else
        none }

/-- Units that differ in the singular and in the plural are told apart. -/
theorem not_namesUnit_unitWord
    {unit : List Char}
    {name : String}
    (singular : ¬ NamesUnit unit name.toList)
    (plural : ¬ NamesUnit unit (name.toList ++ ['s']))
    (amount : Int) :
    ¬ NamesUnit unit (unitWord ⟨amount, name⟩) := by
  rw [unitWord]
  split
  · exact plural
  · rwa [List.append_nil]

/-- The text of an interval is read. -/
theorem readInterval?_written
    (interval : Interval) :
    readInterval? interval.written.toList = some (readingOf interval) := by
  have short : (timeWords interval).length ≤ 1 := by
    rw [timeWords]
    split <;> simp
  have monthsApart := not_namesUnit_unitWord
    (by decide : ¬ NamesUnit "year".toList "mon".toList) (by decide)
  have daysApart := not_namesUnit_unitWord
    (by decide : ¬ NamesUnit "year".toList "day".toList) (by decide)
  have daysApartFromMonths := not_namesUnit_unitWord
    (by decide : ¬ NamesUnit "mon".toList "day".toList) (by decide)
  have time :
      takeTime? (timeWords interval) =
        some (if TimeIsWritten interval then
            some (timeOf (lastIsNegative interval) interval.microseconds)
          else
            none) := by
    rw [timeWords]
    by_cases shown : TimeIsWritten interval
    · rw [if_pos shown, if_pos shown, takeTime?, readTime?_timeWord]
      rfl
    · rw [if_neg shown, if_neg shown]
      rfl
  rw [readInterval?, splitOn_written, intervalWords, fieldsOf,
    takeField?_cons false
      (List.forall_mem_cons.mpr
        ⟨monthsApart _, List.forall_mem_singleton.mpr (daysApart _)⟩) short]
  dsimp only [Option.bind_eq_bind, Option.bind_some]
  rw [takeField?_cons _ (List.forall_mem_singleton.mpr (daysApartFromMonths _)) short]
  dsimp only [Option.bind_eq_bind, Option.bind_some]
  rw [takeField?_cons _ (List.forall_mem_nil _) short]
  dsimp only [Option.bind_eq_bind, Option.bind_some]
  rw [fieldGroups, List.flatten_nil, List.nil_append, time]
  rfl

/-! ## What is read denotes what was sent -/

/-- A mark gives a number its sign. -/
theorem signed_markOf
    (afterNegative isUpward : Bool)
    (number : Int) :
    (markOf afterNegative (number < 0) isUpward).signed number.natAbs = number := by
  rcases lt_or_ge number 0 with negative | nonnegative
  · have mark : markOf afterNegative (number < 0) isUpward = .minus := by
      simp [markOf, negative]
    rw [mark, Text.Mark.signed, if_pos rfl]
    omega
  · have mark : markOf afterNegative (number < 0) isUpward ≠ .minus := by
      rw [markOf, decide_eq_false (by omega)]
      cases afterNegative <;> cases isUpward <;> decide
    rw [Text.Mark.signed, if_neg mark]
    omega

theorem amountOf_fieldOf
    (afterNegative : Bool)
    (amount : Int) :
    amountOf (fieldOf afterNegative amount) = amount := by
  rw [fieldOf]
  split
  next zero =>
      exact zero.symm
  next =>
      exact signed_markOf afterNegative (0 < amount) amount

theorem amount_timeOf
    (afterNegative : Bool)
    (microseconds : Int) :
    (timeOf afterNegative microseconds).amount = microseconds := by
  rw [ReadTime.amount, timeOf, Text.ClockTime.total_ofTotal]
  exact signed_markOf afterNegative true microseconds

/-- A flag says whether the nearest part before is negative. -/
def Tracks
    (afterNegative : Bool)
    (previous : Option Int) : Prop :=
  afterNegative = true ↔ ∃ amount, previous = some amount ∧ amount < 0

/-- A plus sign is the mark of what points up behind a negative part. -/
theorem markOf_eq_plus
    {afterNegative isNegative isUpward : Bool}
    (upwardOnly : isUpward = true → isNegative = false) :
    markOf afterNegative isNegative isUpward = .plus ↔ isUpward = true ∧ afterNegative = true := by
  revert upwardOnly
  cases afterNegative <;> cases isNegative <;> cases isUpward <;> decide

/-- The signs of the parts are right where those behind a number are. -/
theorem plusAfterNegative_fieldOf
    {afterNegative : Bool}
    {previous : Option Int}
    {parts : List ReadPart}
    (tracks : Tracks afterNegative previous)
    (amount : Int)
    (further :
      ∀ next, Tracks (negativeAfter afterNegative amount) next → PlusAfterNegative next parts) :
    PlusAfterNegative previous
      ((fieldOf afterNegative amount).toList.map .number ++ parts) := by
  -- A number that is zero is not written and leaves the nearest part before as it is.
  by_cases zero : amount = 0
  · rw [negativeAfter, if_pos zero] at further
    rw [fieldOf, if_pos zero]
    exact further previous tracks
  · rw [negativeAfter, if_neg zero] at further
    rw [fieldOf, if_neg zero]
    have read := signed_markOf afterNegative (0 < amount) amount
    have upwardOnly : decide (0 < amount) = true → decide (amount < 0) = false := by
      simp only [decide_eq_true_eq, decide_eq_false_iff_not]
      omega
    refine ⟨?_, further _ ?_⟩
    · show markOf _ _ _ = .plus ↔ 0 < Text.Mark.signed _ _ ∧ _
      rw [markOf_eq_plus upwardOnly, read, decide_eq_true_iff]
      exact Iff.and Iff.rfl tracks
    · show _ ↔ ∃ next, some (Text.Mark.signed _ _) = some next ∧ next < 0
      rw [read]
      simp

/-- A time is upward unless it is negative. -/
theorem plusAfterNegative_timeOf
    {afterNegative : Bool}
    {previous : Option Int}
    (tracks : Tracks afterNegative previous)
    (microseconds : Int) :
    PlusAfterNegative previous [.clock (timeOf afterNegative microseconds)] := by
  have mark :
      (timeOf afterNegative microseconds).mark = .plus ↔
        0 ≤ microseconds ∧ afterNegative = true := by
    rw [timeOf, markOf]
    rcases lt_or_ge microseconds 0 with negative | nonnegative
    · simp [negative]
    · simp [nonnegative, not_lt_of_ge nonnegative]
  refine ⟨?_, trivial⟩
  show (timeOf afterNegative microseconds).mark = .plus ↔ 0 ≤ ReadTime.amount _ ∧ _
  rw [mark, amount_timeOf]
  exact Iff.and Iff.rfl tracks

/-- Where there are no words of fields every field is zero. -/
theorem amount_eq_zero_of_fieldGroups
    {afterNegative : Bool}
    {fields : List Interval.Field}
    (none : fieldGroups afterNegative fields = []) :
    ∀ field ∈ fields, field.amount = 0 := by
  induction fields generalizing afterNegative with
  | nil =>
      exact List.forall_mem_nil _
  | cons field rest inductionHypothesis =>
      rw [fieldGroups, List.append_eq_nil_iff] at none
      refine List.forall_mem_cons.mpr ⟨?_, inductionHypothesis none.2⟩
      by_contra notZero
      rw [if_neg notZero] at none
      exact absurd none.1 (List.cons_ne_nil _ _)

/-- A number that is read is not zero. -/
theorem amount_ne_zero_of_fieldOf
    {afterNegative : Bool}
    {amount : Int}
    {field : ReadField}
    (read : fieldOf afterNegative amount = some field) :
    field.amount ≠ 0 := by
  have same : field.amount = amount := by
    rw [← amountOf_fieldOf afterNegative amount, read]
    rfl
  rw [same]
  rintro rfl
  cases read

/-- What is read of an interval denotes it. -/
theorem denotes_readingOf
    (interval : Interval) :
    (readingOf interval).Denotes interval where
  years := amountOf_fieldOf _ _
  months := by
    have parts := Int.mul_tdiv_add_tmod interval.months 12
    rw [readingOf]
    dsimp only
    rw [amountOf_fieldOf, amountOf_fieldOf]
    exact parts
  days := amountOf_fieldOf _ _
  microseconds := by
    rw [readingOf]
    dsimp only
    by_cases shown : TimeIsWritten interval
    · rw [if_pos shown]
      exact amount_timeOf _ _
    · rw [if_neg shown]
      rw [TimeIsWritten, not_or, not_not] at shown
      exact shown.2.symm
  numbersNotZero := by
    intro field member
    simp only [readingOf, List.mem_cons, List.not_mem_nil, or_false] at member
    rcases member with years | months | days
    · exact amount_ne_zero_of_fieldOf years.symm
    · exact amount_ne_zero_of_fieldOf months.symm
    · exact amount_ne_zero_of_fieldOf days.symm
  timeNotZero := by
    intro time read
    rw [readingOf] at read
    dsimp only at read
    split at read
    next shown =>
        cases read
        rcases shown with nothing | notZero
        · have zero := amount_eq_zero_of_fieldGroups nothing
          have years := zero ⟨interval.months.tdiv 12, "year"⟩ (by simp [fieldsOf])
          have months := zero ⟨interval.months.tmod 12, "mon"⟩ (by simp [fieldsOf])
          have days := zero ⟨interval.days, "day"⟩ (by simp [fieldsOf])
          exact .inr ⟨if_pos years, if_pos months, if_pos days⟩
        · rw [amount_timeOf]
          exact .inl notZero
    next =>
        cases read
  withinHour := by
    intro time read
    rw [readingOf] at read
    dsimp only at read
    split at read
    · cases read
      exact minutes_seconds_timeOf _ _
    · cases read
  plusAfterNegative := by
    have none : Tracks false Option.none := by
      simp [Tracks]
    refine plusAfterNegative_fieldOf none _ fun _ tracks => ?_
    refine plusAfterNegative_fieldOf tracks _ fun _ tracks => ?_
    refine plusAfterNegative_fieldOf tracks _ fun _ tracks => ?_
    rw [readingOf]
    dsimp only
    split
    · exact plusAfterNegative_timeOf tracks _
    · trivial

/-! ## Sixteen bytes -/

/-- The bytes of an interval. -/
def intervalBytes
    (microseconds : Int64)
    (days months : Int32) : List UInt8 :=
  signedBytes 8 microseconds.toInt ++ (signedBytes 4 days.toInt ++ signedBytes 4 months.toInt)

/-- The bytes of an interval are read as the interval. -/
theorem ofBytes?_intervalBytes
    (microseconds : Int64)
    (days months : Int32) :
    Interval.ofBytes? (intervalBytes microseconds days months) =
      some ⟨months.toInt, days.toInt, microseconds.toInt⟩ := by
  have sixteen : (intervalBytes microseconds days months).length = 16 := by
    simp [intervalBytes]
  have front : (intervalBytes microseconds days months).take 8 = signedBytes 8 microseconds.toInt :=
    List.take_left' (length_signedBytes _ _)
  have behind :
      (intervalBytes microseconds days months).drop 8 =
        signedBytes 4 days.toInt ++ signedBytes 4 months.toInt :=
    List.drop_left' (length_signedBytes _ _)
  have last : (intervalBytes microseconds days months).drop 12 = signedBytes 4 months.toInt := by
    rw [intervalBytes, ← List.append_assoc]
    exact List.drop_left' (by simp)
  rw [Interval.ofBytes?, if_pos sixteen, front, behind, last,
    List.take_left' (length_signedBytes _ _), signedOf_signedBytes_int64,
    signedOf_signedBytes_int32, signedOf_signedBytes_int32]

/-- Sixteen bytes are those of an interval. -/
theorem exists_intervalBytes
    {bytes : List UInt8}
    (length : bytes.length = 16) :
    ∃ microseconds days months, bytes = intervalBytes microseconds days months := by
  have eight : (bytes.take 8).length = 8 := by
    simp [length]
  have four : ((bytes.drop 8).take 4).length = 4 := by
    simp [length]
  have lastFour : ((bytes.drop 8).drop 4).length = 4 := by
    simp [length]
  obtain ⟨microseconds, first⟩ := exists_int64_signedBytes eight
  obtain ⟨days, second⟩ := exists_int32_signedBytes four
  obtain ⟨months, third⟩ := exists_int32_signedBytes lastFour
  refine ⟨microseconds, days, months, ?_⟩
  rw [intervalBytes, ← first, ← second, ← third, List.take_append_drop, List.take_append_drop]

/--
The text of every sixteen bytes is read back as the interval they hold, field by
field; bytes of any other number have no text.
-/
theorem interval_text_lossless :
    (∀ (microseconds : Int64) (days months : Int32),
      ∃ text reading,
        (Interval.ofBytes? (intervalBytes microseconds days months)).map Interval.written =
            some text
          ∧ text ≠ ""
          ∧ readInterval? text.toList = some reading
          ∧ reading.Denotes ⟨months.toInt, days.toInt, microseconds.toInt⟩)
      ∧ (∀ bytes : List UInt8,
        bytes.length = 16 →
          ∃ microseconds days months, bytes = intervalBytes microseconds days months)
      ∧ ∀ bytes : List UInt8,
        bytes.length ≠ 16 → (Interval.ofBytes? bytes).map Interval.written = none := by
  refine ⟨fun microseconds days months => ?_, fun _ => exists_intervalBytes, fun bytes other => ?_⟩
  · let interval : Interval := ⟨months.toInt, days.toInt, microseconds.toInt⟩
    have notEmpty : interval.written ≠ "" := by
      intro empty
      have read := readInterval?_written interval
      rw [empty] at read
      cases read
    refine ⟨interval.written, readingOf interval, ?_, notEmpty, readInterval?_written interval,
      denotes_readingOf interval⟩
    rw [ofBytes?_intervalBytes]
    rfl
  · rw [Interval.ofBytes?, if_neg other]
    rfl

/-- The least of each part is read back, as is the text of bytes one too few. -/
theorem interval_text_lossless_least :
    (∃ text reading,
      (Interval.ofBytes? (intervalBytes Int64.minValue Int32.minValue Int32.minValue)).map
          Interval.written = some text
        ∧ readInterval? text.toList = some reading
        ∧ reading.Denotes ⟨-2147483648, -2147483648, -9223372036854775808⟩)
      ∧ (Interval.ofBytes? (List.replicate 15 0)).map Interval.written = none := by
  obtain ⟨text, reading, written, _, read, denotes⟩ :=
    interval_text_lossless.1 Int64.minValue Int32.minValue Int32.minValue
  exact ⟨⟨text, reading, written, read, denotes⟩, interval_text_lossless.2.2 _ (by decide)⟩

example :
    Interval.written ⟨-13, 4, 3723500000⟩ = "-1 years -1 mons +4 days 01:02:03.5" := by
  decide +kernel

end QueryAgent.Postgres

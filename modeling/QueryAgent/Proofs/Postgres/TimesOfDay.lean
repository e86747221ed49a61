import QueryAgent.Proofs.Postgres.Dates

namespace QueryAgent.Postgres

/-!
# Times of day

A time of day travels as microseconds since midnight, and the last one there is
ends the day.  What is decoded reads back as the time of day that the count
reaches once whole days are left out: exactly the one that was sent for every
count within a day, but for the end of the day its beginning, so that these two
decode alike.
-/

/-- A value is a time of day that many microseconds after midnight. -/
def DenotesTime
    (value : Value)
    (count : Int) : Prop :=
  ∃ text clock,
    value = .text text
      ∧ Text.readClock? text.toList = some clock
      ∧ clock.minutes < 60
      ∧ clock.seconds < 60
      ∧ clock.microseconds < 1000000
      ∧ (clock.total : Int) = count

theorem DenotesTime.unique
    {value : Value}
    {first second : Int}
    (isFirst : DenotesTime value first)
    (isSecond : DenotesTime value second) :
    first = second := by
  obtain ⟨text, clock, rfl, read, _, _, _, rfl⟩ := isFirst
  obtain ⟨_, other, same, otherRead, _, _, _, rfl⟩ := isSecond
  cases same
  rw [read] at otherRead
  cases otherRead
  rfl

/-- A count is that of a time of day: at most a whole day. -/
def IsTime
    (count : Int64) : Prop :=
  0 ≤ count.toInt ∧ count.toInt ≤ 86400000000

/-- The bytes of a count are decoded to the time of day it reaches. -/
theorem decodeColumn_time
    (name : String)
    (builtIn : Bool)
    (count : Int64) :
    decodeColumn (.plain name 1083 builtIn) (signedBytes 8 count.toInt) =
      .ok (.text (TimeOfDay.ofMicroseconds count.toInt).written) := by
  rw [decodeColumn, decodePlain, decodeTime, exactly_of_length (length_signedBytes _ _)]
  dsimp only [bind, Except.bind]
  rw [signedOf_signedBytes_int64]

/-- The text of a time of day denotes what is left of a count without whole days. -/
theorem denotesTime_ofMicroseconds
    (count : Int) :
    DenotesTime (.text (TimeOfDay.ofMicroseconds count).written) (count % 86400000000) := by
  have left : ((TimeOfDay.ofMicroseconds count).microseconds : Int) = count % 86400000000 :=
    Int.toNat_of_nonneg (Int.emod_nonneg count (by decide))
  refine ⟨_, (TimeOfDay.ofMicroseconds count).clock, rfl, TimeOfDay.readClock?_written _,
    Text.ClockTime.minutes_ofTotal_lt _, Text.ClockTime.seconds_ofTotal_lt _,
    Text.ClockTime.microseconds_ofTotal_lt _, ?_⟩
  rw [TimeOfDay.clock, Text.ClockTime.total_ofTotal, left]

section
variable (name : String) (builtIn : Bool)

/-- A column refuses a count, or decodes it to a value that denotes it. -/
def DecodesTimeExactly
    (count : Int64) : Prop :=
  (∃ cause, decodeColumn (.plain name 1083 builtIn) (signedBytes 8 count.toInt) = .error cause)
    ∨ ∃ value,
      decodeColumn (.plain name 1083 builtIn) (signedBytes 8 count.toInt) = .ok value
        ∧ DenotesTime value count.toInt

/-- A count is decoded exactly when it lies within a day. -/
theorem decodesTimeExactly_iff
    (count : Int64) :
    DecodesTimeExactly name builtIn count ↔ count.toInt % 86400000000 = count.toInt := by
  have decoded := decodeColumn_time name builtIn count
  have denotes := denotesTime_ofMicroseconds count.toInt
  constructor
  · rintro (⟨cause, refused⟩ | ⟨value, read, exact⟩)
    · cases decoded.symm.trans refused
    · cases decoded.symm.trans read
      exact denotes.unique exact
  · intro within
    rw [within] at denotes
    exact .inr ⟨_, decoded, denotes⟩

/-- Two counts are decoded alike when they differ by whole days. -/
theorem decodeColumn_time_eq_iff
    (first second : Int64) :
    decodeColumn (.plain name 1083 builtIn) (signedBytes 8 first.toInt) =
        decodeColumn (.plain name 1083 builtIn) (signedBytes 8 second.toInt) ↔
      first.toInt % 86400000000 = second.toInt % 86400000000 := by
  rw [decodeColumn_time, decodeColumn_time]
  constructor
  · intro same
    have isFirst := denotesTime_ofMicroseconds first.toInt
    rw [Except.ok.inj same] at isFirst
    exact isFirst.unique (denotesTime_ofMicroseconds second.toInt)
  · intro same
    have alike : TimeOfDay.ofMicroseconds first.toInt = TimeOfDay.ofMicroseconds second.toInt :=
      congrArg (fun left : Int => TimeOfDay.mk left.toNat) same
    rw [alike]

end

/--
Every count of microseconds is decoded, to a time of day that denotes what is
left of it without whole days.  So of the times of day all are exact but the end
of the day, which is decoded as its beginning, and no other two decode alike.
-/
theorem times_exact_until_midnight
    (name : String)
    (builtIn : Bool) :
    (∀ count : Int64,
      ∃ value,
        decodeColumn (.plain name 1083 builtIn) (signedBytes 8 count.toInt) = .ok value
          ∧ DenotesTime value (count.toInt % 86400000000))
      ∧ (∀ count,
        IsTime count → (DecodesTimeExactly name builtIn count ↔ count ≠ 86400000000))
      ∧ ∀ first second,
        IsTime first → IsTime second →
          (decodeColumn (.plain name 1083 builtIn) (signedBytes 8 first.toInt) =
              decodeColumn (.plain name 1083 builtIn) (signedBytes 8 second.toInt) ↔
            first = second
              ∨ (first = 0 ∧ second = 86400000000)
              ∨ first = 86400000000 ∧ second = 0) := by
  have wholeDay : (86400000000 : Int64).toInt = 86400000000 := by
    decide
  have none : (0 : Int64).toInt = 0 := by
    decide
  refine ⟨fun count => ⟨_, decodeColumn_time name builtIn count, denotesTime_ofMicroseconds _⟩,
    fun count isTime => ?_, fun first second isFirst isSecond => ?_⟩
  · obtain ⟨nonnegative, within⟩ := isTime
    rw [decodesTimeExactly_iff, ne_eq, ← Int64.toInt_inj, wholeDay]
    omega
  · obtain ⟨firstNonnegative, firstWithin⟩ := isFirst
    obtain ⟨secondNonnegative, secondWithin⟩ := isSecond
    simp only [decodeColumn_time_eq_iff, ← Int64.toInt_inj, wholeDay, none]
    omega

/-- The last microsecond of a day is decoded exactly, and not as the end of the day. -/
theorem times_exact_until_midnight_last :
    IsTime 86399999999
      ∧ IsTime 86400000000
      ∧ DecodesTimeExactly "time" true 86399999999
      ∧ decodeColumn (.plain "time" 1083 true) (signedBytes 8 (86399999999 : Int64).toInt) ≠
        decodeColumn (.plain "time" 1083 true) (signedBytes 8 (86400000000 : Int64).toInt) := by
  obtain ⟨_, exact, distinct⟩ := times_exact_until_midnight "time" true
  have last : IsTime 86399999999 := by
    unfold IsTime
    decide
  have ending : IsTime 86400000000 := by
    unfold IsTime
    decide
  refine ⟨last, ending, (exact _ last).mpr (by decide), fun alike => ?_⟩
  rcases (distinct _ _ last ending).mp alike with same | ⟨same, _⟩ | ⟨same, _⟩ <;>
    exact absurd same (by decide)

/-- The end of the day is a time of day, but it is decoded as the beginning of the day. -/
theorem end_of_day_decoded_as_beginning :
    IsTime 86400000000
      ∧ ¬ DecodesTimeExactly "time" true 86400000000
      ∧ decodeColumn (.plain "time" 1083 true) [0, 0, 0, 0x14, 0x1d, 0xd7, 0x60, 0] =
        .ok (.text "00:00:00")
      ∧ decodeColumn (.plain "time" 1083 true) [0, 0, 0, 0, 0, 0, 0, 0] =
        .ok (.text "00:00:00") := by
  have ending :
      signedBytes 8 (86400000000 : Int64).toInt = [0, 0, 0, 0x14, 0x1d, 0xd7, 0x60, 0] := by
    decide
  have beginning : signedBytes 8 (0 : Int64).toInt = [0, 0, 0, 0, 0, 0, 0, 0] := by
    decide
  have written (count : Int) (whole : count % 86400000000 = 0) :
      (TimeOfDay.ofMicroseconds count).written = "00:00:00" := by
    have start : TimeOfDay.ofMicroseconds count = ⟨0⟩ :=
      congrArg (fun left : Int => TimeOfDay.mk left.toNat) whole
    rw [start]
    decide +kernel
  refine ⟨by unfold IsTime; decide, ?_, ?_, ?_⟩
  · rw [decodesTimeExactly_iff]
    decide
  · rw [← ending, decodeColumn_time, written _ (by decide)]
  · rw [← beginning, decodeColumn_time, written _ (by decide)]

end QueryAgent.Postgres

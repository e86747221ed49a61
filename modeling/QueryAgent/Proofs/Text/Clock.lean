import QueryAgent.Proofs.Text.Padding
import QueryAgent.Proofs.Text.Split

namespace QueryAgent.Text

/-!
# Clock times read back

Hours, minutes and seconds with colons between them and a fraction of a second
of at most six digits.  A count of microseconds is written as such a time and
reads back, however many digits of the fraction are written.
-/

/-- A time in hours, minutes, seconds and microseconds. -/
structure ClockTime where
  hours : Nat
  minutes : Nat
  seconds : Nat
  microseconds : Nat
deriving DecidableEq

namespace ClockTime

/-- How many microseconds a time has. -/
def total
    (time : ClockTime) : Nat :=
  ((time.hours * 60 + time.minutes) * 60 + time.seconds) * 1000000 + time.microseconds

/-- The time of a count of microseconds. -/
def ofTotal
    (count : Nat) : ClockTime where
  hours := count / 3600000000
  minutes := count / 60000000 % 60
  seconds := count / 1000000 % 60
  microseconds := count % 1000000

theorem total_ofTotal
    (count : Nat) :
    (ofTotal count).total = count := by
  dsimp only [ofTotal, total]
  omega

theorem minutes_ofTotal_lt
    (count : Nat) :
    (ofTotal count).minutes < 60 :=
  Nat.mod_lt _ (by norm_num)

theorem seconds_ofTotal_lt
    (count : Nat) :
    (ofTotal count).seconds < 60 :=
  Nat.mod_lt _ (by norm_num)

theorem microseconds_ofTotal_lt
    (count : Nat) :
    (ofTotal count).microseconds < 10 ^ 6 :=
  Nat.mod_lt _ (by norm_num)

end ClockTime

/-! ## Reading -/

/-- Reads a number of exactly so many digits. -/
def readDigitsOf?
    (width : Nat)
    (characters : List Char) : Option Nat :=
  if characters.length = width then
    readDecimal? characters
  else
    none

/-- Reads the digits behind the point of seconds, at most six, as microseconds. -/
def readMicroseconds?
    (digits : List Char) : Option Nat :=
  if digits.length ≤ 6 then
    (readDecimal? digits).map (· * 10 ^ (6 - digits.length))
  else
    none

/-- Reads seconds of two digits and what is behind their point, if there is one. -/
def readSeconds?
    (characters : List Char) : Option (Nat × Nat) :=
  match splitFirst? '.' characters with
  | none =>
      (readDigitsOf? 2 characters).map (·, 0)
  | some (whole, fraction) => do
      let seconds ← readDigitsOf? 2 whole
      let microseconds ← readMicroseconds? fraction
      some (seconds, microseconds)

/-- Reads a time: any number of hours, and minutes and seconds of two digits each. -/
def readClock?
    (characters : List Char) : Option ClockTime :=
  match characters.splitOn ':' with
  | [hours, minutes, seconds] => do
      let hours ← readDecimal? hours
      let minutes ← readDigitsOf? 2 minutes
      let (seconds, microseconds) ← readSeconds? seconds
      some ⟨hours, minutes, seconds, microseconds⟩
  | _ =>
      none

/-! ## What is written -/

/-- Digits alone, and at least one, are read as the number they spell. -/
theorem readDecimal?_of_digits
    {digits : List Char}
    (digitsOnly : ∀ character ∈ digits, character.isDigit = true)
    (nonempty : digits ≠ []) :
    readDecimal? digits = some (foldDigits 0 digits) := by
  have all : digits.all Char.isDigit = true :=
    List.all_eq_true.mpr digitsOnly
  simp [readDecimal?, nonempty, all]

/-- A number is read whatever width it was padded to. -/
theorem readDecimal?_zeroPadList
    (width number : Nat) :
    readDecimal? (zeroPadList width (decimalList number)) = some number := by
  rw [readDecimal?_of_digits (fun _ => isDigit_of_mem_zeroPadList) zeroPadList_ne_nil,
    foldDigits_zeroPadList]

/-- A number that fits a width is read in that width. -/
theorem readDigitsOf?_zeroPadList
    {width number : Nat}
    (positive : 0 < width)
    (small : number < 10 ^ width) :
    readDigitsOf? width (zeroPadList width (decimalList number)) = some number := by
  rw [readDigitsOf?, if_pos (length_zeroPadList positive small), readDecimal?_zeroPadList]

/-- A character that is no digit does not stand in a padded number. -/
theorem not_mem_zeroPadList
    {character : Char}
    (notDigit : character.isDigit = false)
    (width number : Nat) :
    character ∉ zeroPadList width (decimalList number) := by
  intro member
  rw [isDigit_of_mem_zeroPadList member] at notDigit
  cases notDigit

/-- How microseconds may be written behind seconds: not at all, or as digits behind a point. -/
inductive FractionWrittenAs : Nat → List Char → Prop where
  | absent :
      FractionWrittenAs 0 []
  | point
      {digits : List Char}
      (digitsOnly : ∀ character ∈ digits, character.isDigit = true)
      (nonempty : digits ≠ [])
      (short : digits.length ≤ 6) :
      FractionWrittenAs (foldDigits 0 digits * 10 ^ (6 - digits.length)) ('.' :: digits)

/-- A number of six digits is a fraction of microseconds. -/
theorem fractionWrittenAs_padded
    {width number : Nat}
    (positive : 0 < width)
    (short : width ≤ 6)
    (small : number < 10 ^ width) :
    FractionWrittenAs (number * 10 ^ (6 - width))
      ('.' :: zeroPadList width (decimalList number)) := by
  have length := length_zeroPadList positive small
  have digitsOnly :
      ∀ character ∈ zeroPadList width (decimalList number), character.isDigit = true :=
    fun _ => isDigit_of_mem_zeroPadList
  have written :=
    FractionWrittenAs.point digitsOnly zeroPadList_ne_nil (length.trans_le short)
  rwa [length, foldDigits_zeroPadList] at written

section
variable {seconds microseconds : Nat} {fraction : List Char}

/-- Nothing but digits and a point stands in a fraction. -/
theorem FractionWrittenAs.not_mem
    (written : FractionWrittenAs microseconds fraction)
    {character : Char}
    (notDigit : character.isDigit = false)
    (notPoint : character ≠ '.') :
    character ∉ fraction := by
  cases written with
  | absent =>
      exact List.not_mem_nil
  | point digitsOnly =>
      intro member
      rcases List.mem_cons.mp member with point | digit
      · exact notPoint point
      · rw [digitsOnly _ digit] at notDigit
        cases notDigit

/-- Seconds and the fraction behind them are read. -/
theorem readSeconds?_written
    (small : seconds < 100)
    (written : FractionWrittenAs microseconds fraction) :
    readSeconds? (zeroPadList 2 (decimalList seconds) ++ fraction) =
      some (seconds, microseconds) := by
  have noPoint : '.' ∉ zeroPadList 2 (decimalList seconds) :=
    not_mem_zeroPadList rfl 2 seconds
  have read : readDigitsOf? 2 (zeroPadList 2 (decimalList seconds)) = some seconds :=
    readDigitsOf?_zeroPadList (by norm_num) small
  cases written with
  | absent =>
      rw [List.append_nil, readSeconds?, splitFirst?_of_not_mem noPoint]
      dsimp only
      rw [read]
      rfl
  | point digitsOnly nonempty short =>
      rw [readSeconds?, splitFirst?_append_cons noPoint]
      dsimp only
      rw [read, readMicroseconds?, if_pos short, readDecimal?_of_digits digitsOnly nonempty]
      rfl

/-- Hours, minutes and seconds with colons between them, and what stands behind them. -/
def clockList
    (hours minutes seconds : Nat)
    (fraction : List Char) : List Char :=
  zeroPadList 2 (decimalList hours) ++ ':' ::
    (zeroPadList 2 (decimalList minutes) ++ ':' ::
      (zeroPadList 2 (decimalList seconds) ++ fraction))

/-- Nothing but digits, colons and a point stands in a time. -/
theorem not_mem_clockList
    (written : FractionWrittenAs microseconds fraction)
    {character : Char}
    (notDigit : character.isDigit = false)
    (notPoint : character ≠ '.')
    (notColon : character ≠ ':')
    (hours minutes : Nat) :
    character ∉ clockList hours minutes seconds fraction := by
  simp [clockList, not_mem_zeroPadList notDigit, written.not_mem notDigit notPoint, notColon]

/-- A time opens with a digit. -/
theorem isDigit_of_head?_clockList
    {hours minutes : Nat}
    {first : Char}
    (isFirst : first ∈ (clockList hours minutes seconds fraction).head?) :
    first.isDigit = true :=
  isDigit_of_head?_zeroPadList isFirst

/-- A written time is read as what was written. -/
theorem readClock?_clockList
    (hours : Nat)
    {minutes : Nat}
    (minutesSmall : minutes < 100)
    (secondsSmall : seconds < 100)
    (written : FractionWrittenAs microseconds fraction) :
    readClock? (clockList hours minutes seconds fraction) =
      some ⟨hours, minutes, seconds, microseconds⟩ := by
  have noColon (number : Nat) : ':' ∉ zeroPadList 2 (decimalList number) :=
    not_mem_zeroPadList rfl 2 number
  have parts :
      (clockList hours minutes seconds fraction).splitOn ':' =
        [zeroPadList 2 (decimalList hours), zeroPadList 2 (decimalList minutes),
          zeroPadList 2 (decimalList seconds) ++ fraction] := by
    have joined :
        clockList hours minutes seconds fraction =
          [':'].intercalate
            [zeroPadList 2 (decimalList hours), zeroPadList 2 (decimalList minutes),
              zeroPadList 2 (decimalList seconds) ++ fraction] := by
      simp [clockList]
    rw [joined]
    refine List.splitOn_intercalate ':' ?_ (List.cons_ne_nil _ _)
    have noColonBehind : ':' ∉ fraction :=
      written.not_mem rfl (by decide)
    simp [noColon, noColonBehind]
  rw [readClock?, parts]
  dsimp only
  rw [readDecimal?_zeroPadList, readDigitsOf?_zeroPadList (by norm_num) minutesSmall,
    readSeconds?_written secondsSmall written]
  rfl

end

end QueryAgent.Text

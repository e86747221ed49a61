import QueryAgent.Proofs.Calendar.Gregorian
import Mathlib.Tactic.IntervalCases
import Mathlib.Tactic.Linarith

namespace QueryAgent

/-!
# The date of a day number

Days are counted in eras of four hundred years and in years that begin in March,
so that a leap day is the last of its year.  The date that is reached is in the
calendar and counts exactly the days it was reached by, for every day number.
-/

namespace Date

/-! ## The years of an era -/

section
variable {day quarter century year : Nat}

/--
Counting years of 365 days, with a day left out every 1460 and put back every
36524, keeps to the centuries and to the years that are divided by four.
-/
theorem century_and_quarter
    (centuryInEra : century < 4)
    (quarterFrom : 1460 * quarter ≤ day)
    (quarterTo : day < 1460 * quarter + 1460)
    (centuryFrom : 36524 * century ≤ day)
    (centuryTo : day < 36524 * century + 36524)
    (yearFrom : 365 * year + quarter ≤ day + century)
    (yearTo : day + century < 365 * year + 365 + quarter) :
    100 * century ≤ year
      ∧ year < 100 * century + 100
      ∧ year / 4 ≤ quarter
      ∧ quarter ≤ (year + 1) / 4 := by
  -- The corrections add up over an era but stay below a year within any one century.
  refine ⟨?_, ?_, ?_, ?_⟩ <;> interval_cases century <;> omega

/-- The days before the year of a day and before the year after it have the day between them. -/
theorem yearOfEra_bounds
    (inEra : day < 146096) :
    yearOfEra day < 400
      ∧ daysBeforeYear (yearOfEra day) ≤ day
      ∧ day < daysBeforeYear (yearOfEra day + 1) := by
  have counted : yearOfEra day = (day + day / 36524 - day / 1460) / 365 := by
    have noEra : day / 146096 = 0 := by
      omega
    rw [yearOfEra, noEra]
    congr 1
    omega
  have quarterFrom : 1460 * (day / 1460) ≤ day := by
    omega
  have quarterTo : day < 1460 * (day / 1460) + 1460 := by
    omega
  have centuryFrom : 36524 * (day / 36524) ≤ day := by
    omega
  have centuryTo : day < 36524 * (day / 36524) + 36524 := by
    omega
  have yearFrom : 365 * yearOfEra day + day / 1460 ≤ day + day / 36524 := by
    omega
  have yearTo : day + day / 36524 < 365 * yearOfEra day + 365 + day / 1460 := by
    omega
  obtain ⟨fromCentury, toCentury, quarterLeft, quarterBack⟩ :=
    century_and_quarter (by omega) quarterFrom quarterTo centuryFrom centuryTo yearFrom yearTo
  refine ⟨by omega, ?_, ?_⟩
  · rw [daysBeforeYear]
    omega
  · rw [daysBeforeYear]
    -- The last year of a century has no leap day at its end, and ends with the century.
    rcases Nat.lt_or_ge (yearOfEra day + 1) (100 * (day / 36524) + 100) with inside | last
    · have century : (yearOfEra day + 1) / 100 = day / 36524 := by
        omega
      rw [century]
      omega
    · have next : yearOfEra day + 1 = 100 * (day / 36524 + 1) := by
        omega
      omega

/-- A day of an era lies in its year, which ends in a leap day before a leap year's March. -/
theorem yearOfEra_spec
    (inEra : day < daysPerEra) :
    yearOfEra day < 400
      ∧ daysBeforeYear (yearOfEra day) ≤ day
      ∧ day < daysBeforeYear (yearOfEra day) + yearLength (yearOfEra day + 1 : Nat) := by
  rw [daysPerEra] at inEra
  rcases Nat.lt_or_ge day 146096 with inside | last
  · obtain ⟨small, fromYear, toYear⟩ := yearOfEra_bounds inside
    refine ⟨small, fromYear, ?_⟩
    have leap := isLeap_iff (yearOfEra day + 1 : Nat)
    rw [daysBeforeYear] at toYear
    rw [daysBeforeYear, yearLength]
    split
    next isLeap =>
        have rule := leap.mp isLeap
        omega
    next notLeap =>
        have rule := mt leap.mpr notLeap
        have centuries : yearOfEra day / 100 ≤ (yearOfEra day + 1) / 100 := by
          omega
        rcases Nat.eq_zero_or_pos ((yearOfEra day + 1) % 4) with quarter | noQuarter
        · have century : (yearOfEra day + 1) / 100 = yearOfEra day / 100 + 1 := by
            omega
          omega
        · have quarters : (yearOfEra day + 1) / 4 = yearOfEra day / 4 := by
            omega
          omega
  · -- The leap day that ends an era is the one day that the bounds leave out.
    obtain rfl : day = 146096 := by
      omega
    decide

end

/-! ## The months of a year that begins in March -/

/-- The calendar month that is so many months after March. -/
def calendarMonth
    (month : Nat) : Nat :=
  if month < 10 then month + 3 else month - 9

/-- A day of a year that begins in March lies in its month. -/
theorem month_bounds
    {day : Nat}
    (inYear : day < 366) :
    (5 * day + 2) / 153 < 12
      ∧ daysBeforeMonth ((5 * day + 2) / 153) ≤ day
      ∧ day < daysBeforeMonth ((5 * day + 2) / 153 + 1) := by
  rw [daysBeforeMonth, daysBeforeMonth]
  refine ⟨?_, ?_, ?_⟩ <;> omega

/-- From March on the days of a month are those to the next one. -/
theorem monthLength_calendarMonth
    (leap : Bool) :
    ∀ month < 11,
      daysBeforeMonth month + monthLength leap (calendarMonth month) =
        daysBeforeMonth (month + 1) := by
  cases leap <;> decide

/-- From March to December the days before a month follow those of January and February. -/
theorem daysToMonth_calendarMonth_lt
    (leap : Bool) :
    ∀ month < 10,
      daysToMonth leap (calendarMonth month) =
        59 + leap.toNat + daysBeforeMonth month := by
  cases leap <;> decide

/-- In January and February the days before a month are counted from the March before. -/
theorem daysToMonth_calendarMonth_ge
    (leap : Bool) :
    ∀ month < 12,
      10 ≤ month → daysToMonth leap (calendarMonth month) + 306 = daysBeforeMonth month := by
  cases leap <;> decide

/-- The date of a day of a year that begins in March. -/
def ofMarchYear
    (year : Int)
    (day : Nat) : Date :=
  let month := (5 * day + 2) / 153
  { year := year + if calendarMonth month ≤ 2 then 1 else 0
    month := calendarMonth month
    day := day - daysBeforeMonth month + 1 }

/-- January and February belong to the calendar year that is to come. -/
theorem year_ofMarchYear
    {month : Nat}
    (inYear : month < 12)
    (year : Int) :
    (year + if calendarMonth month ≤ 2 then 1 else 0) = if month < 10 then year else year + 1 := by
  rw [calendarMonth]
  split <;> split <;> omega

theorem ofMarchYear_isValid
    {year : Int}
    {day : Nat}
    (inYear : day < yearLength (year + 1)) :
    (ofMarchYear year day).IsValid := by
  rw [yearLength_eq] at inYear
  have leapDay := Bool.toNat_le (isLeap (year + 1))
  obtain ⟨monthSmall, fromMonth, toMonth⟩ := month_bounds (by omega : day < 366)
  rw [ofMarchYear, year_ofMarchYear monthSmall]
  generalize (5 * day + 2) / 153 = month at monthSmall fromMonth toMonth ⊢
  have inCalendar : 1 ≤ calendarMonth month ∧ calendarMonth month ≤ 12 := by
    rw [calendarMonth]
    split <;> omega
  refine ⟨inCalendar.1, inCalendar.2, Nat.le_add_left 1 _, ?_⟩
  rcases Nat.lt_or_ge month 11 with early | last
  · have length := monthLength_calendarMonth
      (isLeap (if month < 10 then year else year + 1)) month early
    dsimp only
    omega
  · obtain rfl : month = 11 := by
      omega
    have february :
        monthLength (isLeap (year + 1)) (calendarMonth 11) =
          28 + (isLeap (year + 1)).toNat := by
      cases isLeap (year + 1) <;> rfl
    have before : daysBeforeMonth 11 = 337 := rfl
    dsimp only
    rw [if_neg (by omega), february, before]
    omega

/-- The days before a month are counted from the March before. -/
theorem daysToMonth_ofMarchYear
    {month : Nat}
    (inYear : month < 12)
    (year : Int) :
    daysFromZero (if month < 10 then year else year + 1)
        + daysToMonth (isLeap (if month < 10 then year else year + 1)) (calendarMonth month) =
      daysFromZero (year + 1) - 306 + daysBeforeMonth month := by
  rcases Nat.lt_or_ge month 10 with early | late
  · have days := daysToMonth_calendarMonth_lt (isLeap year) month early
    rw [if_pos early, days, daysFromZero_succ, yearLength_eq]
    push_cast
    ring
  · have days := daysToMonth_calendarMonth_ge (isLeap (year + 1)) month inYear late
    rw [if_neg (by omega)]
    omega

theorem daysSinceEpoch_ofMarchYear
    {year : Int}
    {day : Nat}
    (inYear : day < yearLength (year + 1)) :
    (ofMarchYear year day).daysSinceEpoch =
      daysFromZero (year + 1) - 306 + day - daysFromZero 2000 := by
  rw [yearLength_eq] at inYear
  have leapDay := Bool.toNat_le (isLeap (year + 1))
  obtain ⟨monthSmall, fromMonth, toMonth⟩ := month_bounds (by omega : day < 366)
  rw [ofMarchYear, daysSinceEpoch]
  dsimp only
  rw [year_ofMarchYear monthSmall, daysToYear_eq]
  have days := daysToMonth_ofMarchYear monthSmall year
  omega

/-! ## The date of a day number -/

theorem isLeap_add_eras
    (year era : Int) :
    isLeap (year + era * 400) = isLeap year := by
  rw [Bool.eq_iff_iff, isLeap_iff, isLeap_iff]
  omega

/-- The days before a year, counted in eras and in years of an era that begin in March. -/
theorem daysFromZero_march
    {year : Nat}
    (inEra : year < 400)
    (era : Int) :
    daysFromZero (year + era * 400 + 1) = era * daysPerEra + daysBeforeYear year + 366 := by
  rw [daysFromZero, daysBeforeYear, daysPerEra]
  omega

/-- The date of a day number is that of a day of a year that begins in March. -/
theorem exists_ofMarchYear
    (number : Int) :
    ∃ year day,
      day < yearLength (year + 1)
        ∧ ofDayNumber number = ofMarchYear year day
        ∧ daysFromZero (year + 1) - 306 + day - daysFromZero 2000 = number := by
  have wholeEra : (0 : Int) < daysPerEra := by
    decide
  have nonnegative := Int.emod_nonneg (number + daysBeforeEpoch) wholeEra.ne'
  have small := Int.emod_lt_of_pos (number + daysBeforeEpoch) wholeEra
  let dayOfEra := ((number + daysBeforeEpoch) % daysPerEra).toNat
  let era := (number + daysBeforeEpoch) / daysPerEra
  have day : (dayOfEra : Int) = (number + daysBeforeEpoch) % daysPerEra :=
    Int.toNat_of_nonneg nonnegative
  have shifted : era * daysPerEra + dayOfEra = number + daysBeforeEpoch := by
    rw [day]
    exact Int.ediv_mul_add_emod _ _
  have inEra : dayOfEra < daysPerEra := by
    omega
  obtain ⟨yearSmall, fromYear, toYear⟩ := yearOfEra_spec inEra
  have march := daysFromZero_march yearSmall era
  have epoch : daysFromZero 2000 = daysBeforeEpoch + 60 := by
    decide
  have next :
      (yearOfEra dayOfEra : Int) + era * 400 + 1 = (yearOfEra dayOfEra + 1 : Nat) + era * 400 := by
    push_cast
    ring
  refine ⟨yearOfEra dayOfEra + era * 400, dayOfEra - daysBeforeYear (yearOfEra dayOfEra), ?_, rfl,
    ?_⟩
  · rw [next, yearLength_eq, isLeap_add_eras, ← yearLength_eq]
    omega
  · rw [march, epoch]
    push_cast [fromYear]
    linarith

/-- The date of a day number is in the calendar and counts that many days. -/
theorem ofDayNumber_spec
    (number : Int) :
    (ofDayNumber number).IsValid ∧ (ofDayNumber number).daysSinceEpoch = number := by
  obtain ⟨year, day, inYear, same, count⟩ := exists_ofMarchYear number
  rw [same]
  exact ⟨ofMarchYear_isValid inYear, (daysSinceEpoch_ofMarchYear inYear).trans count⟩

/-! ## The supported years -/

/-- A day lies in the years from -262143 to 262142. -/
def IsSupportedDay
    (number : Int) : Prop :=
  ∃ date : Date,
    date.IsValid
      ∧ (-262143 ≤ date.year ∧ date.year ≤ 262142)
      ∧ date.daysSinceEpoch = number

theorem isSupportedDay_iff
    (number : Int) :
    IsSupportedDay number ↔
      leastYear ≤ (ofDayNumber number).year ∧ (ofDayNumber number).year ≤ greatestYear := by
  obtain ⟨valid, count⟩ := ofDayNumber_spec number
  constructor
  · rintro ⟨date, dateValid, inYears, dateCount⟩
    have same := eq_of_daysSinceEpoch dateValid valid (dateCount.trans count.symm)
    rwa [same] at inYears
  · intro inYears
    exact ⟨ofDayNumber number, valid, inYears, count⟩

/-- A day of the supported years has its date. -/
theorem ofDayNumber?_of_isSupportedDay
    {number : Int}
    (supported : IsSupportedDay number) :
    ofDayNumber? number = some (ofDayNumber number) :=
  if_pos ((isSupportedDay_iff number).mp supported)

/-- A day outside the supported years has no date. -/
theorem ofDayNumber?_of_not_isSupportedDay
    {number : Int}
    (unsupported : ¬ IsSupportedDay number) :
    ofDayNumber? number = none :=
  if_neg (mt (isSupportedDay_iff number).mpr unsupported)

example : (ofDayNumber? (-36465)).map written = some "1900-03-01" := by
  decide +kernel

end Date

end QueryAgent

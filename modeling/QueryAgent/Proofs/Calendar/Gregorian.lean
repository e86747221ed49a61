import QueryAgent.Calendar
import Mathlib.Algebra.BigOperators.Intervals
import Mathlib.Algebra.Order.BigOperators.Group.Finset
import Mathlib.Tactic.Ring

namespace QueryAgent

/-!
# The Gregorian calendar

The proleptic Gregorian calendar by its leap years and the lengths of its
months.  A date counts the days of the years, of the months and of its month
that lie between the first of January 2000 and itself, and no two valid dates
count the same.
-/

namespace Date

/-! ## Years and months -/

/-- Every fourth year is a leap year, of every hundredth only every fourth. -/
def isLeap
    (year : Int) : Bool :=
  year % 4 = 0 && (year % 100 ≠ 0 || year % 400 = 0)

/-- The days of a year. -/
def yearLength
    (year : Int) : Nat :=
  if isLeap year then 366 else 365

/-- The days of a month, by whether it is in a leap year. -/
def monthLength
    (leap : Bool) : Nat → Nat
  | 2 => if leap then 29 else 28
  | 4 => 30
  | 6 => 30
  | 9 => 30
  | 11 => 30
  | _ => 31

/-- A date that is in the calendar. -/
structure IsValid
    (date : Date) : Prop where
  monthFrom : 1 ≤ date.month
  monthTo : date.month ≤ 12
  dayFrom : 1 ≤ date.day
  dayTo : date.day ≤ monthLength (isLeap date.year) date.month

theorem monthLength_le
    (leap : Bool)
    (month : Nat) :
    monthLength leap month ≤ 31 := by
  unfold monthLength
  split <;> try decide
  cases leap <;> decide

theorem IsValid.day_lt
    {date : Date}
    (valid : date.IsValid) :
    date.day < 32 :=
  Nat.lt_succ_of_le (valid.dayTo.trans (monthLength_le _ _))

/-- The days from the first of January 2000 to that of a year, negative for years before. -/
def daysToYear
    (year : Int) : Int :=
  ∑ passed ∈ Finset.range (year - 2000).toNat, (yearLength (2000 + passed) : Int)
    - ∑ passed ∈ Finset.range (2000 - year).toNat, (yearLength (1999 - passed) : Int)

/-- The days of a year before one of its months. -/
def daysToMonth
    (leap : Bool)
    (month : Nat) : Nat :=
  ∑ earlier ∈ Finset.Ico 1 month, monthLength leap earlier

/-- The days from the first of January 2000 to a date, negative for dates before. -/
def daysSinceEpoch
    (date : Date) : Int :=
  daysToYear date.year + daysToMonth (isLeap date.year) date.month + (date.day - 1)

/-! ## The days of years in closed form -/

/-- The days from the first of January of year zero to that of a year. -/
def daysFromZero
    (year : Int) : Int :=
  365 * year + (year + 3) / 4 - (year + 99) / 100 + (year + 399) / 400

theorem yearLength_eq
    (year : Int) :
    yearLength year = 365 + (isLeap year).toNat := by
  rw [yearLength]
  cases isLeap year <;> rfl

theorem isLeap_iff
    (year : Int) :
    isLeap year = true ↔ year % 4 = 0 ∧ (year % 100 ≠ 0 ∨ year % 400 = 0) := by
  simp [isLeap]

/-- A year takes its days. -/
theorem daysFromZero_succ
    (year : Int) :
    daysFromZero (year + 1) = daysFromZero year + yearLength year := by
  rw [yearLength, daysFromZero, daysFromZero]
  have leap := isLeap_iff year
  split
  next isLeap =>
      rw [isLeap] at leap
      have rule := leap.mp rfl
      omega
  next notLeap =>
      have rule := mt leap.mpr notLeap
      omega

theorem daysToYear_eq
    (year : Int) :
    daysToYear year = daysFromZero year - daysFromZero 2000 := by
  have forward (count : Nat) :
      ∑ passed ∈ Finset.range count, (yearLength (2000 + passed) : Int) =
        daysFromZero (2000 + count) - daysFromZero 2000 := by
    induction count with
    | zero =>
        simp
    | succ count inductionHypothesis =>
        have step := daysFromZero_succ (2000 + count)
        rw [Finset.sum_range_succ, inductionHypothesis]
        push_cast
        rw [← Int.add_assoc, step]
        ring
  have backward (count : Nat) :
      ∑ passed ∈ Finset.range count, (yearLength (1999 - passed) : Int) =
        daysFromZero 2000 - daysFromZero (2000 - count) := by
    induction count with
    | zero =>
        simp
    | succ count inductionHypothesis =>
        have step := daysFromZero_succ (1999 - count)
        have next : (1999 : Int) - count + 1 = 2000 - count := by
          ring
        have last : (2000 : Int) - (count + 1 : Nat) = 1999 - count := by
          push_cast
          ring
        rw [next] at step
        rw [Finset.sum_range_succ, inductionHypothesis, step, last]
        ring
  rw [daysToYear, forward, backward]
  rcases le_total 2000 year with later | earlier
  · have none : (2000 - year).toNat = 0 := by
      omega
    have count : 2000 + ((year - 2000).toNat : Int) = year := by
      omega
    rw [none, count]
    simp
  · have none : (year - 2000).toNat = 0 := by
      omega
    have count : 2000 - ((2000 - year).toNat : Int) = year := by
      omega
    rw [none, count]
    simp

/-! ## Dates are told apart by their days -/

/-- The days to a year grow with the years. -/
theorem daysToYear_le
    {first second : Int}
    (ordered : first ≤ second) :
    daysToYear first ≤ daysToYear second := by
  refine monotone_int_of_le_succ (fun year => ?_) ordered
  rw [daysToYear_eq, daysToYear_eq, daysFromZero_succ]
  omega

/-- A month takes its days. -/
theorem daysToMonth_succ
    {month : Nat}
    (inCalendar : 1 ≤ month)
    (leap : Bool) :
    daysToMonth leap (month + 1) = daysToMonth leap month + monthLength leap month :=
  Finset.sum_Ico_succ_top inCalendar _

theorem daysToMonth_le
    (leap : Bool)
    {first second : Nat}
    (ordered : first ≤ second) :
    daysToMonth leap first ≤ daysToMonth leap second :=
  Finset.sum_le_sum_of_subset (Finset.Ico_subset_Ico_right ordered)

/-- The months of a year make up the year. -/
theorem daysToMonth_thirteen
    (leap : Bool) :
    daysToMonth leap 13 = 365 + leap.toNat := by
  cases leap <;> decide

section
variable {date : Date} (valid : date.IsValid)
include valid

/-- A valid date lies in its month. -/
theorem day_lt_daysToMonth :
    daysToMonth (isLeap date.year) date.month + (date.day - 1) <
      daysToMonth (isLeap date.year) (date.month + 1) := by
  have first := valid.dayFrom
  have last := valid.dayTo
  rw [daysToMonth_succ valid.monthFrom]
  omega

/-- A valid date lies in its year. -/
theorem daysSinceEpoch_bounds :
    daysToYear date.year ≤ date.daysSinceEpoch
      ∧ date.daysSinceEpoch < daysToYear (date.year + 1) := by
  have inMonth := day_lt_daysToMonth valid
  have inYear :
      daysToMonth (isLeap date.year) (date.month + 1) ≤ 365 + (isLeap date.year).toNat := by
    rw [← daysToMonth_thirteen]
    exact daysToMonth_le _ (Nat.succ_le_succ valid.monthTo)
  have next : daysToYear (date.year + 1) = daysToYear date.year + yearLength date.year := by
    rw [daysToYear_eq, daysToYear_eq, daysFromZero_succ]
    ring
  have day := valid.dayFrom
  rw [next, yearLength_eq, daysSinceEpoch]
  omega

end

section
variable {first second : Date} (firstValid : first.IsValid) (secondValid : second.IsValid)
include firstValid secondValid

theorem year_le_of_daysSinceEpoch
    (ordered : first.daysSinceEpoch ≤ second.daysSinceEpoch) :
    first.year ≤ second.year := by
  by_contra later
  have apart := daysToYear_le (Int.add_one_le_of_lt (not_le.mp later))
  have firstBounds := daysSinceEpoch_bounds firstValid
  have secondBounds := daysSinceEpoch_bounds secondValid
  omega

theorem month_le_of_daysSinceEpoch
    (sameYear : first.year = second.year)
    (ordered : first.daysSinceEpoch ≤ second.daysSinceEpoch) :
    first.month ≤ second.month := by
  by_contra later
  have apart := daysToMonth_le (isLeap second.year) (Nat.succ_le_of_lt (not_le.mp later))
  have inMonth := day_lt_daysToMonth secondValid
  have secondDay := secondValid.dayFrom
  have firstDay := firstValid.dayFrom
  rw [daysSinceEpoch, daysSinceEpoch, sameYear] at ordered
  rw [Nat.succ_eq_add_one] at apart
  omega

/-- No two valid dates count the same days. -/
theorem eq_of_daysSinceEpoch
    (same : first.daysSinceEpoch = second.daysSinceEpoch) :
    first = second := by
  have year : first.year = second.year :=
    le_antisymm (year_le_of_daysSinceEpoch firstValid secondValid same.le)
      (year_le_of_daysSinceEpoch secondValid firstValid same.ge)
  have month : first.month = second.month :=
    le_antisymm (month_le_of_daysSinceEpoch firstValid secondValid year same.le)
      (month_le_of_daysSinceEpoch secondValid firstValid year.symm same.ge)
  -- With year and month alike, the days of the month are all that can still differ.
  have firstDay := firstValid.dayFrom
  have secondDay := secondValid.dayFrom
  rw [daysSinceEpoch, daysSinceEpoch, year, month] at same
  obtain ⟨firstYear, firstMonth, firstDayNumber⟩ := first
  obtain ⟨secondYear, secondMonth, secondDayNumber⟩ := second
  simp only at year month firstDay secondDay same
  obtain rfl : firstDayNumber = secondDayNumber := by
    omega
  rw [year, month]

end

end Date

end QueryAgent

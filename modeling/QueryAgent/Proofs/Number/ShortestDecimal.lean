import QueryAgent.Number.Shortest
import QueryAgent.Proofs.Number.Rounding

namespace QueryAgent.Number

/-!
# The shortest decimal rounds back

The shortest decimal of a double is found on a decimal grid, as a neighbour of
its magnitude that rounds to it.  A grid of seventeen digits always has one,
because its steps are shorter than the places of the double.
-/

/-- The value of a decimal. -/
def Decimal.value
    (decimal : Decimal) : ℚ :=
  decimal.digits * 10 ^ decimal.exponent

/-! ## Decimal digits -/

namespace Binary64

/-- One more digit for each further power of ten. -/
theorem decimalLength_eq
    (number : Nat) :
    decimalLength number =
      if number < 10 then 1 else decimalLength (number / 10) + 1 := by
  rw [decimalLength]

/-- A number is below the power of ten with as many zeros as it has digits. -/
theorem lt_pow_decimalLength
    (number : Nat) :
    number < 10 ^ decimalLength number := by
  induction number using Nat.strongRecOn with
  | ind number inductionHypothesis =>
      rw [decimalLength_eq]
      split
      next single =>
          simpa using single
      next several =>
          have earlier := inductionHypothesis (number / 10) (by omega)
          rw [pow_succ]
          omega

/-- A number other than zero reaches the power of ten with one zero less than it has digits. -/
theorem pow_le_decimalLength
    {number : Nat}
    (positive : 0 < number) :
    10 ^ decimalLength number ≤ 10 * number := by
  induction number using Nat.strongRecOn with
  | ind number inductionHypothesis =>
      rw [decimalLength_eq]
      split
      · omega
      next several =>
          have earlier := inductionHypothesis (number / 10) (by omega) (by omega)
          rw [pow_succ]
          omega

end Binary64

/-- Trailing zeros are taken off without a change of value. -/
theorem value_normalize
    (digits : Nat)
    (exponent : Int) :
    (Decimal.normalize digits exponent).value = digits * 10 ^ exponent := by
  induction digits using Nat.strongRecOn generalizing exponent with
  | ind digits inductionHypothesis =>
      rw [Decimal.normalize]
      split
      next trailing =>
          obtain ⟨notZero, divides⟩ := trailing
          rw [inductionHypothesis (digits / 10) (by omega)]
          have tenTimes : (digits : ℚ) = (digits / 10 : Nat) * 10 := by
            exact_mod_cast (Nat.div_mul_cancel (Nat.dvd_of_mod_eq_zero divides)).symm
          rw [tenTimes, zpow_add_one₀ (by norm_num)]
          ring
      · rfl

/-! ## The interval of a double -/

namespace RoundingInterval

/-- A value between the ends of an interval, or at one that belongs to it. -/
def Holds
    (interval : RoundingInterval)
    (value : ℚ) : Prop :=
  if interval.closed then
    (interval.lower : ℚ) ≤ value * interval.denominator
      ∧ value * interval.denominator ≤ interval.upper
  else
    (interval.lower : ℚ) < value * interval.denominator
      ∧ value * interval.denominator < interval.upper

/-- Between the ends of an interval both kinds of ends agree. -/
theorem holds_of_strict
    {interval : RoundingInterval}
    {value : ℚ}
    (above : (interval.lower : ℚ) < value * interval.denominator)
    (below : value * interval.denominator < interval.upper) :
    interval.Holds value := by
  unfold Holds
  split
  · exact ⟨above.le, below.le⟩
  · exact ⟨above, below⟩

section
variable (significand : Nat) (scale : Int) (narrowBelow : Bool)

/-- The bounds of an interval count quarters of a place. -/
theorem around_quarters :
    ∃ factor : Nat,
      0 < factor ∧
        0 < (around significand scale narrowBelow).denominator ∧
        (factor : ℚ) =
          2 ^ scale / 4 * (around significand scale narrowBelow).denominator ∧
        (around significand scale narrowBelow).lower =
          (4 * significand - if narrowBelow then 1 else 2) * factor ∧
        (around significand scale narrowBelow).middle = 4 * significand * factor ∧
        (around significand scale narrowBelow).upper = (4 * significand + 2) * factor := by
  have quartered : (2 : ℚ) ^ (scale - 2) = 2 ^ scale / 4 := by
    rw [zpow_sub₀ two_ne_zero]
    norm_num
  unfold around
  cases quarter : scale - 2 with
  | ofNat exponent =>
      refine ⟨Nat.pow 2 exponent, Nat.pow_pos (by decide), Nat.one_pos, ?_, rfl, rfl, rfl⟩
      rw [← quartered, quarter, Int.ofNat_eq_natCast, zpow_natCast]
      simp
  | negSucc exponent =>
      refine ⟨1, Nat.one_pos, Nat.pow_pos (by decide), ?_, rfl, rfl, rfl⟩
      rw [← quartered, quarter, zpow_negSucc]
      simp

/-- The ends belong to an interval when the significand is even. -/
theorem around_closed :
    (around significand scale narrowBelow).closed = (significand % 2 == 0) := by
  unfold around
  split <;> rfl

end

end RoundingInterval

namespace Binary64

/-- The interval that the shortest decimal of a double is looked for in. -/
def interval
    (double : Binary64) : RoundingInterval :=
  .around double.significand double.scale double.narrowsBelow

theorem shortest_eq
    (double : Binary64) :
    double.shortest = double.interval.shortest :=
  rfl

section
variable {double : Binary64}

/-- The bounds of the interval of a double, in its places. -/
theorem interval_bounds
    (notZero : 0 < double.significand) :
    0 < double.interval.denominator ∧
      (double.interval.lower : ℚ) =
        (double.significand - double.slackBelow) * 2 ^ double.scale
          * double.interval.denominator ∧
      (double.interval.middle : ℚ) =
        double.significand * 2 ^ double.scale * double.interval.denominator ∧
      (double.interval.upper : ℚ) =
        (double.significand + 1 / 2) * 2 ^ double.scale
          * double.interval.denominator := by
  obtain ⟨factor, _, positive, factorIs, lower, middle, upper⟩ :=
    RoundingInterval.around_quarters double.significand double.scale double.narrowsBelow
  refine ⟨positive, ?_, ?_, ?_⟩
  · unfold interval
    rw [lower]
    unfold slackBelow
    split
    · push_cast [show 1 ≤ 4 * double.significand by omega]
      rw [factorIs]
      ring
    · push_cast [show 2 ≤ 4 * double.significand by omega]
      rw [factorIs]
      ring
  · unfold interval
    rw [middle]
    push_cast
    rw [factorIs]
    ring
  · unfold interval
    rw [upper]
    push_cast
    rw [factorIs]
    ring

/-- What lies in the interval of a double rounds to it. -/
theorem roundsTo_of_holds
    (notZero : 0 < double.significand)
    {value : ℚ}
    (holds : double.interval.Holds value) :
    double.RoundsTo value := by
  obtain ⟨positive, lower, _, upper⟩ := interval_bounds notZero
  have denominatorPositive : (0 : ℚ) < double.interval.denominator := by
    exact_mod_cast positive
  have placePositive : (0 : ℚ) < 2 ^ double.scale := by
    positivity
  have closed : double.interval.closed = (double.significand % 2 == 0) :=
    RoundingInterval.around_closed ..
  unfold RoundingInterval.Holds at holds
  rw [lower, upper, closed] at holds
  split at holds
  next even =>
      obtain ⟨above, below⟩ := holds
      refine ⟨?_, ?_, .inl (by simpa using even)⟩
      · rw [le_div_iff₀ placePositive]
        exact le_of_mul_le_mul_right above denominatorPositive
      · rw [div_le_iff₀ placePositive]
        exact le_of_mul_le_mul_right below denominatorPositive
  next =>
      obtain ⟨above, below⟩ := holds
      have strictlyAbove :
          double.significand - double.slackBelow < value / 2 ^ double.scale := by
        rw [lt_div_iff₀ placePositive]
        exact lt_of_mul_lt_mul_right above denominatorPositive.le
      have strictlyBelow :
          value / 2 ^ double.scale < double.significand + 1 / 2 := by
        rw [div_lt_iff₀ placePositive]
        exact lt_of_mul_lt_mul_right below denominatorPositive.le
      exact ⟨strictlyAbove.le, strictlyBelow.le, .inr ⟨strictlyAbove, strictlyBelow⟩⟩

end

end Binary64

/-! ## Decimal grids -/

/-- The two sides of a comparison on a grid, as one comparison of values. -/
theorem gridFactors_spec
    {denominator : Nat}
    (positive : 0 < denominator)
    (exponent : Int) :
    0 < (gridFactors denominator exponent).1 ∧
      0 < (gridFactors denominator exponent).2 ∧
      ((gridFactors denominator exponent).2 : ℚ) =
        10 ^ exponent * denominator * (gridFactors denominator exponent).1 := by
  unfold gridFactors
  cases exponent with
  | ofNat places =>
      refine ⟨Nat.one_pos, Nat.mul_pos positive (Nat.pow_pos (by decide)), ?_⟩
      rw [Int.ofNat_eq_natCast, zpow_natCast]
      simp [mul_comm]
  | negSucc places =>
      refine ⟨Nat.pow_pos (by decide), positive, ?_⟩
      rw [zpow_negSucc]
      simp only [Nat.pow_eq]
      push_cast
      field_simp

namespace RoundingInterval

/-- The test whether a step of a grid lies in an interval. -/
def insideGrid
    (interval : RoundingInterval)
    (exponent : Int)
    (candidate : Nat) : Bool :=
  let factor := (gridFactors interval.denominator exponent).1
  let unit := (gridFactors interval.denominator exponent).2
  if interval.closed then
    interval.lower * factor ≤ candidate * unit
      && candidate * unit ≤ interval.upper * factor
  else
    interval.lower * factor < candidate * unit
      && candidate * unit < interval.upper * factor

/-- A step of a grid lies in an interval when its value does. -/
theorem insideGrid_iff
    {interval : RoundingInterval}
    (positive : 0 < interval.denominator)
    (exponent : Int)
    (candidate : Nat) :
    interval.insideGrid exponent candidate = true ↔
      interval.Holds (candidate * 10 ^ exponent) := by
  obtain ⟨factorPositive, _, unitIs⟩ := gridFactors_spec positive exponent
  have factorPositiveRat :
      (0 : ℚ) < (gridFactors interval.denominator exponent).1 := by
    exact_mod_cast factorPositive
  have scaled :
      ((candidate * (gridFactors interval.denominator exponent).2 : Nat) : ℚ) =
        candidate * 10 ^ exponent * interval.denominator
          * (gridFactors interval.denominator exponent).1 := by
    push_cast
    rw [unitIs]
    ring
  unfold insideGrid Holds
  simp only
  split
  · rw [Bool.and_eq_true, decide_eq_true_eq, decide_eq_true_eq,
      ← @Nat.cast_le ℚ, ← @Nat.cast_le ℚ, scaled]
    push_cast
    rw [mul_le_mul_iff_left₀ factorPositiveRat, mul_le_mul_iff_left₀ factorPositiveRat]
  · rw [Bool.and_eq_true, decide_eq_true_eq, decide_eq_true_eq,
      ← @Nat.cast_lt ℚ, ← @Nat.cast_lt ℚ, scaled]
    push_cast
    rw [mul_lt_mul_iff_left₀ factorPositiveRat, mul_lt_mul_iff_left₀ factorPositiveRat]

/-- The last step of a grid that is not above the middle of an interval. -/
def gridBelow
    (interval : RoundingInterval)
    (exponent : Int) : Nat :=
  interval.middle * (gridFactors interval.denominator exponent).1
    / (gridFactors interval.denominator exponent).2

/-- The middle of an interval lies between two steps of a grid. -/
theorem gridBelow_bounds
    {interval : RoundingInterval}
    (positive : 0 < interval.denominator)
    (exponent : Int) :
    (interval.gridBelow exponent * 10 ^ exponent * interval.denominator : ℚ) ≤
        interval.middle ∧
      (interval.middle : ℚ) <
        (interval.gridBelow exponent + 1) * 10 ^ exponent * interval.denominator := by
  obtain ⟨factorPositive, unitPositive, unitIs⟩ := gridFactors_spec positive exponent
  have factorPositiveRat :
      (0 : ℚ) < (gridFactors interval.denominator exponent).1 := by
    exact_mod_cast factorPositive
  have notAbove :
      ((interval.gridBelow exponent * (gridFactors interval.denominator exponent).2 : Nat) : ℚ) ≤
        (interval.middle * (gridFactors interval.denominator exponent).1 : Nat) :=
    Nat.cast_le.mpr (Nat.div_mul_le_self _ _)
  have nextAbove :
      ((interval.middle * (gridFactors interval.denominator exponent).1 : Nat) : ℚ) <
        ((interval.gridBelow exponent + 1)
          * (gridFactors interval.denominator exponent).2 : Nat) := by
    refine Nat.cast_lt.mpr ?_
    rw [mul_comm (interval.gridBelow exponent + 1)]
    exact Nat.lt_mul_div_succ _ unitPositive
  push_cast at notAbove nextAbove
  rw [unitIs] at notAbove nextAbove
  constructor
  · refine le_of_mul_le_mul_right ?_ factorPositiveRat
    linarith
  · refine lt_of_mul_lt_mul_right ?_ factorPositiveRat.le
    linarith

/-- What is found on a grid lies in the interval. -/
theorem inside_of_onGrid?
    {interval : RoundingInterval}
    {exponent : Int}
    {digits : Nat}
    (found : interval.onGrid? exponent = some digits) :
    interval.insideGrid exponent digits = true := by
  have tests :
      ∀ candidate,
        (if interval.closed then
            decide (interval.lower * (gridFactors interval.denominator exponent).1 ≤
              candidate * (gridFactors interval.denominator exponent).2)
              && decide (candidate * (gridFactors interval.denominator exponent).2 ≤
                interval.upper * (gridFactors interval.denominator exponent).1)
          else
            decide (interval.lower * (gridFactors interval.denominator exponent).1 <
              candidate * (gridFactors interval.denominator exponent).2)
              && decide (candidate * (gridFactors interval.denominator exponent).2 <
                interval.upper * (gridFactors interval.denominator exponent).1)) =
          interval.insideGrid exponent candidate :=
    fun _ => rfl
  unfold onGrid? at found
  simp only [tests] at found
  split at found
  · cases found
  next belowInside _ =>
      cases found
      exact belowInside
  next _ aboveInside =>
      cases found
      exact aboveInside
  next belowInside aboveInside =>
      split_ifs at found
      · cases found
        exact belowInside
      · cases found
        exact aboveInside
      · cases found
        rcases Nat.mod_two_eq_zero_or_one
            (interval.middle * (gridFactors interval.denominator exponent).1
              / (gridFactors interval.denominator exponent).2) with even | odd
        · rw [even]
          exact belowInside
        · rw [odd]
          exact aboveInside

/-- Something is found on a grid as soon as a neighbour of the middle lies in the interval. -/
theorem onGrid?_isSome
    {interval : RoundingInterval}
    {exponent : Int}
    (neighbour :
      interval.insideGrid exponent (interval.gridBelow exponent) = true ∨
        interval.insideGrid exponent (interval.gridBelow exponent + 1) = true) :
    (interval.onGrid? exponent).isSome = true := by
  unfold insideGrid gridBelow at neighbour
  unfold onGrid?
  simp only at neighbour ⊢
  split
  next belowOutside aboveOutside =>
      rw [belowOutside, aboveOutside] at neighbour
      simp at neighbour
  · rfl
  · rfl
  · split_ifs <;> rfl

/-- What a search over finer and finer grids finds lies in the interval. -/
theorem holds_shortestFrom
    {interval : RoundingInterval}
    (positive : 0 < interval.denominator)
    (finer : Nat)
    (exponent : Int)
    (last : (interval.onGrid? (exponent - finer)).isSome = true) :
    interval.Holds (interval.shortestFrom exponent finer).value := by
  induction finer generalizing exponent with
  | zero =>
      obtain ⟨digits, found⟩ := Option.isSome_iff_exists.mp last
      rw [Nat.cast_zero, sub_zero] at found
      rw [shortestFrom, found, Option.getD_some, value_normalize]
      exact (insideGrid_iff positive _ _).mp (inside_of_onGrid? found)
  | succ finer inductionHypothesis =>
      rw [shortestFrom]
      split
      next digits found =>
          rw [value_normalize]
          exact (insideGrid_iff positive _ _).mp (inside_of_onGrid? found)
      · refine inductionHypothesis (exponent - 1) ?_
        have same : exponent - 1 - (finer : Int) = exponent - ((finer + 1 : Nat) : Int) := by
          push_cast
          ring
        rw [same]
        exact last

end RoundingInterval

/-- The leading power of ten of a quotient is not above it. -/
theorem leadingDecimalExponent_le
    {numerator denominator : Nat}
    (numeratorPositive : 0 < numerator)
    (denominatorPositive : 0 < denominator) :
    (10 : ℚ) ^ leadingDecimalExponent numerator denominator ≤ numerator / denominator := by
  have denominatorPositiveRat : (0 : ℚ) < denominator := by
    exact_mod_cast denominatorPositive
  rw [le_div_iff₀ denominatorPositiveRat]
  unfold leadingDecimalExponent
  split
  next whole =>
      have quotientPositive : 0 < numerator / denominator :=
        Nat.div_pos whole denominatorPositive
      have length := Binary64.pow_le_decimalLength quotientPositive
      have lengthRat :
          (10 : ℚ) ^ Binary64.decimalLength (numerator / denominator) ≤
            10 * (numerator / denominator : Nat) := by
        exact_mod_cast length
      have product : ((numerator / denominator : Nat) : ℚ) * denominator ≤ numerator := by
        exact_mod_cast Nat.div_mul_le_self numerator denominator
      rw [zpow_sub_one₀ (by norm_num), zpow_natCast]
      calc
        (10 : ℚ) ^ Binary64.decimalLength (numerator / denominator) * 10⁻¹ * denominator ≤
            10 * (numerator / denominator : Nat) * 10⁻¹ * denominator := by
          gcongr
        _ = (numerator / denominator : Nat) * denominator := by
          ring
        _ ≤ numerator := product
  next =>
      have length :=
        Binary64.lt_pow_decimalLength ((denominator + numerator - 1) / numerator - 1)
      have roundedUp :
          (denominator + numerator - 1) / numerator ≤
            10 ^ Binary64.decimalLength ((denominator + numerator - 1) / numerator - 1) := by
        omega
      have product :
          denominator ≤
            numerator
              * 10 ^ Binary64.decimalLength ((denominator + numerator - 1) / numerator - 1) := by
        have covered := Nat.lt_mul_div_succ (denominator + numerator - 1) numeratorPositive
        have scaled := Nat.mul_le_mul_left numerator roundedUp
        rw [Nat.mul_add, Nat.mul_one] at covered
        omega
      have productRat :
          (denominator : ℚ) ≤
            numerator
              * 10 ^ Binary64.decimalLength ((denominator + numerator - 1) / numerator - 1) := by
        exact_mod_cast product
      rw [zpow_neg, zpow_natCast, inv_mul_le_iff₀ (by positivity), mul_comm]
      exact productRat

/-! ## Doubles -/

namespace Binary64

/-- A double above narrower places is a power of two. -/
theorem significand_of_narrowsBelow
    {double : Binary64}
    (narrows : double.narrowsBelow = true) :
    double.significand = 2 ^ 52 := by
  unfold narrowsBelow at narrows
  rw [Bool.and_eq_true, beq_iff_eq, decide_eq_true_eq] at narrows
  obtain ⟨fraction, above⟩ := narrows
  have count : fractionCount = 2 ^ 52 := rfl
  unfold significand
  rw [if_neg (by omega), fraction, count, Nat.add_zero]

/-- The places of a double are wider than a step of seventeen digits, on both sides. -/
theorem step_lt_places
    {double : Binary64}
    {step : ℚ}
    (short : step * 10 ^ 16 ≤ double.significand * 2 ^ double.scale) :
    step < 2 * double.slackBelow * 2 ^ double.scale := by
  have placePositive : (0 : ℚ) < 2 ^ double.scale := by
    positivity
  unfold slackBelow
  split
  next narrows =>
      rw [significand_of_narrowsBelow narrows] at short
      push_cast at short
      linarith
  next =>
      have below : (double.significand : ℚ) < 2 ^ 53 := by
        exact_mod_cast double.significand_lt
      have bounded : double.significand * (2 : ℚ) ^ double.scale < 2 ^ 53 * 2 ^ double.scale :=
        mul_lt_mul_of_pos_right below placePositive
      linarith

section
variable {double : Binary64}

/-- On a grid of short steps a neighbour of a double rounds to it. -/
theorem neighbour_inside
    (notZero : 0 < double.significand)
    {exponent : Int}
    (short : (10 : ℚ) ^ exponent * 10 ^ 16 ≤ double.significand * 2 ^ double.scale) :
    double.interval.insideGrid exponent (double.interval.gridBelow exponent) = true ∨
      double.interval.insideGrid exponent (double.interval.gridBelow exponent + 1) = true := by
  obtain ⟨positive, lower, middle, upper⟩ := interval_bounds notZero
  have denominatorPositive : (0 : ℚ) < double.interval.denominator := by
    exact_mod_cast positive
  have placePositive : (0 : ℚ) < 2 ^ double.scale := by
    positivity
  obtain ⟨notAbove, nextAbove⟩ := RoundingInterval.gridBelow_bounds positive exponent
  have stepShort := step_lt_places short
  have stepPositive : (0 : ℚ) < 10 ^ exponent := by
    positivity
  have slackAtMost := mul_le_mul_of_nonneg_right double.slackBelow_le placePositive.le
  rw [middle] at notAbove nextAbove
  have notAbove := le_of_mul_le_mul_right notAbove denominatorPositive
  have nextAbove := lt_of_mul_lt_mul_right nextAbove denominatorPositive.le
  rw [RoundingInterval.insideGrid_iff positive, RoundingInterval.insideGrid_iff positive]
  -- The two distances add up to one step, so one of them is at most half of it.
  by_cases belowNearer :
      2 * (double.significand * (2 : ℚ) ^ double.scale
        - double.interval.gridBelow exponent * 10 ^ exponent) ≤ 10 ^ exponent
  · refine .inl (RoundingInterval.holds_of_strict ?_ ?_)
    · rw [lower]
      exact mul_lt_mul_of_pos_right (by linarith) denominatorPositive
    · rw [upper]
      exact mul_lt_mul_of_pos_right (by linarith) denominatorPositive
  · refine .inr (RoundingInterval.holds_of_strict ?_ ?_)
    · rw [lower]
      push_cast
      exact mul_lt_mul_of_pos_right (by linarith) denominatorPositive
    · rw [upper]
      push_cast
      exact mul_lt_mul_of_pos_right (by linarith) denominatorPositive

/-- The shortest decimal of a double rounds to the double. -/
theorem roundsTo_shortest
    (notZero : 0 < double.significand) :
    double.RoundsTo double.shortest.value := by
  obtain ⟨positive, _, middle, _⟩ := interval_bounds notZero
  have denominatorPositive : (0 : ℚ) < double.interval.denominator := by
    exact_mod_cast positive
  have middlePositive : 0 < double.interval.middle := by
    have significandPositive : (0 : ℚ) < double.significand := by
      exact_mod_cast notZero
    have middlePositiveRat : (0 : ℚ) < double.interval.middle := by
      rw [middle]
      positivity
    exact_mod_cast middlePositiveRat
  have leading := leadingDecimalExponent_le middlePositive positive
  rw [middle, mul_div_assoc, div_self denominatorPositive.ne', mul_one] at leading
  rw [shortest_eq]
  refine roundsTo_of_holds notZero
    (RoundingInterval.holds_shortestFrom positive 16 _
      (RoundingInterval.onGrid?_isSome (neighbour_inside notZero ?_)))
  calc
    (10 : ℚ) ^ (leadingDecimalExponent double.interval.middle double.interval.denominator
          - ((16 : Nat) : Int)) * 10 ^ 16 =
        10 ^ leadingDecimalExponent double.interval.middle double.interval.denominator := by
      rw [zpow_sub₀ (by norm_num), zpow_natCast]
      field_simp
    _ ≤ double.significand * 2 ^ double.scale := leading

end

end Binary64

end QueryAgent.Number

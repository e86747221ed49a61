import Mathlib.Algebra.Order.Field.Power
import Mathlib.Data.Rat.Cast.Order
import Mathlib.Tactic.FieldSimp
import Mathlib.Tactic.Linarith
import Mathlib.Tactic.NormNum
import Mathlib.Tactic.Positivity
import Mathlib.Tactic.Ring
import QueryAgent.Number.Binary64

namespace QueryAgent.Number.Binary64

/-!
# Which values round to a double

The magnitude of a finite double is its significand times a power of two.  A
value counts in places of that power: it rounds to the double when it is at
most half a place away, or a quarter below where the places are half as wide,
and at either end only when the significand is even.  Every quotient between
the two ends becomes that double.
-/

/-- The double is the least of its power of two, so that the places below are half as wide. -/
def narrowsBelow
    (double : Binary64) : Bool :=
  double.fractionField == 0 && 1 < double.exponentField

/-- How far below a double a value may be, in places. -/
def slackBelow
    (double : Binary64) : ℚ :=
  if double.narrowsBelow then 1 / 4 else 1 / 2

/-- A value that is nearest to the magnitude of a double, or halfway and the double is even. -/
structure RoundsTo
    (double : Binary64)
    (value : ℚ) : Prop where
  above : double.significand - double.slackBelow ≤ value / 2 ^ double.scale
  below : value / 2 ^ double.scale ≤ double.significand + 1 / 2
  ends :
    double.significand % 2 = 0 ∨
      double.significand - double.slackBelow < value / 2 ^ double.scale ∧
        value / 2 ^ double.scale < double.significand + 1 / 2

/-! ## Rounding a quotient to a whole number -/

/-- A whole number within half of a quotient is the quotient rounded down or the next one. -/
theorem eq_div_or_eq_succ_div
    {numerator denominator nearest : Nat}
    (positive : 0 < denominator)
    (above : 2 * nearest * denominator ≤ 2 * numerator + denominator)
    (below : 2 * numerator ≤ 2 * nearest * denominator + denominator) :
    nearest = numerator / denominator ∨ nearest = numerator / denominator + 1 := by
  have division := Nat.div_add_mod numerator denominator
  have remainderBelow := Nat.mod_lt numerator positive
  have product : 2 * nearest * denominator = 2 * (denominator * nearest) := by
    ring
  rw [product] at above below
  have notBelow : numerator / denominator ≤ nearest := by
    by_contra less
    have multiplied := Nat.mul_le_mul_left denominator (Nat.lt_of_not_le less)
    rw [Nat.mul_succ] at multiplied
    omega
  have notAbove : nearest ≤ numerator / denominator + 1 := by
    by_contra greater
    have multiplied := Nat.mul_le_mul_left denominator (Nat.lt_of_not_le greater)
    rw [Nat.mul_succ, Nat.mul_succ] at multiplied
    omega
  omega

/-- Rounding compares twice the remainder with the denominator. -/
theorem divideToEven_eq_of_halves
    {numerator denominator nearest : Nat}
    (positive : 0 < denominator)
    (above : 2 * nearest * denominator ≤ 2 * numerator + denominator)
    (below : 2 * numerator ≤ 2 * nearest * denominator + denominator)
    (ends :
      nearest % 2 = 0 ∨
        2 * nearest * denominator < 2 * numerator + denominator ∧
          2 * numerator < 2 * nearest * denominator + denominator) :
    divideToEven numerator denominator = nearest := by
  have eitherSide := eq_div_or_eq_succ_div positive above below
  have division := Nat.div_add_mod numerator denominator
  have remainderBelow := Nat.mod_lt numerator positive
  unfold divideToEven
  simp only
  generalize numerator / denominator = quotient at *
  generalize numerator % denominator = remainder at *
  rcases eitherSide with rfl | rfl
  · have product : 2 * nearest * denominator = 2 * (denominator * nearest) := by
      ring
    split_ifs <;> omega
  · have product :
        2 * (quotient + 1) * denominator = 2 * (denominator * quotient) + 2 * denominator := by
      ring
    split_ifs <;> omega

/-- The whole number within half of a quotient, an even one at exactly half. -/
theorem divideToEven_eq
    {numerator denominator nearest : Nat}
    (positive : 0 < denominator)
    (above : (nearest : ℚ) - 1 / 2 ≤ numerator / denominator)
    (below : (numerator : ℚ) / denominator ≤ nearest + 1 / 2)
    (ends :
      nearest % 2 = 0 ∨
        (nearest : ℚ) - 1 / 2 < numerator / denominator ∧
          (numerator : ℚ) / denominator < nearest + 1 / 2) :
    divideToEven numerator denominator = nearest := by
  have positiveRat : (0 : ℚ) < denominator := by
    exact_mod_cast positive
  refine divideToEven_eq_of_halves positive ?above ?below ?ends
  case above =>
    rw [le_div_iff₀ positiveRat] at above
    have scaled : (2 * nearest * denominator : ℚ) ≤ 2 * numerator + denominator := by
      linarith
    exact_mod_cast scaled
  case below =>
    rw [div_le_iff₀ positiveRat] at below
    have scaled : (2 * numerator : ℚ) ≤ 2 * nearest * denominator + denominator := by
      linarith
    exact_mod_cast scaled
  case ends =>
    refine ends.imp_right fun ⟨strictlyAbove, strictlyBelow⟩ => ⟨?_, ?_⟩
    · rw [lt_div_iff₀ positiveRat] at strictlyAbove
      have scaled : (2 * nearest * denominator : ℚ) < 2 * numerator + denominator := by
        linarith
      exact_mod_cast scaled
    · rw [div_lt_iff₀ positiveRat] at strictlyBelow
      have scaled : (2 * numerator : ℚ) < 2 * nearest * denominator + denominator := by
        linarith
      exact_mod_cast scaled

/-- Dividing by a power of two scales the quotient before it is rounded. -/
theorem divideScaled_eq_divideToEven
    (numerator : Nat)
    {denominator : Nat}
    (positive : 0 < denominator)
    (power : Int) :
    ∃ scaledNumerator scaledDenominator : Nat,
      0 < scaledDenominator ∧
        divideScaled numerator denominator power =
          divideToEven scaledNumerator scaledDenominator ∧
        (scaledNumerator : ℚ) / scaledDenominator = numerator / denominator / 2 ^ power := by
  cases power with
  | ofNat exponent =>
      refine
        ⟨numerator, denominator * Nat.pow 2 exponent,
          Nat.mul_pos positive (Nat.pow_pos (by decide)), rfl, ?_⟩
      push_cast [Int.ofNat_eq_natCast, zpow_natCast, Nat.pow_eq]
      rw [div_div]
  | negSucc exponent =>
      refine ⟨numerator * Nat.pow 2 (exponent + 1), denominator, positive, rfl, ?_⟩
      push_cast [zpow_negSucc, Nat.pow_eq]
      field_simp

/-- The whole number within half of a scaled quotient, an even one at exactly half. -/
theorem divideScaled_eq
    {numerator denominator nearest : Nat}
    {power : Int}
    (positive : 0 < denominator)
    (above : (nearest : ℚ) - 1 / 2 ≤ numerator / denominator / 2 ^ power)
    (below : (numerator : ℚ) / denominator / 2 ^ power ≤ nearest + 1 / 2)
    (ends :
      nearest % 2 = 0 ∨
        (nearest : ℚ) - 1 / 2 < numerator / denominator / 2 ^ power ∧
          (numerator : ℚ) / denominator / 2 ^ power < nearest + 1 / 2) :
    divideScaled numerator denominator power = nearest := by
  obtain ⟨scaledNumerator, scaledDenominator, scaledPositive, rounded, scaled⟩ :=
    divideScaled_eq_divideToEven numerator positive power
  rw [← scaled] at above below ends
  rw [rounded]
  exact divideToEven_eq scaledPositive above below ends

/-! ## The leading bit of a quotient -/

/-- Comparing a quotient with a power of two in whole numbers. -/
theorem reached_iff
    (numerator : Nat)
    {denominator : Nat}
    (positive : 0 < denominator)
    (power : Int) :
    (match power with
      | .ofNat exponent => decide (denominator * Nat.pow 2 exponent ≤ numerator)
      | .negSucc exponent => decide (denominator ≤ numerator * Nat.pow 2 (exponent + 1))) = true ↔
      (2 : ℚ) ^ power ≤ numerator / denominator := by
  have positiveRat : (0 : ℚ) < denominator := by
    exact_mod_cast positive
  rw [le_div_iff₀ positiveRat]
  cases power with
  | ofNat exponent =>
      rw [decide_eq_true_eq, Int.ofNat_eq_natCast, zpow_natCast, Nat.pow_eq, mul_comm]
      exact_mod_cast Iff.rfl
  | negSucc exponent =>
      rw [decide_eq_true_eq, zpow_negSucc, Nat.pow_eq, inv_mul_le_iff₀ (by positivity), mul_comm]
      exact_mod_cast Iff.rfl

/-- A number other than zero lies between the power of two below it and the next one. -/
theorem log2_bounds
    {number : Nat}
    (positive : 0 < number) :
    (2 : ℚ) ^ (Nat.log2 number : Int) ≤ number ∧
      (number : ℚ) < 2 ^ ((Nat.log2 number : Int) + 1) := by
  have notZero : number ≠ 0 := by omega
  constructor
  · rw [zpow_natCast]
    exact_mod_cast Nat.log2_self_le notZero
  · have next : ((Nat.log2 number : Int) + 1) = ((Nat.log2 number + 1 : Nat) : Int) := by
      push_cast
      rfl
    rw [next, zpow_natCast]
    exact_mod_cast Nat.lt_log2_self

/-- The leading exponent of a quotient is the greatest power of two not above it. -/
theorem leadingExponent_bounds
    {numerator denominator : Nat}
    (numeratorPositive : 0 < numerator)
    (denominatorPositive : 0 < denominator) :
    (2 : ℚ) ^ leadingExponent numerator denominator ≤ numerator / denominator ∧
      (numerator : ℚ) / denominator < 2 ^ (leadingExponent numerator denominator + 1) := by
  obtain ⟨numeratorAbove, numeratorBelow⟩ := log2_bounds numeratorPositive
  obtain ⟨denominatorAbove, denominatorBelow⟩ := log2_bounds denominatorPositive
  have positiveRat : (0 : ℚ) < denominator := by
    exact_mod_cast denominatorPositive
  have twoNeZero : (2 : ℚ) ≠ 0 := two_ne_zero
  have quotientBelow :
      (numerator : ℚ) / denominator <
        2 ^ ((Nat.log2 numerator : Int) - Nat.log2 denominator + 1) := by
    rw [div_lt_iff₀ positiveRat]
    calc
      (numerator : ℚ) < 2 ^ ((Nat.log2 numerator : Int) + 1) := numeratorBelow
      _ = 2 ^ ((Nat.log2 numerator : Int) - Nat.log2 denominator + 1)
            * 2 ^ (Nat.log2 denominator : Int) := by
          rw [← zpow_add₀ twoNeZero]
          congr 1
          ring
      _ ≤ 2 ^ ((Nat.log2 numerator : Int) - Nat.log2 denominator + 1) * denominator := by
          gcongr
  have quotientAbove :
      (2 : ℚ) ^ ((Nat.log2 numerator : Int) - Nat.log2 denominator - 1) ≤
        numerator / denominator := by
    rw [le_div_iff₀ positiveRat]
    calc
      (2 : ℚ) ^ ((Nat.log2 numerator : Int) - Nat.log2 denominator - 1) * denominator ≤
          2 ^ ((Nat.log2 numerator : Int) - Nat.log2 denominator - 1)
            * 2 ^ ((Nat.log2 denominator : Int) + 1) := by
          gcongr
      _ = 2 ^ (Nat.log2 numerator : Int) := by
          rw [← zpow_add₀ twoNeZero]
          congr 1
          ring
      _ ≤ numerator := numeratorAbove
  unfold leadingExponent
  simp only
  split_ifs with reached
  · exact ⟨(reached_iff numerator denominatorPositive _).mp reached, quotientBelow⟩
  · refine ⟨quotientAbove, ?_⟩
    rw [sub_add_cancel]
    exact lt_of_not_ge fun atLeast =>
      reached ((reached_iff numerator denominatorPositive _).mpr atLeast)

/-! ## Rounding a quotient to a double -/

/-- The code of a magnitude counts the places up to it. -/
theorem code_eq
    (double : Binary64) :
    (double.scale + 1074).toNat * fractionCount + double.significand =
      double.magnitudeCode := by
  have fields :
      double.exponentField * fractionCount + double.fractionField =
        double.magnitudeCode := by
    rw [mul_comm]
    exact Nat.div_add_mod double.magnitudeCode fractionCount
  unfold scale significand
  by_cases subnormal : double.exponentField = 0
  · have places : ((max double.exponentField 1 : Nat) - 1075 + 1074 : Int).toNat =
        double.exponentField := by
      omega
    rw [if_pos subnormal, places]
    exact fields
  · have places : ((max double.exponentField 1 : Nat) - 1075 + 1074 : Int).toNat + 1 =
        double.exponentField := by
      omega
    calc
      ((max double.exponentField 1 : Nat) - 1075 + 1074 : Int).toNat * fractionCount
            + (if double.exponentField = 0 then double.fractionField
              else fractionCount + double.fractionField) =
          (((max double.exponentField 1 : Nat) - 1075 + 1074 : Int).toNat + 1) * fractionCount
            + double.fractionField := by
          rw [if_neg subnormal]
          ring
      _ = double.magnitudeCode := by
          rw [places]
          exact fields

/-- The significand of a double has at most fifty-three bits. -/
theorem significand_lt
    (double : Binary64) :
    double.significand < 2 ^ 53 := by
  have fraction : double.fractionField < 2 ^ 52 :=
    Nat.mod_lt _ (by decide)
  have count : fractionCount = 2 ^ 52 := rfl
  unfold significand
  split <;> omega

/-- The least power of two that counts places. -/
theorem scale_ge
    (double : Binary64) :
    -1074 ≤ double.scale := by
  unfold scale
  omega

/-- Where the places are not the smallest ones, the significand has its leading bit. -/
theorem significand_ge
    {double : Binary64}
    (normal : -1074 < double.scale) :
    2 ^ 52 ≤ double.significand := by
  have notZero : double.exponentField ≠ 0 := by
    unfold scale at normal
    omega
  have count : fractionCount = 2 ^ 52 := rfl
  unfold significand
  rw [if_neg notZero]
  omega

/-- A double is the least of its power of two when its significand is the leading bit alone. -/
theorem narrowsBelow_of_significand
    {double : Binary64}
    (normal : -1074 < double.scale)
    (least : double.significand = 2 ^ 52) :
    double.narrowsBelow = true := by
  have above : 1 < double.exponentField := by
    unfold scale at normal
    omega
  have notZero : double.exponentField ≠ 0 := by
    omega
  have count : fractionCount = 2 ^ 52 := rfl
  unfold significand at least
  rw [if_neg notZero] at least
  have fraction : double.fractionField = 0 := by
    omega
  simp [narrowsBelow, fraction, above]

/-- A finite magnitude comes before the code of an infinity. -/
theorem magnitudeCode_lt
    {double : Binary64}
    (finite : double.isFinite = true) :
    double.magnitudeCode < specialExponent * fractionCount := by
  unfold isFinite exponentField at finite
  rw [decide_eq_true_eq] at finite
  exact (Nat.div_lt_iff_lt_mul (by decide)).mp finite

/-- The slack below a double is at most half a place. -/
theorem slackBelow_le
    (double : Binary64) :
    double.slackBelow ≤ 1 / 2 := by
  unfold slackBelow
  split <;> norm_num

/-- A power of two bounds a value as it bounds the value counted in places of another one. -/
theorem div_zpow_lt_zpow_iff
    (value : ℚ)
    (places power : Int) :
    value / 2 ^ places < 2 ^ power ↔ value < 2 ^ (places + power) := by
  have positive : (0 : ℚ) < 2 ^ places := by
    positivity
  rw [div_lt_iff₀ positive, zpow_add₀ two_ne_zero, mul_comm]

theorem zpow_le_div_zpow_iff
    (value : ℚ)
    (places power : Int) :
    2 ^ power ≤ value / 2 ^ places ↔ 2 ^ (places + power) ≤ value := by
  rw [← not_lt, ← not_lt, div_zpow_lt_zpow_iff]

namespace RoundsTo

section
variable {double : Binary64} {value : ℚ} (rounds : double.RoundsTo value)
include rounds

/-- A value that rounds to a double other than zero is half a place at least. -/
theorem half_place_le
    (notZero : 0 < double.significand) :
    2 ^ (double.scale + -1) ≤ value := by
  have atLeastOne : (1 : ℚ) ≤ double.significand := by
    exact_mod_cast notZero
  have slack := double.slackBelow_le
  rw [← zpow_le_div_zpow_iff, zpow_neg_one]
  linarith [rounds.above]

/-- Nothing but a positive value rounds to a double other than zero. -/
theorem pos
    (notZero : 0 < double.significand) :
    0 < value :=
  lt_of_lt_of_le (by positivity) (rounds.half_place_le notZero)

/-- No value that rounds to a double reaches the next power of two. -/
theorem lt_zpow :
    value < 2 ^ (double.scale + 53) := by
  have significandBelow : (double.significand : ℚ) + 1 ≤ 2 ^ (53 : Int) := by
    exact_mod_cast double.significand_lt
  rw [← div_zpow_lt_zpow_iff]
  linarith [rounds.below]

/-- A value that rounds to a double with its leading bit is at least half its power of two. -/
theorem zpow_le
    (normal : -1074 < double.scale) :
    2 ^ (double.scale + 51) ≤ value := by
  have significandAbove : (2 : ℚ) ^ (51 : Int) + 1 ≤ double.significand := by
    have atLeast : 2 ^ 51 + 1 ≤ double.significand :=
      le_trans (by norm_num) (significand_ge normal)
    exact_mod_cast atLeast
  have slack := double.slackBelow_le
  rw [← zpow_le_div_zpow_iff]
  linarith [rounds.above]

end

end RoundsTo

/-- A quotient that is rounded in the right places becomes the code that counts them. -/
theorem ofRatio_eq_ofCode
    {negative : Bool}
    {numerator denominator code : Nat}
    (notZero : numerator ≠ 0)
    (finite : code < specialExponent * fractionCount)
    (counted :
      let power := max (leadingExponent numerator denominator - 52) (-1074)
      (power + 1074).toNat * fractionCount
        + divideScaled numerator denominator power = code) :
    ofRatio negative numerator denominator = ofCode negative code := by
  simp only at counted
  unfold ofRatio
  rw [if_neg notZero]
  simp only [counted]
  rw [if_neg (Nat.not_le.mpr finite)]

section
variable {double : Binary64} {numerator denominator : Nat}

/-- A value in the places of a double is rounded to its significand. -/
theorem counted_of_same_places
    (positive : 0 < denominator)
    (rounds : double.RoundsTo (numerator / denominator))
    (power : max (leadingExponent numerator denominator - 52) (-1074) = double.scale) :
    let power := max (leadingExponent numerator denominator - 52) (-1074)
    (power + 1074).toNat * fractionCount
      + divideScaled numerator denominator power = double.magnitudeCode := by
  have slack := double.slackBelow_le
  have rounded : divideScaled numerator denominator double.scale = double.significand := by
    refine divideScaled_eq positive (by linarith [rounds.above]) rounds.below ?_
    rcases rounds.ends with even | ⟨strictlyAbove, strictlyBelow⟩
    · exact .inl even
    · exact .inr ⟨by linarith, strictlyBelow⟩
  simp only [power, rounded]
  exact double.code_eq

/-- A value below the least double of a power of two is rounded up to it from narrower places. -/
theorem counted_of_narrower_places
    (positive : 0 < denominator)
    (rounds : double.RoundsTo (numerator / denominator))
    (normal : -1074 < double.scale)
    (beneath : (numerator : ℚ) / denominator < 2 ^ (double.scale + 52))
    (power : max (leadingExponent numerator denominator - 52) (-1074) = double.scale - 1) :
    let power := max (leadingExponent numerator denominator - 52) (-1074)
    (power + 1074).toNat * fractionCount
      + divideScaled numerator denominator power = double.magnitudeCode := by
  have beneathPlaces : (numerator : ℚ) / denominator / 2 ^ double.scale < 2 ^ 52 := by
    exact_mod_cast (div_zpow_lt_zpow_iff _ double.scale 52).mpr beneath
  have least : double.significand = 2 ^ 52 := by
    have atLeast := significand_ge normal
    have above := rounds.above
    have slack := double.slackBelow_le
    have atMost : (double.significand : ℚ) < 2 ^ 52 + 1 := by
      linarith
    have atMostNat : double.significand < 2 ^ 52 + 1 := by
      exact_mod_cast atMost
    omega
  have slack : double.slackBelow = 1 / 4 := by
    rw [slackBelow, if_pos (narrowsBelow_of_significand normal least)]
  have halved :
      (numerator : ℚ) / denominator / 2 ^ (double.scale - 1) =
        2 * (numerator / denominator / 2 ^ double.scale) := by
    rw [zpow_sub_one₀ two_ne_zero]
    field_simp
  have rounded : divideScaled numerator denominator (double.scale - 1) = 2 ^ 53 := by
    have above := rounds.above
    rw [slack, least] at above
    push_cast at above
    refine divideScaled_eq positive ?_ ?_ (.inl (by norm_num)) <;>
      · rw [halved]
        push_cast
        linarith
  have count : fractionCount = 2 ^ 52 := rfl
  have code := double.code_eq
  simp only [power, rounded]
  rw [least, count] at code
  rw [← code, count]
  have places : (double.scale + 1074).toNat = (double.scale - 1 + 1074).toNat + 1 := by
    omega
  rw [places]
  ring

/-- Every quotient that rounds to a finite double other than zero becomes it. -/
theorem ofRatio_of_roundsTo
    (negative : Bool)
    (positive : 0 < denominator)
    (finite : double.isFinite = true)
    (notZero : 0 < double.significand)
    (rounds : double.RoundsTo (numerator / denominator)) :
    ofRatio negative numerator denominator = ofCode negative double.magnitudeCode := by
  have numeratorPositive : 0 < numerator := by
    have valuePositive := rounds.pos notZero
    rcases Nat.eq_zero_or_pos numerator with rfl | greater
    · simp at valuePositive
    · exact greater
  obtain ⟨leadingAbove, leadingBelow⟩ := leadingExponent_bounds numeratorPositive positive
  have lowest := double.scale_ge
  have notHigher : leadingExponent numerator denominator < double.scale + 53 :=
    (zpow_lt_zpow_iff_right₀ one_lt_two).mp (lt_of_le_of_lt leadingAbove rounds.lt_zpow)
  refine ofRatio_eq_ofCode numeratorPositive.ne' (magnitudeCode_lt finite) ?_
  by_cases samePlaces :
      double.scale = -1074 ∨ (2 : ℚ) ^ (double.scale + 52) ≤ numerator / denominator
  · refine counted_of_same_places positive rounds ?_
    rcases samePlaces with least | reached
    · omega
    · have atLeast : double.scale + 52 < leadingExponent numerator denominator + 1 :=
        (zpow_lt_zpow_iff_right₀ one_lt_two).mp (lt_of_le_of_lt reached leadingBelow)
      omega
  · have normal : -1074 < double.scale := by
      omega
    have beneath : (numerator : ℚ) / denominator < 2 ^ (double.scale + 52) :=
      lt_of_not_ge fun reached => samePlaces (.inr reached)
    refine counted_of_narrower_places positive rounds normal beneath ?_
    have beneathPower : leadingExponent numerator denominator < double.scale + 52 :=
      (zpow_lt_zpow_iff_right₀ one_lt_two).mp (lt_of_le_of_lt leadingAbove beneath)
    have abovePower : double.scale + 51 < leadingExponent numerator denominator + 1 :=
      (zpow_lt_zpow_iff_right₀ one_lt_two).mp
        (lt_of_le_of_lt (rounds.zpow_le normal) leadingBelow)
    omega

end

/-- A double is given back by its sign and its magnitude. -/
theorem ofCode_magnitudeCode
    (double : Binary64) :
    ofCode double.isNegative double.magnitudeCode = double := by
  have bitsBelow : double.bits.toNat < 2 ^ 64 := double.bits.toNat_lt
  have whole :
      double.magnitudeCode + (if double.isNegative then Nat.pow 2 63 else 0) =
        double.bits.toNat := by
    have sign : Nat.pow 2 63 = 2 ^ 63 := rfl
    unfold magnitudeCode isNegative
    rw [sign]
    split
    next negative =>
        rw [decide_eq_true_eq] at negative
        omega
    next positive =>
        rw [decide_eq_true_eq] at positive
        omega
  unfold ofCode
  rw [whole, UInt64.ofNat_toNat]

end QueryAgent.Number.Binary64

import QueryAgent.Proofs.Number.Rounding

namespace QueryAgent.Number.Binary64

/-!
# The double nearest to a quotient

Rounding a quotient leaves the least distance that any double can have to it.
In places of the power of two to which the quotient is rounded, a double with
the same or greater places is a whole number, and a double with smaller places
lies beneath the quotient by more than the least number that needs no smaller
ones.
-/

/-- The magnitude of a finite double. -/
def magnitude
    (double : Binary64) : ℚ :=
  double.significand * 2 ^ double.scale

/-- A number with a sign. -/
def signed
    (negative : Bool)
    (number : ℚ) : ℚ :=
  if negative then -number else number

/-- The number that a finite double is. -/
def value
    (double : Binary64) : ℚ :=
  signed double.isNegative double.magnitude

theorem magnitude_nonneg
    (double : Binary64) :
    0 ≤ double.magnitude := by
  unfold magnitude
  positivity

/-! ## The nearest whole number -/

/-- Rounding to a whole number is off by half a denominator at most. -/
theorem divideToEven_halves
    (numerator : Nat)
    {denominator : Nat}
    (positive : 0 < denominator) :
    2 * divideToEven numerator denominator * denominator ≤ 2 * numerator + denominator ∧
      2 * numerator ≤ 2 * divideToEven numerator denominator * denominator + denominator := by
  have division := Nat.div_add_mod numerator denominator
  have remainderBelow := Nat.mod_lt numerator positive
  unfold divideToEven
  simp only
  generalize numerator / denominator = quotient at *
  generalize numerator % denominator = remainder at *
  have down : 2 * quotient * denominator = 2 * (denominator * quotient) := by
    ring
  have up : 2 * (quotient + 1) * denominator = 2 * (denominator * quotient) + 2 * denominator := by
    ring
  split_ifs with less greater
  · omega
  · omega
  · rcases Nat.mod_two_eq_zero_or_one quotient with even | odd
    · rw [even, Nat.add_zero]
      omega
    · rw [odd]
      omega

/-- Rounding to a whole number moves a quotient by half at most. -/
theorem divideToEven_error
    (numerator : Nat)
    {denominator : Nat}
    (positive : 0 < denominator) :
    |(numerator : ℚ) / denominator - divideToEven numerator denominator| ≤ 1 / 2 := by
  obtain ⟨above, below⟩ := divideToEven_halves numerator positive
  have positiveRat : (0 : ℚ) < denominator := by
    exact_mod_cast positive
  have aboveRat :
      (2 * divideToEven numerator denominator * denominator : ℚ) ≤
        2 * numerator + denominator := by
    exact_mod_cast above
  have belowRat :
      (2 * numerator : ℚ) ≤
        2 * divideToEven numerator denominator * denominator + denominator := by
    exact_mod_cast below
  rw [abs_sub_le_iff, sub_le_iff_le_add, sub_le_comm, div_le_iff₀ positiveRat,
    le_div_iff₀ positiveRat]
  constructor <;>
    linarith

/-- Rounding to a whole number of places moves a quotient by half a place at most. -/
theorem divideScaled_error
    (numerator : Nat)
    {denominator : Nat}
    (positive : 0 < denominator)
    (power : Int) :
    |(numerator : ℚ) / denominator / 2 ^ power - divideScaled numerator denominator power| ≤
      1 / 2 := by
  obtain ⟨scaledNumerator, scaledDenominator, scaledPositive, rounded, scaled⟩ :=
    divideScaled_eq_divideToEven numerator positive power
  rw [← scaled, rounded]
  exact divideToEven_error scaledNumerator scaledPositive

/-- A whole number within half of a value is as near to it as any whole number. -/
theorem nearest_of_error
    {place : ℚ}
    {nearest : Nat}
    (error : |place - nearest| ≤ 1 / 2)
    (other : Nat) :
    |place - nearest| ≤ |place - other| := by
  by_cases same : other = nearest
  · rw [same]
  · have apart : (1 : ℚ) ≤ |(nearest : ℚ) - other| := by
      have different : (nearest : Int) - other ≠ 0 := by
        omega
      exact_mod_cast Int.one_le_abs different
    have triangle : |(nearest : ℚ) - other| ≤ |place - nearest| + |place - other| := by
      have := abs_sub_le (nearest : ℚ) place other
      rwa [abs_sub_comm (nearest : ℚ) place] at this
    linarith

/-! ## Doubles by their codes -/

theorem magnitudeCode_ofCode
    (negative : Bool)
    {code : Nat}
    (fits : code < 2 ^ 63) :
    (ofCode negative code).magnitudeCode = code := by
  have sign : Nat.pow 2 63 = 2 ^ 63 := rfl
  unfold magnitudeCode ofCode
  rw [sign, UInt64.toNat_ofNat']
  cases negative <;> simp <;> omega

theorem isNegative_ofCode
    (negative : Bool)
    {code : Nat}
    (fits : code < 2 ^ 63) :
    (ofCode negative code).isNegative = negative := by
  have sign : Nat.pow 2 63 = 2 ^ 63 := rfl
  unfold isNegative ofCode
  rw [sign, UInt64.toNat_ofNat']
  cases negative <;> simp <;> omega

/-- The two fields of a code give the magnitude. -/
theorem magnitude_of_fields
    {double : Binary64}
    {exponent fraction : Nat}
    (code : double.magnitudeCode = exponent * fractionCount + fraction)
    (small : fraction < fractionCount) :
    double.magnitude =
      (if exponent = 0 then fraction else fractionCount + fraction : Nat)
        * 2 ^ ((max exponent 1 : Nat) - 1075 : Int) := by
  have positive : 0 < fractionCount := by
    decide
  have exponentIs : double.exponentField = exponent := by
    rw [exponentField, code, Nat.mul_comm, Nat.mul_add_div positive, Nat.div_eq_of_lt small,
      Nat.add_zero]
  have fractionIs : double.fractionField = fraction := by
    rw [fractionField, code, Nat.mul_comm, Nat.mul_add_mod, Nat.mod_eq_of_lt small]
  unfold magnitude significand scale
  rw [exponentIs, fractionIs]

/-- A code that counts places from a power of two on is that many places. -/
theorem magnitude_of_code
    {double : Binary64}
    {steps places : Nat}
    (code : double.magnitudeCode = steps * fractionCount + places)
    (most : places ≤ 2 ^ 53)
    (least : steps = 0 ∨ 2 ^ 52 ≤ places) :
    double.magnitude = places * 2 ^ (steps - 1074 : Int) := by
  have count : fractionCount = 2 ^ 52 := rfl
  -- The places are a fraction alone, a fraction under its leading bit, or one carry more.
  rcases Nat.lt_or_ge places (2 ^ 52) with small | leading
  · obtain rfl : steps = 0 := by
      omega
    rw [magnitude_of_fields code small]
    simp
  · rcases Nat.lt_or_ge places (2 ^ 53) with below | carried
    · have shifted :
          double.magnitudeCode = (steps + 1) * fractionCount + (places - 2 ^ 52) := by
        rw [code, count]
        omega
      have whole : fractionCount + (places - 2 ^ 52) = places := by
        omega
      have power : ((max (steps + 1) 1 : Nat) - 1075 : Int) = steps - 1074 := by
        omega
      rw [magnitude_of_fields shifted (by omega), if_neg (Nat.succ_ne_zero steps), whole, power]
    · obtain rfl : places = 2 ^ 53 := by
        omega
      have shifted : double.magnitudeCode = (steps + 2) * fractionCount + 0 := by
        rw [code, count]
        omega
      have power : ((max (steps + 2) 1 : Nat) - 1075 : Int) = steps - 1074 + 1 := by
        omega
      rw [magnitude_of_fields shifted (by omega), if_neg (Nat.succ_ne_zero _), power,
        zpow_add_one₀ two_ne_zero, count]
      push_cast
      ring

/-! ## Magnitudes in other places -/

/-- A double with smaller places is at most the least number that needs no smaller ones. -/
theorem magnitude_le_of_scale_lt
    {double : Binary64}
    {power : Int}
    (smaller : double.scale < power) :
    double.magnitude / 2 ^ power ≤ 2 ^ 52 := by
  have placePositive : (0 : ℚ) < 2 ^ power := by
    positivity
  have significandBelow : (double.significand : ℚ) ≤ 2 ^ 53 := by
    exact_mod_cast double.significand_lt.le
  have scaleBelow : (2 : ℚ) ^ double.scale ≤ 2 ^ (power - 1) :=
    zpow_le_zpow_right₀ one_le_two (by omega)
  rw [zpow_sub_one₀ two_ne_zero] at scaleBelow
  rw [div_le_iff₀ placePositive, magnitude]
  calc
    (double.significand : ℚ) * 2 ^ double.scale ≤ 2 ^ 53 * (2 ^ power * 2⁻¹) :=
      mul_le_mul significandBelow scaleBelow (by positivity) (by positivity)
    _ = 2 ^ 52 * 2 ^ power := by
      ring

/-- A double with the same or greater places is a whole number of them. -/
theorem magnitude_of_scale_ge
    {double : Binary64}
    {power : Int}
    (greater : power ≤ double.scale) :
    ∃ places : Nat, double.magnitude / 2 ^ power = places := by
  obtain ⟨further, scaleIs⟩ := Int.exists_add_of_le greater
  refine ⟨double.significand * 2 ^ further, ?_⟩
  rw [magnitude, scaleIs, zpow_add₀ two_ne_zero, zpow_natCast]
  push_cast
  field_simp

/-! ## Rounding a quotient to a double -/

section
variable {numerator denominator : Nat}
  (numeratorPositive : 0 < numerator) (positive : 0 < denominator)
include numeratorPositive positive

/-- The bounds of a quotient, in the places it is rounded to. -/
theorem places_bounds
    {power : Int}
    (powerIs : power = max (leadingExponent numerator denominator - 52) (-1074)) :
    (numerator : ℚ) / denominator / 2 ^ power < 2 ^ 53 ∧
      (power = -1074 ∨ (2 : ℚ) ^ 52 ≤ numerator / denominator / 2 ^ power) := by
  obtain ⟨above, below⟩ := leadingExponent_bounds numeratorPositive positive
  constructor
  · have reached : (2 : ℚ) ^ (leadingExponent numerator denominator + 1) ≤ 2 ^ (power + 53) :=
      zpow_le_zpow_right₀ one_le_two (by omega)
    exact_mod_cast
      (div_zpow_lt_zpow_iff (numerator / denominator) power 53).mpr (lt_of_lt_of_le below reached)
  · by_cases lowest : power = -1074
    · exact .inl lowest
    · have leading : leadingExponent numerator denominator = power + 52 := by
        omega
      rw [leading] at above
      exact .inr
        (by exact_mod_cast (zpow_le_div_zpow_iff (numerator / denominator) power 52).mpr above)

/-- No magnitude of a double is nearer to a quotient than the places it is rounded to. -/
theorem divideScaled_nearest
    {power : Int}
    (powerIs : power = max (leadingExponent numerator denominator - 52) (-1074))
    (other : Binary64) :
    |(numerator : ℚ) / denominator - divideScaled numerator denominator power * 2 ^ power| ≤
      |(numerator : ℚ) / denominator - other.magnitude| := by
  have placePositive : (0 : ℚ) < 2 ^ power := by
    positivity
  have error := divideScaled_error numerator positive power
  have inPlaces :
      |(numerator : ℚ) / denominator / 2 ^ power - divideScaled numerator denominator power| ≤
        |(numerator : ℚ) / denominator / 2 ^ power - other.magnitude / 2 ^ power| := by
    rcases Int.lt_or_le other.scale power with smaller | greater
    · have leading :
          (2 : ℚ) ^ 52 ≤ numerator / denominator / 2 ^ power :=
        (places_bounds numeratorPositive positive powerIs).2.resolve_left
          (by have := other.scale_ge; omega)
      have beneath := magnitude_le_of_scale_lt smaller
      calc
        _ ≤ |(numerator : ℚ) / denominator / 2 ^ power - (2 ^ 52 : Nat)| :=
          nearest_of_error error (2 ^ 52)
        _ = (numerator : ℚ) / denominator / 2 ^ power - 2 ^ 52 := by
          push_cast
          exact abs_of_nonneg (by linarith)
        _ ≤ (numerator : ℚ) / denominator / 2 ^ power - other.magnitude / 2 ^ power := by
          linarith
        _ ≤ _ :=
          le_abs_self _
    · obtain ⟨places, whole⟩ := magnitude_of_scale_ge greater
      rw [whole]
      exact nearest_of_error error places
  have scaled := mul_le_mul_of_nonneg_right inPlaces placePositive.le
  rw [← abs_of_pos placePositive, ← abs_mul, ← abs_mul, abs_of_pos placePositive, sub_mul,
    sub_mul, div_mul_cancel₀ _ placePositive.ne', div_mul_cancel₀ _ placePositive.ne'] at scaled
  exact scaled

/-- A quotient is rounded to a number of places that a double can have. -/
theorem divideScaled_bounds
    {power : Int}
    (powerIs : power = max (leadingExponent numerator denominator - 52) (-1074)) :
    divideScaled numerator denominator power ≤ 2 ^ 53 ∧
      (power = -1074 ∨ 2 ^ 52 ≤ divideScaled numerator denominator power) := by
  obtain ⟨errorAbove, errorBelow⟩ :=
    abs_le.mp (divideScaled_error numerator positive power)
  obtain ⟨below, above⟩ := places_bounds numeratorPositive positive powerIs
  constructor
  · have less : (divideScaled numerator denominator power : ℚ) < 2 ^ 53 + 1 := by
      linarith
    have : divideScaled numerator denominator power < 2 ^ 53 + 1 := by
      exact_mod_cast less
    omega
  · refine above.imp_right fun leading => ?_
    have greater : (2 : ℚ) ^ 52 < divideScaled numerator denominator power + 1 := by
      linarith
    have : 2 ^ 52 < divideScaled numerator denominator power + 1 := by
      exact_mod_cast greater
    omega

end

theorem isFinite_infinity
    (negative : Bool) :
    (infinity negative).isFinite = false := by
  cases negative <;> decide

/-- A quotient becomes a code up to that of an infinity, under its sign. -/
theorem exists_ofRatio_eq_ofCode
    (negative : Bool)
    (numerator denominator : Nat) :
    ∃ code ≤ specialExponent * fractionCount,
      ofRatio negative numerator denominator = ofCode negative code := by
  unfold ofRatio
  dsimp only
  split
  next =>
      exact ⟨0, Nat.zero_le _, rfl⟩
  next =>
      split
      next =>
          exact ⟨_, le_rfl, rfl⟩
      next belowInfinity =>
          exact ⟨_, Nat.le_of_not_le belowInfinity, rfl⟩

theorem isNegative_ofRatio
    (negative : Bool)
    (numerator denominator : Nat) :
    (ofRatio negative numerator denominator).isNegative = negative := by
  have limit : specialExponent * fractionCount = 2047 * 2 ^ 52 := rfl
  obtain ⟨code, within, same⟩ := exists_ofRatio_eq_ofCode negative numerator denominator
  rw [same, isNegative_ofCode negative (by omega)]

/-- A quotient that becomes a finite double becomes the places it is rounded to. -/
theorem magnitude_ofRatio
    {negative : Bool}
    {numerator denominator : Nat}
    (numeratorPositive : 0 < numerator)
    (positive : 0 < denominator)
    (finite : (ofRatio negative numerator denominator).isFinite = true)
    {power : Int}
    (powerIs : power = max (leadingExponent numerator denominator - 52) (-1074)) :
    (ofRatio negative numerator denominator).magnitude =
      divideScaled numerator denominator power * 2 ^ power := by
  obtain ⟨most, least⟩ := divideScaled_bounds numeratorPositive positive powerIs
  unfold ofRatio at finite ⊢
  simp only [if_neg numeratorPositive.ne', ← powerIs] at finite ⊢
  split at finite
  · rw [isFinite_infinity] at finite
    cases finite
  next belowInfinity =>
      rw [if_neg belowInfinity]
      have fits :
          (power + 1074).toNat * fractionCount + divideScaled numerator denominator power <
            2 ^ 63 := by
        have : specialExponent * fractionCount < 2 ^ 63 := by
          decide
        omega
      have steps : (((power + 1074).toNat : Nat) - 1074 : Int) = power := by
        omega
      have lowest : (power + 1074).toNat = 0 ∨
          2 ^ 52 ≤ divideScaled numerator denominator power :=
        least.imp_left fun lowest => by omega
      rw [magnitude_of_code (magnitudeCode_ofCode negative fits) most lowest, steps]

theorem abs_signed_sub_signed
    (negative : Bool)
    (first second : ℚ) :
    |signed negative first - signed negative second| = |first - second| := by
  cases negative with
  | false =>
      rfl
  | true =>
      simp only [signed, if_true]
      rw [neg_sub_neg, abs_sub_comm]

/-- A double is at least as far from a signed number as its magnitude is without the sign. -/
theorem abs_magnitude_sub_le
    (double : Binary64)
    (negative : Bool)
    {number : ℚ}
    (nonnegative : 0 ≤ number) :
    |double.magnitude - number| ≤ |double.value - signed negative number| := by
  have magnitude := double.magnitude_nonneg
  unfold value signed
  cases double.isNegative <;> cases negative <;>
    simp only [if_true, Bool.false_eq_true, if_false] <;>
      refine abs_le.mpr ⟨?_, ?_⟩
  all_goals
    linarith [le_abs_self (double.magnitude - number),
      neg_abs_le (double.magnitude - number),
      le_abs_self (double.magnitude - -number),
      neg_abs_le (double.magnitude - -number),
      le_abs_self (-double.magnitude - number),
      neg_abs_le (-double.magnitude - number),
      le_abs_self (-double.magnitude - -number),
      neg_abs_le (-double.magnitude - -number)]

theorem magnitude_of_isZero
    {double : Binary64}
    (zero : double.isZero = true) :
    double.magnitude = 0 := by
  have code : double.magnitudeCode = 0 * fractionCount + 0 :=
    beq_iff_eq.mp zero
  rw [magnitude_of_code code (by decide) (.inl rfl), Nat.cast_zero, zero_mul]

theorem magnitude_ofCode_zero
    (negative : Bool) :
    (ofCode negative 0).magnitude = 0 :=
  magnitude_of_isZero (by cases negative <;> decide)

/-- A finite double than which none is nearer to a number. -/
structure IsNearest
    (double : Binary64)
    (number : ℚ) : Prop where
  finite : double.isFinite = true
  least : ∀ other : Binary64, |double.value - number| ≤ |other.value - number|

/-- No double is nearer to a quotient than the finite one it is rounded to. -/
theorem isNearest_ofRatio
    {negative : Bool}
    {numerator denominator : Nat}
    (positive : 0 < denominator)
    (finite : (ofRatio negative numerator denominator).isFinite = true) :
    (ofRatio negative numerator denominator).IsNearest
      (signed negative (numerator / denominator)) := by
  refine ⟨finite, fun other => ?_⟩
  have nonnegative : (0 : ℚ) ≤ numerator / denominator := by
    positivity
  have rounded :
      |(ofRatio negative numerator denominator).magnitude - numerator / denominator| ≤
        |other.magnitude - numerator / denominator| := by
    rcases Nat.eq_zero_or_pos numerator with rfl | numeratorPositive
    · have zero : ofRatio negative 0 denominator = ofCode negative 0 := by
        rw [ofRatio, if_pos rfl]
      rw [zero, magnitude_ofCode_zero]
      simp
    · rw [magnitude_ofRatio numeratorPositive positive finite rfl, abs_sub_comm,
        abs_sub_comm other.magnitude]
      exact divideScaled_nearest numeratorPositive positive rfl other
  rw [value, isNegative_ofRatio, abs_signed_sub_signed]
  exact rounded.trans (abs_magnitude_sub_le other negative nonnegative)

/-- A quotient below the last power of two but one becomes a finite double. -/
theorem isFinite_ofRatio
    (negative : Bool)
    {numerator denominator : Nat}
    (numeratorPositive : 0 < numerator)
    (positive : 0 < denominator)
    (below : (numerator : ℚ) / denominator < 2 ^ (1023 : Int)) :
    (ofRatio negative numerator denominator).isFinite = true := by
  have count : fractionCount = 2 ^ 52 := rfl
  have limit : specialExponent * fractionCount = 2047 * 2 ^ 52 := rfl
  have leading : leadingExponent numerator denominator < 1023 :=
    (zpow_lt_zpow_iff_right₀ one_lt_two).mp
      (lt_of_le_of_lt (leadingExponent_bounds numeratorPositive positive).1 below)
  have most := (divideScaled_bounds numeratorPositive positive rfl).1
  have steps :
      (max (leadingExponent numerator denominator - 52) (-1074) + 1074).toNat ≤ 2044 := by
    omega
  unfold ofRatio
  simp only [if_neg numeratorPositive.ne']
  generalize divideScaled numerator denominator _ = places at most ⊢
  generalize (max (leadingExponent numerator denominator - 52) (-1074) + 1074).toNat = exponent
    at steps ⊢
  have scaled : exponent * fractionCount ≤ 2044 * fractionCount :=
    Nat.mul_le_mul_right _ steps
  have fits : exponent * fractionCount + places < specialExponent * fractionCount := by
    omega
  rw [if_neg (Nat.not_le.mpr fits)]
  unfold isFinite exponentField
  rw [magnitudeCode_ofCode negative (by omega), decide_eq_true_eq]
  exact (Nat.div_lt_iff_lt_mul (by decide)).mpr fits

/-- No quotient becomes what is not a number. -/
theorem isNaN_ofRatio
    (negative : Bool)
    (numerator denominator : Nat) :
    (ofRatio negative numerator denominator).isNaN = false := by
  have limit : specialExponent * fractionCount = 2047 * 2 ^ 52 := rfl
  obtain ⟨code, within, same⟩ := exists_ofRatio_eq_ofCode negative numerator denominator
  rw [same, isNaN, magnitudeCode_ofCode negative (by omega), decide_eq_false_iff_not]
  exact Nat.not_lt.mpr within

end QueryAgent.Number.Binary64

import QueryAgent.Number.Scaled
import QueryAgent.Proofs.Number.Nearest

namespace QueryAgent.Number.Binary64

/-!
# What scaled digits become

Digits that are scaled by a power of ten are rounded once on their own, the power
of ten is rounded as well, and their product is rounded again: each of the three
is nearest to what it stands for.  Only the last rounding is left where the digits
and the power of ten are doubles themselves, and the result is then the double
that the decimal rounds to.
-/

/-! ## Signs -/

theorem magnitudeCode_withSign
    (negative : Bool)
    (double : Binary64) :
    (double.withSign negative).magnitudeCode = double.magnitudeCode :=
  magnitudeCode_ofCode negative (Nat.mod_lt _ (by decide))

theorem isNegative_withSign
    (negative : Bool)
    (double : Binary64) :
    (double.withSign negative).isNegative = negative :=
  isNegative_ofCode negative (Nat.mod_lt _ (by decide))

theorem isFinite_withSign
    (negative : Bool)
    (double : Binary64) :
    (double.withSign negative).isFinite = double.isFinite := by
  rw [isFinite, exponentField, magnitudeCode_withSign, ← exponentField, ← isFinite]

theorem magnitude_withSign
    (negative : Bool)
    (double : Binary64) :
    (double.withSign negative).magnitude = double.magnitude := by
  have exponent : (double.withSign negative).exponentField = double.exponentField := by
    rw [exponentField, magnitudeCode_withSign, ← exponentField]
  have fraction : (double.withSign negative).fractionField = double.fractionField := by
    rw [fractionField, magnitudeCode_withSign, ← fractionField]
  simp only [magnitude, significand, scale, exponent, fraction]

theorem value_withSign
    (negative : Bool)
    (double : Binary64) :
    (double.withSign negative).value = signed negative double.magnitude := by
  rw [value, isNegative_withSign, magnitude_withSign]

theorem value_of_positive
    {double : Binary64}
    (positive : double.isNegative = false) :
    double.value = double.magnitude := by
  rw [value, positive]
  rfl

theorem signed_mul_signed
    (firstNegative secondNegative : Bool)
    (first second : ℚ) :
    signed firstNegative first * signed secondNegative second =
      signed (firstNegative != secondNegative) (first * second) := by
  cases firstNegative <;> cases secondNegative <;>
    simp [signed]

/-- What is nearest to a number is nearest to its opposite under the other sign. -/
theorem IsNearest.withSign
    {double : Binary64}
    {number : ℚ}
    (nearest : double.IsNearest number)
    (nonnegative : 0 ≤ number)
    (negative : Bool) :
    (double.withSign negative).IsNearest (signed negative number) := by
  refine ⟨by rw [isFinite_withSign, nearest.finite], fun other => ?_⟩
  have positiveOther : (other.withSign false).value = other.magnitude :=
    value_withSign false other
  rw [value_withSign, abs_signed_sub_signed]
  calc
    |double.magnitude - number| ≤ |double.value - number| :=
      double.abs_magnitude_sub_le false nonnegative
    _ ≤ |(other.withSign false).value - number| :=
      nearest.least _
    _ = |other.magnitude - number| := by
      rw [positiveOther]
    _ ≤ |other.value - signed negative number| :=
      other.abs_magnitude_sub_le negative nonnegative

/-- What is nearest to the number of a double is that number. -/
theorem IsNearest.value_eq
    {double exact : Binary64}
    (nearest : double.IsNearest exact.value) :
    double.value = exact.value := by
  have distance := nearest.least exact
  rw [sub_self, abs_zero] at distance
  exact sub_eq_zero.mp (abs_nonpos_iff.mp distance)

/-! ## Products and quotients -/

/-- A quotient times a power of two is a quotient. -/
theorem ofScaledRatio_eq_ofRatio
    (negative : Bool)
    (numerator : Nat)
    {denominator : Nat}
    (positive : 0 < denominator)
    (power : Int) :
    ∃ scaledNumerator scaledDenominator : Nat,
      0 < scaledDenominator ∧
        ofScaledRatio negative numerator denominator power =
          ofRatio negative scaledNumerator scaledDenominator ∧
        (scaledNumerator : ℚ) / scaledDenominator = numerator / denominator * 2 ^ power := by
  cases power with
  | ofNat exponent =>
      refine ⟨numerator * 2 ^ exponent, denominator, positive, rfl, ?_⟩
      rw [Int.ofNat_eq_natCast, zpow_natCast]
      push_cast
      ring
  | negSucc exponent =>
      refine ⟨numerator, denominator * 2 ^ (exponent + 1), by positivity, rfl, ?_⟩
      rw [zpow_negSucc]
      push_cast
      rw [div_mul_eq_div_div, div_eq_mul_inv _ ((2 : ℚ) ^ (exponent + 1))]

section
variable (first second : Binary64)

/-- A product is rounded from the quotient that it is. -/
theorem times_eq_ofRatio :
    ∃ numerator denominator : Nat,
      0 < denominator ∧
        first.times second =
          ofRatio (first.isNegative != second.isNegative) numerator denominator ∧
        (numerator : ℚ) / denominator = first.magnitude * second.magnitude := by
  obtain ⟨numerator, denominator, positive, rounded, quotient⟩ :=
    ofScaledRatio_eq_ofRatio (first.isNegative != second.isNegative)
      (first.significand * second.significand) Nat.one_pos (first.scale + second.scale)
  refine ⟨numerator, denominator, positive, rounded, ?_⟩
  rw [quotient, magnitude, magnitude, zpow_add₀ two_ne_zero]
  push_cast
  ring

/-- A quotient is rounded from what it is. -/
theorem dividedBy_eq_ofRatio
    (notZero : 0 < second.significand) :
    ∃ numerator denominator : Nat,
      0 < denominator ∧
        first.dividedBy second =
          ofRatio (first.isNegative != second.isNegative) numerator denominator ∧
        (numerator : ℚ) / denominator = first.magnitude / second.magnitude := by
  obtain ⟨numerator, denominator, positive, rounded, quotient⟩ :=
    ofScaledRatio_eq_ofRatio (first.isNegative != second.isNegative)
      first.significand notZero (first.scale - second.scale)
  refine ⟨numerator, denominator, positive, rounded, ?_⟩
  rw [quotient, magnitude, magnitude, zpow_sub₀ two_ne_zero, div_mul_div_comm]

end

/-- No double is nearer to a product than the finite one that it becomes. -/
theorem isNearest_times
    {first second : Binary64}
    (finite : (first.times second).isFinite = true) :
    (first.times second).IsNearest (first.value * second.value) := by
  obtain ⟨numerator, denominator, positive, rounded, quotient⟩ := times_eq_ofRatio first second
  rw [rounded] at finite ⊢
  rw [value, value, signed_mul_signed, ← quotient]
  exact isNearest_ofRatio positive finite

section
variable {first second double : Binary64} (finite : double.isFinite = true)
  (notZero : 0 < double.significand)
include finite notZero

/-- A product becomes the double that it rounds to. -/
theorem times_of_roundsTo
    (rounds : double.RoundsTo (first.magnitude * second.magnitude)) :
    first.times second = double.withSign (first.isNegative != second.isNegative) := by
  obtain ⟨numerator, denominator, positive, rounded, quotient⟩ := times_eq_ofRatio first second
  rw [← quotient] at rounds
  rw [rounded]
  exact ofRatio_of_roundsTo _ positive finite notZero rounds

/-- A quotient becomes the double that it rounds to. -/
theorem dividedBy_of_roundsTo
    (divides : 0 < second.significand)
    (rounds : double.RoundsTo (first.magnitude / second.magnitude)) :
    first.dividedBy second = double.withSign (first.isNegative != second.isNegative) := by
  obtain ⟨numerator, denominator, positive, rounded, quotient⟩ :=
    dividedBy_eq_ofRatio first second divides
  rw [← quotient] at rounds
  rw [rounded]
  exact ofRatio_of_roundsTo _ positive finite notZero rounds

end

/-! ## Whole numbers and powers of ten -/

section
variable (number : Nat)

theorem ofInt_natCast :
    ofInt number = ofRatio false number 1 := by
  have sign : decide ((number : Int) < 0) = false :=
    decide_eq_false (Int.not_lt.mpr (Int.natCast_nonneg number))
  rw [ofInt, Int.natAbs_natCast, sign]

theorem isNegative_ofInt :
    (ofInt number).isNegative = false := by
  rw [ofInt_natCast, isNegative_ofRatio]

variable {number}

/-- No double is nearer to a whole number than the finite one that it becomes. -/
theorem isNearest_ofInt
    (finite : (ofInt number).isFinite = true) :
    (ofInt number).IsNearest number := by
  rw [ofInt_natCast] at finite ⊢
  have nearest := isNearest_ofRatio Nat.one_pos finite
  rwa [signed, if_neg Bool.false_ne_true, Nat.cast_one, div_one] at nearest

/-- A whole number of 64 bits becomes a finite double. -/
theorem isFinite_ofInt
    (fits : number < 2 ^ 64) :
    (ofInt number).isFinite = true := by
  rcases Nat.eq_zero_or_pos number with rfl | positive
  · decide
  · rw [ofInt_natCast]
    refine isFinite_ofRatio false positive Nat.one_pos ?_
    rw [Nat.cast_one, div_one]
    calc
      (number : ℚ) < 2 ^ (64 : Int) := by
        exact_mod_cast fits
      _ < 2 ^ (1023 : Int) :=
        zpow_lt_zpow_right₀ one_lt_two (by decide)

/-- The leading exponent of a whole number is the greatest power of two not above it. -/
theorem leadingExponent_one_bounds
    (positive : 0 < number) :
    (2 : ℚ) ^ leadingExponent number 1 ≤ number ∧
      (number : ℚ) < 2 ^ (leadingExponent number 1 + 1) := by
  have bounds := leadingExponent_bounds positive Nat.one_pos
  rwa [Nat.cast_one, div_one] at bounds

/-- In places of at most one each, a whole number is rounded to itself. -/
theorem divideScaled_one
    (number places : Nat) :
    divideScaled number 1 (-(places : Int)) = number * 2 ^ places := by
  have placed :
      (number : ℚ) / (1 : Nat) / 2 ^ (-(places : Int)) = (number * 2 ^ places : Nat) := by
    rw [zpow_neg, zpow_natCast]
    push_cast
    field_simp
  refine divideScaled_eq Nat.one_pos ?_ ?_ (.inr ⟨?_, ?_⟩) <;>
    · rw [placed]
      linarith

/-- A whole number below the first that needs a larger place is a double. -/
theorem magnitude_ofInt
    (small : number < 2 ^ 53) :
    (ofInt number).magnitude = number := by
  rcases Nat.eq_zero_or_pos number with rfl | positive
  · rw [ofInt_natCast, ofRatio, if_pos rfl, magnitude_ofCode_zero, Nat.cast_zero]
  · have finite : (ofInt number).isFinite = true :=
      isFinite_ofInt (small.trans (by decide))
    have atMost : leadingExponent number 1 < 53 := by
      have below : (number : ℚ) < 2 ^ (53 : Int) := by
        exact_mod_cast small
      exact (zpow_lt_zpow_iff_right₀ one_lt_two).mp
        (lt_of_le_of_lt (leadingExponent_one_bounds positive).1 below)
    obtain ⟨places, powerIs⟩ :
        ∃ places : Nat, max (leadingExponent number 1 - 52) (-1074) = -(places : Int) :=
      ⟨(-(max (leadingExponent number 1 - 52) (-1074))).toNat, by omega⟩
    rw [ofInt_natCast] at finite ⊢
    rw [magnitude_ofRatio positive Nat.one_pos finite rfl, powerIs, divideScaled_one, zpow_neg,
      zpow_natCast]
    push_cast
    field_simp

/-- A whole number other than zero does not become zero. -/
theorem isZero_ofInt
    (positive : 0 < number)
    (fits : number < 2 ^ 64) :
    (ofInt number).isZero = false := by
  have atLeast : 0 < leadingExponent number 1 + 1 := by
    have one : (2 : ℚ) ^ (0 : Int) ≤ number := by
      exact_mod_cast positive
    exact (zpow_lt_zpow_iff_right₀ one_lt_two).mp
      (lt_of_le_of_lt one (leadingExponent_one_bounds positive).2)
  obtain ⟨power, powerIs⟩ : ∃ power, power = max (leadingExponent number 1 - 52) (-1074) :=
    ⟨_, rfl⟩
  have leading : 2 ^ 52 ≤ divideScaled number 1 power :=
    (divideScaled_bounds positive Nat.one_pos powerIs).2.resolve_left (by omega)
  have finite := isFinite_ofInt fits
  rw [ofInt_natCast] at finite ⊢
  have magnitudePositive : 0 < (ofRatio false number 1).magnitude := by
    have leadingPositive : (0 : ℚ) < divideScaled number 1 power := by
      exact_mod_cast Nat.lt_of_lt_of_le (by decide) leading
    rw [magnitude_ofRatio positive Nat.one_pos finite powerIs]
    positivity
  rw [Bool.eq_false_iff]
  intro none
  rw [magnitude_of_isZero none] at magnitudePositive
  exact lt_irrefl 0 magnitudePositive

end

theorem isFinite_tenTo :
    ∀ power ≤ greatestTen, (tenTo power).isFinite = true := by
  decide +kernel

/-- No double is nearer to a power of ten than the one that stands for it. -/
theorem isNearest_tenTo
    {power : Nat}
    (within : power ≤ greatestTen) :
    (tenTo power).IsNearest (10 ^ power) := by
  have ten : ((Nat.pow 10 power : Nat) : ℚ) = 10 ^ power := by
    rw [Nat.pow_eq, Nat.cast_pow, Nat.cast_ofNat]
  rw [← ten]
  exact isNearest_ofInt (isFinite_tenTo power within)

theorem isNegative_tenTo
    (power : Nat) :
    (tenTo power).isNegative = false :=
  isNegative_ofInt _

/-- A power of ten is a double as long as its odd factor has fifty-three bits. -/
theorem magnitude_tenTo
    {power : Nat}
    (small : power ≤ 22) :
    (tenTo power).magnitude = 10 ^ power := by
  have shifted :
      ∀ power ≤ 22,
        0 ≤ (tenTo power).scale + 52 ∧
          (tenTo power).significand * 2 ^ ((tenTo power).scale + 52).toNat =
            10 ^ power * 2 ^ 52 := by
    decide +kernel
  obtain ⟨whole, same⟩ := shifted power small
  have sameRat :
      ((tenTo power).significand : ℚ) * 2 ^ ((tenTo power).scale + 52).toNat =
        10 ^ power * 2 ^ 52 := by
    exact_mod_cast same
  have places : (((tenTo power).scale + 52).toNat : Int) = (tenTo power).scale + (52 : Nat) := by
    omega
  rw [← zpow_natCast, places, zpow_add₀ two_ne_zero, zpow_natCast, ← mul_assoc] at sameRat
  exact mul_right_cancel₀ (by positivity) sameRat

theorem significand_tenTo_pos
    {power : Nat}
    (small : power ≤ 22) :
    0 < (tenTo power).significand := by
  have positive : 0 < (tenTo power).magnitude := by
    rw [magnitude_tenTo small]
    positivity
  rw [magnitude] at positive
  exact_mod_cast (mul_pos_iff_of_pos_right (by positivity)).mp positive

/-! ## Scaled digits -/

section
variable {digits power : Nat} {double : Binary64}

/-- Digits within the range are multiplied by the power of ten. -/
theorem eq_times_of_ofScaled?
    (within : power ≤ greatestTen)
    (scaled : ofScaled? digits power = some double) :
    double = (ofInt digits).times (tenTo power) ∧ double.isFinite = true := by
  rw [← Int.ofNat_eq_natCast, ofScaled?] at scaled
  simp only [if_neg (Nat.not_lt.mpr within)] at scaled
  split at scaled
  next finite =>
      cases scaled
      exact ⟨rfl, finite⟩
  · cases scaled

/-- Digits other than zero are not scaled past the greatest power of ten. -/
theorem le_greatestTen_of_ofScaled?
    (positive : 0 < digits)
    (fits : digits < 2 ^ 64)
    (scaled : ofScaled? digits power = some double) :
    power ≤ greatestTen := by
  by_contra beyond
  rw [← Int.ofNat_eq_natCast, ofScaled?] at scaled
  simp [Nat.lt_of_not_le beyond, isZero_ofInt positive fits] at scaled

/-- Digits and a power of ten are rounded each, and so is their product. -/
theorem exists_isNearest_of_ofScaled?
    (positive : 0 < digits)
    (fits : digits < 2 ^ 64)
    (scaled : ofScaled? digits power = some double) :
    ∃ head ten : Binary64,
      head.IsNearest digits ∧
        ten.IsNearest (10 ^ power) ∧
        double.IsNearest (head.value * ten.value) ∧
        0 ≤ head.value * ten.value := by
  have within := le_greatestTen_of_ofScaled? positive fits scaled
  obtain ⟨rfl, finite⟩ := eq_times_of_ofScaled? within scaled
  refine
    ⟨ofInt digits, tenTo power, isNearest_ofInt (isFinite_ofInt fits), isNearest_tenTo within,
      isNearest_times finite, ?_⟩
  rw [value_of_positive (isNegative_ofInt digits), value_of_positive (isNegative_tenTo power)]
  exact mul_nonneg (magnitude_nonneg _) (magnitude_nonneg _)

/-- Digits alone are rounded once. -/
theorem isNearest_of_ofScaled?_zero
    (fits : digits < 2 ^ 64)
    (scaled : ofScaled? digits (0 : Nat) = some double) :
    double.IsNearest digits := by
  obtain ⟨rfl, finite⟩ := eq_times_of_ofScaled? (Nat.zero_le _) scaled
  have head := isNearest_ofInt (isFinite_ofInt fits)
  have product := isNearest_times finite
  rw [value_of_positive (isNegative_tenTo 0), magnitude_tenTo (Nat.zero_le _), pow_zero,
    mul_one] at product
  refine ⟨finite, fun other => ?_⟩
  rw [product.value_eq]
  exact head.least other

/--
Digits and a power of ten that are doubles are scaled to the double that their
product or their quotient rounds to.
-/
theorem ofScaled?_of_roundsTo
    (small : digits < 2 ^ 53)
    {power : Int}
    (near : power.natAbs ≤ 22)
    (finite : double.isFinite = true)
    (notZero : 0 < double.significand)
    (rounds : double.RoundsTo (digits * 10 ^ power)) :
    ofScaled? digits power = some (double.withSign false) := by
  have sign (ten : Nat) : ((ofInt digits).isNegative != (tenTo ten).isNegative) = false := by
    rw [isNegative_ofInt, isNegative_tenTo]
    rfl
  rw [← magnitude_ofInt small] at rounds
  cases power with
  | ofNat exponent =>
      have few : exponent ≤ 22 := near
      have within : exponent ≤ greatestTen :=
        few.trans (by decide)
      rw [Int.ofNat_eq_natCast, zpow_natCast, ← magnitude_tenTo few] at rounds
      have product := times_of_roundsTo finite notZero rounds
      rw [sign] at product
      rw [ofScaled?]
      simp only [if_neg (Nat.not_lt.mpr within), product, isFinite_withSign, finite, if_true]
  | negSucc exponent =>
      have few : exponent + 1 ≤ 22 := near
      have once : exponent / greatestTen = 0 :=
        Nat.div_eq_of_lt (by unfold greatestTen; omega)
      rw [zpow_negSucc, ← div_eq_mul_inv, ← magnitude_tenTo few] at rounds
      have quotient := dividedBy_of_roundsTo finite notZero (significand_tenTo_pos few) rounds
      rw [sign] at quotient
      rw [ofScaled?]
      simp only [once, Nat.mul_zero, Nat.sub_zero, shrink, quotient]

end

end QueryAgent.Number.Binary64

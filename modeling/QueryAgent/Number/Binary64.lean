namespace QueryAgent.Number

/-!
# IEEE 754 double precision

A double is its 64 bits: a sign, eleven bits of exponent and fifty-two of
fraction.  Arithmetic on what the bits denote is exact, in natural numbers and
integers, so that rounding, comparison and text all have one meaning.
-/

/-- A double, given by its bits. -/
structure Binary64 where
  bits : UInt64
deriving Repr, DecidableEq, Inhabited

namespace Binary64

/-- One more than the largest fraction. -/
def fractionCount : Nat := Nat.pow 2 52

/-- The exponent that marks infinities and what is not a number. -/
def specialExponent : Nat := 2047

/-- The bits without the sign. -/
def magnitudeCode
    (double : Binary64) : Nat :=
  double.bits.toNat % Nat.pow 2 63

/-- The sign bit is set. -/
def isNegative
    (double : Binary64) : Bool :=
  Nat.pow 2 63 ≤ double.bits.toNat

/-- The eleven bits of exponent. -/
def exponentField
    (double : Binary64) : Nat :=
  double.magnitudeCode / fractionCount

/-- The fifty-two bits of fraction. -/
def fractionField
    (double : Binary64) : Nat :=
  double.magnitudeCode % fractionCount

/-- Neither infinite nor not a number. -/
def isFinite
    (double : Binary64) : Bool :=
  double.exponentField < specialExponent

/-- Not a number. -/
def isNaN
    (double : Binary64) : Bool :=
  specialExponent * fractionCount < double.magnitudeCode

/-- Positive or negative zero. -/
def isZero
    (double : Binary64) : Bool :=
  double.magnitudeCode == 0

/-- The whole number whose scaled value the finite magnitude is. -/
def significand
    (double : Binary64) : Nat :=
  if double.exponentField = 0 then
    double.fractionField
  else
    fractionCount + double.fractionField

/-- The power of two that scales the significand. -/
def scale
    (double : Binary64) : Int :=
  (max double.exponentField 1 : Nat) - 1075

/-- Builds a double from a sign and the bits without it. -/
def ofCode
    (negative : Bool)
    (code : Nat) : Binary64 :=
  ⟨UInt64.ofNat (code + if negative then Nat.pow 2 63 else 0)⟩

/-- An infinity of the given sign. -/
def infinity
    (negative : Bool) : Binary64 :=
  ofCode negative (specialExponent * fractionCount)

/-- What is not a number, in its usual bits. -/
def notNumber : Binary64 :=
  ofCode false (specialExponent * fractionCount + fractionCount / 2)

/-- The quotient rounded to the nearest whole number, a half to the even one. -/
def divideToEven
    (numerator denominator : Nat) : Nat :=
  let quotient := numerator / denominator
  let remainder := numerator % denominator
  if 2 * remainder < denominator then
    quotient
  else if denominator < 2 * remainder then
    quotient + 1
  else
    quotient + quotient % 2

/-- The quotient of two naturals times a power of two, rounded to even. -/
def divideScaled
    (numerator denominator : Nat)
    (power : Int) : Nat :=
  match power with
  | .ofNat exponent =>
      divideToEven numerator (denominator * Nat.pow 2 exponent)
  | .negSucc exponent =>
      divideToEven (numerator * Nat.pow 2 (exponent + 1)) denominator

/-- The exponent of the leading bit of a positive quotient. -/
def leadingExponent
    (numerator denominator : Nat) : Int :=
  let guess : Int := (Nat.log2 numerator : Int) - Nat.log2 denominator
  let reached : Bool :=
    match guess with
    | .ofNat exponent =>
        denominator * Nat.pow 2 exponent ≤ numerator
    | .negSucc exponent =>
        denominator ≤ numerator * Nat.pow 2 (exponent + 1)
  if reached then
    guess
  else
    guess - 1

/--
The double nearest to a quotient, ties to the even significand; a quotient past
the largest double by half a step or more becomes an infinity.
-/
def ofRatio
    (negative : Bool)
    (numerator denominator : Nat) : Binary64 :=
  if numerator = 0 then
    ofCode negative 0
  else
    let power := max (leadingExponent numerator denominator - 52) (-1074)
    let rounded := divideScaled numerator denominator power
    let code := (power + 1074).toNat * fractionCount + rounded
    if specialExponent * fractionCount ≤ code then
      infinity negative
    else
      ofCode negative code

/-- The double nearest to an integer. -/
def ofInt
    (number : Int) : Binary64 :=
  ofRatio (number < 0) number.natAbs 1

/-- The number of decimal digits, of which zero has one. -/
def decimalLength
    (number : Nat) : Nat :=
  if number < 10 then
    1
  else
    decimalLength (number / 10) + 1
termination_by number

/-- The double nearest to `digits · 10 ^ exponent`. -/
def ofDecimal
    (negative : Bool)
    (digits : Nat)
    (exponent : Int) : Binary64 :=
  let magnitude := exponent + decimalLength digits
  if digits = 0 ∨ magnitude < -330 then
    ofCode negative 0
  else if 320 < magnitude then
    infinity negative
  else
    match exponent with
    | .ofNat places =>
        ofRatio negative (digits * Nat.pow 10 places) 1
    | .negSucc places =>
        ofRatio negative digits (Nat.pow 10 (places + 1))

/-- The double that a single-precision pattern denotes, which is exact. -/
def ofBinary32
    (bits : UInt32) : Binary64 :=
  let negative : Bool := Nat.pow 2 31 ≤ bits.toNat
  let exponent := bits.toNat / Nat.pow 2 23 % 256
  let fraction := bits.toNat % Nat.pow 2 23
  if exponent = 255 then
    ofCode negative (specialExponent * fractionCount + fraction * Nat.pow 2 29)
  else if exponent = 0 then
    ofRatio negative fraction (Nat.pow 2 149)
  else
    ofCode negative ((exponent + 896) * fractionCount + fraction * Nat.pow 2 29)

/-- The place of a double that is a number in the order of all of them. -/
def orderKey
    (double : Binary64) : Int :=
  if double.isNegative then
    -(double.magnitudeCode : Int)
  else
    double.magnitudeCode

/-- The order of two doubles, none when one is not a number. -/
def compare?
    (first second : Binary64) : Option Ordering :=
  if first.isNaN || second.isNaN then
    none
  else
    some (Ord.compare first.orderKey second.orderKey)

end Binary64

end QueryAgent.Number

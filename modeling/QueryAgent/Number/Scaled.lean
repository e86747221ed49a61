import QueryAgent.Number.Binary64

namespace QueryAgent.Number.Binary64

/-!
# Digits scaled by a power of ten

The quick way to a double from decimal digits: the digits and the power of ten
are rounded to doubles of their own, and so is their product or their quotient.
The result may miss the nearest double, and it is refused where the product
leaves the range of the doubles.
-/

/-- The double nearest to a quotient of naturals times a power of two. -/
def ofScaledRatio
    (negative : Bool)
    (numerator denominator : Nat)
    (power : Int) : Binary64 :=
  match power with
  | .ofNat exponent =>
      ofRatio negative (numerator * Nat.pow 2 exponent) denominator
  | .negSucc exponent =>
      ofRatio negative numerator (denominator * Nat.pow 2 (exponent + 1))

/-- The product of two finite doubles, rounded. -/
def times
    (first second : Binary64) : Binary64 :=
  ofScaledRatio (first.isNegative != second.isNegative)
    (first.significand * second.significand) 1 (first.scale + second.scale)

/-- The quotient of two finite doubles of which the second is not zero, rounded. -/
def dividedBy
    (first second : Binary64) : Binary64 :=
  ofScaledRatio (first.isNegative != second.isNegative)
    first.significand second.significand (first.scale - second.scale)

/-- The magnitude of a double under a sign. -/
def withSign
    (negative : Bool)
    (double : Binary64) : Binary64 :=
  ofCode negative double.magnitudeCode

/-- The greatest power of ten with a double of its own. -/
def greatestTen : Nat := 308

/-- The double nearest to a power of ten. -/
def tenTo
    (power : Nat) : Binary64 :=
  ofInt (Nat.pow 10 power : Nat)

/-- Divides by the greatest power of ten so many times, or until nothing is left. -/
def shrink : Nat → Binary64 → Binary64
  | 0, double =>
      double
  | times + 1, double =>
      if double.isZero then
        double
      else
        shrink times (double.dividedBy (tenTo greatestTen))

/-- Digits times a power of ten in doubles, none when they leave the range. -/
def ofScaled?
    (digits : Nat)
    (power : Int) : Option Binary64 :=
  let double := ofInt digits
  match power with
  | .ofNat exponent =>
      if greatestTen < exponent then
        if double.isZero then
          some double
        else
          none
      else
        let product := double.times (tenTo exponent)
        if product.isFinite then
          some product
        else
          none
  | .negSucc exponent =>
      let times := exponent / greatestTen
      some ((shrink times double).dividedBy (tenTo (exponent + 1 - greatestTen * times)))

end QueryAgent.Number.Binary64

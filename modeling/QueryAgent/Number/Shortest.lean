import QueryAgent.Number.Binary64
import QueryAgent.Text.Digits

namespace QueryAgent.Number

/-!
# The shortest decimal of a double

The fewest digits that read back to the same double, the nearest of those when
several do.  How they are laid out is a choice of each format and a record of
its own.
-/

/-- A positive value `digits · 10 ^ exponent`, without trailing zeros. -/
structure Decimal where
  digits : Nat
  exponent : Int
deriving Repr, DecidableEq

/-- The reals around a value that round to it, over one denominator. -/
structure RoundingInterval where
  lower : Nat
  middle : Nat
  upper : Nat
  denominator : Nat
  closed : Bool
deriving Repr, DecidableEq

/-- The interval of `significand · 2 ^ scale`, narrower below a power of two. -/
def RoundingInterval.around
    (significand : Nat)
    (scale : Int)
    (narrowBelow : Bool) : RoundingInterval :=
  let quarter := scale - 2
  let (factor, denominator) :=
    match quarter with
    | .ofNat exponent =>
        (Nat.pow 2 exponent, 1)
    | .negSucc exponent =>
        (1, Nat.pow 2 (exponent + 1))
  { lower := (4 * significand - if narrowBelow then 1 else 2) * factor
    middle := 4 * significand * factor
    upper := (4 * significand + 2) * factor
    denominator := denominator
    closed := significand % 2 == 0 }

/-- The exponent of the leading decimal digit of a positive quotient. -/
def leadingDecimalExponent
    (numerator denominator : Nat) : Int :=
  if denominator ≤ numerator then
    (Binary64.decimalLength (numerator / denominator) : Int) - 1
  else
    -(Binary64.decimalLength ((denominator + numerator - 1) / numerator - 1) : Int)

/-- Takes the trailing zeros into the exponent. -/
def Decimal.normalize
    (digits : Nat)
    (exponent : Int) : Decimal :=
  if digits ≠ 0 ∧ digits % 10 = 0 then
    Decimal.normalize (digits / 10) (exponent + 1)
  else
    ⟨digits, exponent⟩
termination_by digits
decreasing_by omega

/-- Multiplies both sides of a comparison up to a grid of `10 ^ exponent`. -/
def gridFactors
    (denominator : Nat)
    (exponent : Int) : Nat × Nat :=
  match exponent with
  | .ofNat places =>
      (1, denominator * Nat.pow 10 places)
  | .negSucc places =>
      (Nat.pow 10 (places + 1), denominator)

/-- The neighbour of the value on one decimal grid that rounds to it. -/
def RoundingInterval.onGrid?
    (interval : RoundingInterval)
    (exponent : Int) : Option Nat :=
  let (factor, unit) := gridFactors interval.denominator exponent
  let below := interval.middle * factor / unit
  let inside (candidate : Nat) : Bool :=
    if interval.closed then
      interval.lower * factor ≤ candidate * unit
        && candidate * unit ≤ interval.upper * factor
    else
      interval.lower * factor < candidate * unit
        && candidate * unit < interval.upper * factor
  let distance (candidate : Nat) : Nat :=
    (candidate * unit - interval.middle * factor)
      + (interval.middle * factor - candidate * unit)
  match inside below, inside (below + 1) with
  | false, false =>
      none
  | true, false =>
      some below
  | false, true =>
      some (below + 1)
  | true, true =>
      if distance below < distance (below + 1) then
        some below
      else if distance (below + 1) < distance below then
        some (below + 1)
      else
        some (below + below % 2)

/-- Tries grids of one digit more until one has a hit. -/
def RoundingInterval.shortestFrom
    (interval : RoundingInterval)
    (exponent : Int) : Nat → Decimal
  | 0 =>
      Decimal.normalize ((interval.onGrid? exponent).getD 0) exponent
  | finer + 1 =>
      match interval.onGrid? exponent with
      | some digits =>
          Decimal.normalize digits exponent
      | none =>
          interval.shortestFrom (exponent - 1) finer

/-- The shortest decimal in an interval; seventeen digits always suffice. -/
def RoundingInterval.shortest
    (interval : RoundingInterval) : Decimal :=
  interval.shortestFrom
    (leadingDecimalExponent interval.middle interval.denominator) 16

namespace Binary64

/-- The shortest decimal of the magnitude of a finite double that is not zero. -/
def shortest
    (double : Binary64) : Decimal :=
  (RoundingInterval.around double.significand double.scale
    (double.fractionField == 0 && 1 < double.exponentField)).shortest

end Binary64

/-- How a format lays out the digits of a finite double. -/
structure FloatLayout where
  /-- The least and greatest leading exponent written without a power of ten. -/
  positional : Option (Int × Int)
  /-- Whether a whole number keeps a point and a zero. -/
  keepsPoint : Bool
deriving Repr, DecidableEq

/-- The digits with a point placed after the given number of them. -/
def placePoint
    (digits : List Char)
    (before : Int)
    (keepsPoint : Bool) : List Char :=
  if before ≤ 0 then
    '0' :: '.' :: (List.replicate (-before).toNat '0' ++ digits)
  else if before.toNat < digits.length then
    digits.take before.toNat ++ '.' :: digits.drop before.toNat
  else
    digits ++ List.replicate (before.toNat - digits.length) '0'
      ++ if keepsPoint then ['.', '0'] else []

/-- The digits as a mantissa and a signed power of ten. -/
def placeExponent
    (digits : List Char)
    (leading : Int) : List Char :=
  let mantissa :=
    match digits with
    | first :: second :: rest =>
        first :: '.' :: second :: rest
    | short =>
        short
  let sign := if leading < 0 then '-' else '+'
  mantissa ++ 'e' :: sign :: Text.decimalList leading.natAbs

/-- The text of a finite double in a layout, the sign of a zero included. -/
def FloatLayout.render
    (layout : FloatLayout)
    (double : Binary64) : String :=
  let sign := if double.isNegative then "-" else ""
  if double.isZero then
    sign ++ if layout.keepsPoint then "0.0" else "0"
  else
    let decimal := double.shortest
    let digits := Text.decimalList decimal.digits
    let before := decimal.exponent + digits.length
    let leading := before - 1
    let isPositional :=
      match layout.positional with
      | some (least, greatest) =>
          least ≤ leading && leading ≤ greatest
      | none =>
          true
    sign ++ String.ofList
      (if isPositional then
        placePoint digits before layout.keepsPoint
      else
        placeExponent digits leading)

end QueryAgent.Number

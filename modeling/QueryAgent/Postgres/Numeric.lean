import QueryAgent.Postgres.Wire
import QueryAgent.Text.Digits

namespace QueryAgent.Postgres

/-!
# Exact numbers

NUMERIC travels as groups of four decimal digits with the weight of the first
group, MONEY as a count of cents.  Both become decimal text.
-/

/-- What stands in front of the groups of a NUMERIC. -/
structure NumericHeader where
  groupCount : Nat
  weight : Int
  sign : Nat
  scale : Nat
deriving Repr, DecidableEq

/-- Two bytes at a time as numbers. -/
def wordsOf : List UInt8 → List Nat
  | high :: low :: rest =>
      unsignedOf [high, low] :: wordsOf rest
  | _ =>
      []

/-- The header of a NUMERIC and the bytes after it. -/
def numericHeader? : List UInt8 → Option (NumericHeader × List UInt8)
  | count :: count' :: weight :: weight' :: sign :: sign' :: scale :: scale' :: rest =>
      some
        ({ groupCount := unsignedOf [count, count']
           weight := signedOf [weight, weight']
           sign := unsignedOf [sign, sign']
           scale := unsignedOf [scale, scale'] },
          rest)
  | _ =>
      none

/-- The group at a position; there is nothing but zeros outside the groups sent. -/
def groupAt
    (groups : List Nat) : Int → Nat
  | .ofNat position =>
      groups.getD position 0
  | .negSucc _ =>
      0

/-- The four digits of a group. -/
def groupDigits
    (group : Nat) : List Char :=
  Text.zeroPadList 4 (Text.decimalList group)

/-- The digits before the point. -/
def wholeDigits
    (groups : List Nat)
    (weight : Int) : List Char :=
  match weight with
  | .ofNat last =>
      Text.decimalList (groupAt groups 0)
        ++ (List.range last).flatMap
          (fun position => groupDigits (groupAt groups (position + 1 : Nat)))
  | .negSucc _ =>
      ['0']

/-- The four digits of a group are at least four characters. -/
theorem groupDigits_length
    (group : Nat) :
    4 ≤ (groupDigits group).length := by
  simp only [groupDigits, Text.zeroPadList, List.length_append, List.length_replicate]
  omega

/-- At least so many digits after the point, from the group at a position on. -/
def fractionDigits
    (groups : List Nat)
    (position : Int)
    (needed : Nat) : List Char :=
  if needed = 0 then
    []
  else
    let digits := groupDigits (groupAt groups position)
    digits ++ fractionDigits groups (position + 1) (needed - digits.length)
termination_by needed
decreasing_by
  have enough := groupDigits_length (groupAt groups position)
  omega

/-- The decimal text of a finite NUMERIC. -/
def finiteNumeric
    (header : NumericHeader)
    (groups : List Nat) : String :=
  let sign := if header.sign = 0x4000 then ['-'] else []
  let fraction :=
    if header.scale = 0 then
      []
    else
      '.' :: (fractionDigits groups (header.weight + 1) header.scale).take header.scale
  String.ofList (sign ++ wholeDigits groups header.weight ++ fraction)

/-- The text of a NUMERIC, none when its bytes are too few. -/
def decodeNumeric?
    (bytes : List UInt8) : Option String :=
  match numericHeader? bytes with
  | none =>
      none
  | some (header, rest) =>
      if rest.length < 2 * header.groupCount then
        none
      else if header.sign = 0xc000 then
        some "NaN"
      else if header.sign = 0xd000 then
        some "Infinity"
      else if header.sign = 0xf000 then
        some "-Infinity"
      else
        some (finiteNumeric header ((wordsOf rest).take header.groupCount))

/-- A count of cents as units with two places. -/
def showMoney
    (cents : Int) : String :=
  (if cents < 0 then "-" else "")
    ++ Text.decimal (cents.natAbs / 100) ++ "." ++ Text.padded 2 (cents.natAbs % 100)

/-- The text of a MONEY, none when it does not have eight bytes. -/
def decodeMoney?
    (bytes : List UInt8) : Option String :=
  if bytes.length = 8 then
    some (showMoney (signedOf bytes))
  else
    none

end QueryAgent.Postgres

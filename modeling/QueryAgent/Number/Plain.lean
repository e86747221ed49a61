import QueryAgent.Number.Shortest

namespace QueryAgent.Number

/-!
# Doubles in plain notation

Doubles written without a power of ten, and read with or without one.
-/

/-- Doubles are written positionally, whole ones without a point. -/
def plainLayout : FloatLayout where
  positional := none
  keepsPoint := false

/-- A double as a text, infinities and what is no number included. -/
def plainText
    (value : Binary64) : String :=
  if value.isNaN then
    "NaN"
  else if value.isFinite then
    plainLayout.render value
  else if value.isNegative then
    "-inf"
  else
    "inf"

/-- The power of ten after a number, zero when nothing follows. -/
def readPower? : List Char → Option Int
  | [] =>
      some 0
  | mark :: rest =>
      if mark = 'e' || mark = 'E' then
        Text.readInteger? rest
      else
        none

/-- The digits after the point and what follows them, none without a point. -/
def readPlaces : List Char → List Char × List Char
  | '.' :: rest =>
      rest.span Char.isDigit
  | source =>
      ([], source)

/-- Reads digits with or without a point among them, and a power of ten. -/
def readMagnitude?
    (negative : Bool)
    (content : List Char) : Option Binary64 :=
  let (whole, rest) := content.span Char.isDigit
  let (fraction, rest) := readPlaces rest
  let digits := whole ++ fraction
  if digits.isEmpty then
    none
  else
    (readPower? rest).map fun power =>
      Binary64.ofDecimal negative (Text.foldDigits 0 digits) (power - fraction.length)

/-- Reads a double after its sign; infinities and what is no number have names. -/
def readUnsigned?
    (negative : Bool)
    (content : List Char) : Option Binary64 :=
  match String.ofList (content.map Char.toLower) with
  | "inf" =>
      some (Binary64.infinity negative)
  | "infinity" =>
      some (Binary64.infinity negative)
  | "nan" =>
      some Binary64.notNumber
  | _ =>
      readMagnitude? negative content

/-- Reads a double that a sign may precede. -/
def readPlain? : List Char → Option Binary64
  | '-' :: rest =>
      readUnsigned? true rest
  | '+' :: rest =>
      readUnsigned? false rest
  | content =>
      readUnsigned? false content

end QueryAgent.Number

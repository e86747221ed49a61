namespace QueryAgent.Text

/-!
# Digits

Numbers written in base ten or sixteen, with or without leading zeros.
-/

/-- The character of one decimal digit. -/
def digitChar
    (digit : Nat) : Char :=
  Char.ofNat (48 + digit % 10)

/-- The decimal digits of a number, in front of an accumulator. -/
def decimalOnto
    (number : Nat)
    (after : List Char) : List Char :=
  if number < 10 then
    digitChar number :: after
  else
    decimalOnto (number / 10) (digitChar (number % 10) :: after)
termination_by number

/-- A natural number in base ten without leading zeros. -/
def decimalList
    (number : Nat) : List Char :=
  decimalOnto number []

/-- A natural number in base ten without leading zeros. -/
def decimal
    (number : Nat) : String :=
  String.ofList (decimalList number)

/-- An integer in base ten, with a minus sign when it is negative. -/
def integer
    (number : Int) : String :=
  if number < 0 then
    "-" ++ decimal number.natAbs
  else
    decimal number.natAbs

/-- Puts zeros in front until a width is reached. -/
def zeroPadList
    (width : Nat)
    (digits : List Char) : List Char :=
  List.replicate (width - digits.length) '0' ++ digits

/-- A natural number in base ten with at least `width` digits. -/
def padded
    (width number : Nat) : String :=
  String.ofList (zeroPadList width (decimalList number))

/-- The value of a decimal digit. -/
def digitValue?
    (character : Char) : Option Nat :=
  if character.isDigit then
    some (character.toNat - 48)
  else
    none

/-- The number that decimal digits spell, after those already read. -/
def foldDigits
    (read : Nat)
    (digits : List Char) : Nat :=
  digits.foldl (fun number digit => number * 10 + (digit.toNat - 48)) read

/-- Reads a text that holds decimal digits alone, and at least one. -/
def readDecimal?
    (characters : List Char) : Option Nat :=
  if !characters.isEmpty && characters.all Char.isDigit then
    some (foldDigits 0 characters)
  else
    none

/-- Reads a natural number that a plus sign may precede. -/
def readNatural?
    (characters : List Char) : Option Nat :=
  match characters with
  | '+' :: digits => readDecimal? digits
  | digits => readDecimal? digits

/-- Reads an integer that a sign may precede. -/
def readInteger?
    (characters : List Char) : Option Int :=
  match characters with
  | '-' :: digits => (readDecimal? digits).map fun number => -(number : Int)
  | digits => (readNatural? digits).map fun number => (number : Int)

/-- Reads a natural number below a power of two. -/
def readNaturalBelow?
    (bits : Nat)
    (text : String) : Option Nat :=
  (readNatural? text.toList).filter (· < Nat.pow 2 bits)

/-- Reads an integer of so many bits, the sign among them. -/
def readIntegerWithin?
    (bits : Nat)
    (text : String) : Option Int :=
  (readInteger? text.toList).filter fun number =>
    -(Nat.pow 2 (bits - 1) : Int) ≤ number && number < Nat.pow 2 (bits - 1)

/-- The lower-case character of one hexadecimal digit. -/
def hexChar
    (digit : Nat) : Char :=
  if digit < 10 then
    Char.ofNat (48 + digit)
  else
    Char.ofNat (87 + digit % 16)

/-- The value of a hexadecimal digit of either case. -/
def hexValue?
    (character : Char) : Option Nat :=
  if '0' ≤ character && character ≤ '9' then
    some (character.toNat - 48)
  else if 'a' ≤ character && character ≤ 'f' then
    some (character.toNat - 87)
  else if 'A' ≤ character && character ≤ 'F' then
    some (character.toNat - 55)
  else
    none

/-- The lower-case hexadecimal digits of a number, in front of an accumulator. -/
def hexadecimalOnto
    (number : Nat)
    (after : List Char) : List Char :=
  if number < 16 then
    hexChar number :: after
  else
    hexadecimalOnto (number / 16) (hexChar (number % 16) :: after)
termination_by number

/-- A natural number in base sixteen without leading zeros. -/
def hexadecimalList
    (number : Nat) : List Char :=
  hexadecimalOnto number []

/-- The two lower-case hexadecimal digits of a byte. -/
def hexByte
    (byte : UInt8) : List Char :=
  [hexChar (byte.toNat / 16), hexChar (byte.toNat % 16)]

/-- The number that hexadecimal digits spell, none when one is no digit. -/
def readHexadecimal?
    (characters : List Char) : Option Nat :=
  characters.foldl
    (fun read character =>
      read.bind fun number =>
        (hexValue? character).map fun digit => number * 16 + digit)
    (some 0)

end QueryAgent.Text

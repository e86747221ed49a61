namespace QueryAgent.Text

/-!
# Base64

The standard alphabet with padding, in both directions.
-/

/-- The alphabet in the order of the values it stands for. -/
def base64Alphabet : List Char :=
  "ABCDEFGHIJKLMNOPQRSTUVWXYZabcdefghijklmnopqrstuvwxyz0123456789+/".toList

/-- The character of a six-bit value. -/
def base64Char
    (value : Nat) : Char :=
  base64Alphabet.getD value '='

/-- Four characters for each three bytes, the last group padded with `=`. -/
def encodeBase64 : List UInt8 → List Char
  | first :: second :: third :: rest =>
      base64Char (first.toNat / 4)
        :: base64Char (first.toNat % 4 * 16 + second.toNat / 16)
        :: base64Char (second.toNat % 16 * 4 + third.toNat / 64)
        :: base64Char (third.toNat % 64)
        :: encodeBase64 rest
  | [first, second] =>
      [base64Char (first.toNat / 4),
        base64Char (first.toNat % 4 * 16 + second.toNat / 16),
        base64Char (second.toNat % 16 * 4),
        '=']
  | [first] =>
      [base64Char (first.toNat / 4),
        base64Char (first.toNat % 4 * 16),
        '=',
        '=']
  | [] =>
      []

/-- The six-bit value of a character of the alphabet. -/
def base64Value?
    (character : Char) : Option Nat :=
  base64Alphabet.findIdx? (· == character)

/-- The three bytes of four six-bit values. -/
def base64Group
    (first second third fourth : Nat) : List UInt8 :=
  [UInt8.ofNat (first * 4 + second / 16),
    UInt8.ofNat (second % 16 * 16 + third / 4),
    UInt8.ofNat (third % 4 * 64 + fourth)]

/-- Reads padded groups of four; only the last may be padded. -/
def decodeBase64? : List Char → Option (List UInt8)
  | [] =>
      some []
  | [first, second, '=', '='] => do
      let first ← base64Value? first
      let second ← base64Value? second
      some ((base64Group first second 0 0).take 1)
  | [first, second, third, '='] => do
      let first ← base64Value? first
      let second ← base64Value? second
      let third ← base64Value? third
      some ((base64Group first second third 0).take 2)
  | first :: second :: third :: fourth :: rest => do
      let first ← base64Value? first
      let second ← base64Value? second
      let third ← base64Value? third
      let fourth ← base64Value? fourth
      let bytes ← decodeBase64? rest
      some (base64Group first second third fourth ++ bytes)
  | _ =>
      none

end QueryAgent.Text

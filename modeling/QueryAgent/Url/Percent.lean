import QueryAgent.Text.Digits
import QueryAgent.Text.Utf8

namespace QueryAgent.Url

/-!
# Percent encoding

Characters that a part of an address cannot hold as themselves stand as the
bytes of their UTF-8 form, each in percent form.
-/

/-- The upper-case character of one hexadecimal digit. -/
def upperHexChar
    (digit : Nat) : Char :=
  if digit < 10 then
    Char.ofNat (48 + digit)
  else
    Char.ofNat (55 + digit % 16)

/-- A byte in percent form. -/
def percentByte
    (byte : UInt8) : List Char :=
  ['%', upperHexChar (byte.toNat / 16), upperHexChar (byte.toNat % 16)]

/-- The characters, controls and non-ASCII apart, that a part writes in percent form. -/
abbrev Reserved := List Char

/-- What a path that is not split into segments reserves. -/
def reservedNowhere : Reserved := []

/-- What a fragment reserves. -/
def reservedInFragment : Reserved := " \"<>`".toList

/-- What a query reserves. -/
def reservedInQuery : Reserved := " \"#<>".toList

/-- What a query reserves when the scheme is one of the special ones. -/
def reservedInSpecialQuery : Reserved := '\'' :: reservedInQuery

/-- What a path reserves. -/
def reservedInPath : Reserved := " \"#<>?`\x7b\x7d".toList

/-- What a single segment reserves. -/
def reservedInSegment : Reserved := '/' :: '%' :: reservedInPath

/-- What a single segment reserves when the scheme is one of the special ones. -/
def reservedInSpecialSegment : Reserved := '\\' :: reservedInSegment

/-- What credentials reserve. -/
def reservedInCredentials : Reserved := "/:;=@[\\]^|".toList ++ reservedInPath

/-- A character that a part writes in percent form. -/
def isEscaped
    (reserved : Reserved)
    (character : Char) : Bool :=
  character.toNat < 0x20 || 0x7f ≤ character.toNat || reserved.contains character

/-- A character as a part writes it. -/
def encodeChar
    (reserved : Reserved)
    (character : Char) : List Char :=
  if isEscaped reserved character then
    (Text.encodeChar character).flatMap percentByte
  else
    [character]

/-- A text as a part writes it. -/
def encode
    (reserved : Reserved)
    (content : List Char) : List Char :=
  content.flatMap (encodeChar reserved)

/-- The byte of two hexadecimal digits, none when one is no digit. -/
def byteOfDigits?
    (high low : UInt8) : Option UInt8 := do
  let high ← Text.hexValue? (Char.ofNat high.toNat)
  let low ← Text.hexValue? (Char.ofNat low.toNat)
  some (UInt8.ofNat (high * 16 + low))

/-- Bytes with what is in percent form decoded; a lone percent sign stays. -/
def decodeBytes : List UInt8 → List UInt8
  | 0x25 :: high :: low :: after =>
      match byteOfDigits? high low with
      | some decoded =>
          decoded :: decodeBytes after
      | none =>
          0x25 :: decodeBytes (high :: low :: after)
  | byte :: rest =>
      byte :: decodeBytes rest
  | [] =>
      []

/-- The bytes that a text in percent form stands for. -/
def decode
    (content : List Char) : List UInt8 :=
  decodeBytes (Text.encodeUtf8 content)

/-- The text that a text in percent form stands for, bytes that spell none replaced. -/
def decodeText
    (content : List Char) : List Char :=
  Text.decodeUtf8Lossy (decode content)

end QueryAgent.Url

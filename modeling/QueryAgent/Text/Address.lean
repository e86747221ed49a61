import QueryAgent.Text.Digits
import QueryAgent.Text.Split

namespace QueryAgent.Text

/-!
# Network addresses

Addresses of four bytes in dotted form and of eight groups in the form that
leaves out the first longest run of zeros; and both read back.
-/

/-- Four bytes with dots between them. -/
def showIpv4
    (bytes : List UInt8) : List Char :=
  ['.'].intercalate (bytes.map (fun byte => decimalList byte.toNat))

/-- Two bytes at a time as groups. -/
def groupsOf : List UInt8 → List Nat
  | high :: low :: rest =>
      (high.toNat * 256 + low.toNat) :: groupsOf rest
  | _ =>
      []

/-- The number of zeros at the front. -/
def zeroRun
    (groups : List Nat) : Nat :=
  (groups.takeWhile (· == 0)).length

/-- Where the first longest run of zeros begins and how long it is. -/
def longestZeroRun
    (index : Nat) : List Nat → Nat × Nat
  | [] =>
      (index, 0)
  | group :: rest =>
      let here := zeroRun (group :: rest)
      let (later, length) := longestZeroRun (index + 1) rest
      if here < length then
        (later, length)
      else
        (index, here)

/-- Groups in hexadecimal with colons between them. -/
def showGroups
    (groups : List Nat) : List Char :=
  [':'].intercalate (groups.map hexadecimalList)

/-- Eight groups; a run of two zeros or more is left out, the first of the longest. -/
def showIpv6Groups
    (groups : List Nat) : List Char :=
  let (start, length) := longestZeroRun 0 groups
  if 1 < length then
    showGroups (groups.take start) ++ [':', ':'] ++ showGroups (groups.drop (start + length))
  else
    showGroups groups

/-- Sixteen bytes; an address of four bytes in disguise shows them with dots. -/
def showIpv6
    (bytes : List UInt8) : List Char :=
  if bytes.take 12 = [0, 0, 0, 0, 0, 0, 0, 0, 0, 0, 255, 255] then
    "::ffff:".toList ++ showIpv4 (bytes.drop 12)
  else
    showIpv6Groups (groupsOf bytes)

/-- One byte of an address in dotted form, without leading zeros. -/
def readByte?
    (digits : List Char) : Option Nat :=
  match readDecimal? digits with
  | some number =>
      if number < 256 && decimalList number == digits then some number else none
  | none =>
      none

/-- The four bytes of an address in dotted form. -/
def readIpv4?
    (content : List Char) : Option (List Nat) :=
  match (splitAll (· == '.') content).mapM readByte? with
  | some [first, second, third, fourth] =>
      some [first, second, third, fourth]
  | _ =>
      none

/-- One group of up to four hexadecimal digits. -/
def readGroup?
    (digits : List Char) : Option Nat :=
  if 1 ≤ digits.length && digits.length ≤ 4 then
    readHexadecimal? digits
  else
    none

/-- The two groups of an address of four bytes in dotted form. -/
def readDotted?
    (content : List Char) : Option (List Nat) :=
  match readIpv4? content with
  | some [first, second, third, fourth] =>
      some [first * 256 + second, third * 256 + fourth]
  | _ =>
      none

/-- Groups with colons between them; where allowed the last may be dotted. -/
def readGroups?
    (mayEndDotted : Bool) : List (List Char) → Option (List Nat)
  | [] =>
      some []
  | [last] =>
      if mayEndDotted && last.contains '.' then
        readDotted? last
      else
        (readGroup? last).map fun group => [group]
  | part :: rest => do
      let group ← readGroup? part
      let groups ← readGroups? mayEndDotted rest
      some (group :: groups)

/-- The groups of a text that may be empty. -/
def readRun?
    (mayEndDotted : Bool)
    (content : List Char) : Option (List Nat) :=
  if content.isEmpty then
    some []
  else
    readGroups? mayEndDotted (splitAll (· == ':') content)

/-- What stands before two colons in a row and after them, none without them. -/
def splitDoubleColon? : List Char → Option (List Char × List Char)
  | [] =>
      none
  | character :: rest =>
      match afterFront? [':', ':'] (character :: rest) with
      | some after =>
          some ([], after)
      | none =>
          (splitDoubleColon? rest).map fun parts => (character :: parts.1, parts.2)

/-- The eight groups of an address; two colons stand for the zeros left out. -/
def readIpv6?
    (content : List Char) : Option (List Nat) :=
  match splitDoubleColon? content with
  | some (before, after) => do
      let front ← readRun? false before
      let back ← readRun? true after
      if front.length + back.length < 8 then
        some (front ++ List.replicate (8 - front.length - back.length) 0 ++ back)
      else
        none
  | none =>
      (readRun? true content).filter (fun groups => groups.length == 8)

end QueryAgent.Text

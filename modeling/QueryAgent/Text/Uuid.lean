import QueryAgent.Text.Digits
import QueryAgent.Text.Split

namespace QueryAgent.Text

/-!
# Universally unique identifiers

How sixteen bytes are written, and how sixteen random bytes are marked as such.
-/

/-- Sixteen bytes in groups of four, two, two, two and six. -/
def uuid
    (bytes : List UInt8) : String :=
  let digits := bytes.flatMap hexByte
  String.ofList
    (digits.take 8 ++ '-' :: (digits.drop 8).take 4 ++ '-' :: (digits.drop 12).take 4
      ++ '-' :: (digits.drop 16).take 4 ++ '-' :: digits.drop 20)

/-- Marks a byte with its place: the version in the seventh, the variant in the ninth. -/
def markRandom
    (place : Nat)
    (byte : UInt8) : UInt8 :=
  match place with
  | 6 => 0x40 ||| (byte &&& 0x0f)
  | 8 => 0x80 ||| (byte &&& 0x3f)
  | _ => byte

/-- The identifier that random bytes give: version four, the usual variant. -/
def randomUuid
    (bytes : List UInt8) : String :=
  uuid (bytes.mapIdx markRandom)

/-- The lengths of the groups of an identifier. -/
def uuidGroups : List Nat :=
  [8, 4, 4, 4, 12]

/-- A lower-case hexadecimal digit. -/
def isLowerHex
    (character : Char) : Bool :=
  character.isDigit || ('a' ≤ character && character ≤ 'f')

/-- Whether a text is an identifier that random bytes give. -/
def isRandomUuid
    (content : List Char) : Bool :=
  let groups := splitAll (· == '-') content
  groups.map List.length = uuidGroups
    && groups.all (fun group => group.all isLowerHex)
    && (groups.getD 2 []).head? = some '4'
    && ['8', '9', 'a', 'b'].contains ((groups.getD 3 []).headD '0')

end QueryAgent.Text

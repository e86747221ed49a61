import QueryAgent.Json.Node
import QueryAgent.Text.Utf8

namespace QueryAgent.Json

/-!
# Reading documents

From characters to the tree of a document.  Reading never fails: what cannot
be read becomes a fault in the tree.
-/

/-- A blank between tokens. -/
def isSpace
    (character : Char) : Bool :=
  character = ' ' || character = '\n' || character = '\t' || character = '\r'

/-- Drops the blanks in front. -/
def skipSpaces
    (source : List Char) : List Char :=
  source.dropWhile isSpace

/-- Reads what is left of a word after its first letter. -/
def readWord : List Char → List Char → Except Fault (List Char)
  | [], rest =>
      .ok rest
  | _ :: _, [] =>
      .error .wordCut
  | letter :: letters, character :: rest =>
      if character = letter then
        readWord letters rest
      else
        .error .wordMisspelled

/-- A number at fault, by whether the text ends there. -/
def numberFault : List Char → Fault
  | [] =>
      .numberCut
  | _ :: _ =>
      .numberMalformed

/-- Digits in front and what follows them, at least one. -/
def readDigits
    (source : List Char) : Except Fault (List Char × List Char) :=
  let digits := source.takeWhile Char.isDigit
  if digits.isEmpty then
    .error (numberFault source)
  else
    .ok (digits, source.dropWhile Char.isDigit)

/-- The digits before the point; a zero in front stands alone. -/
def readWhole
    (source : List Char) : Except Fault (List Char × List Char) :=
  match source with
  | '0' :: rest =>
      match rest with
      | next :: _ =>
          if next.isDigit then
            .error .numberMalformed
          else
            .ok (['0'], rest)
      | [] =>
          .ok (['0'], [])
  | source =>
      readDigits source

/-- The digits after the point, none when there is no point. -/
def readFraction : List Char → Except Fault (List Char × List Char)
  | '.' :: rest =>
      readDigits rest
  | source =>
      .ok ([], source)

/-- The sign in front of an exponent's digits: whether it is a minus. -/
def readExponentSign : List Char → Bool × List Char
  | '-' :: rest =>
      (true, rest)
  | '+' :: rest =>
      (false, rest)
  | source =>
      (false, source)

/-- The power of ten, none when there is no mark for one. -/
def readExponent
    (source : List Char) : Except Fault (Option Int × List Char) :=
  match source with
  | mark :: rest =>
      if mark = 'e' || mark = 'E' then do
        let (negative, rest) := readExponentSign rest
        let (digits, rest) ← readDigits rest
        let magnitude : Int := Text.foldDigits 0 digits
        .ok (some (if negative then -magnitude else magnitude), rest)
      else
        .ok (none, source)
  | [] =>
      .ok (none, [])

/-- A number after its sign. -/
def readUnsigned
    (negative : Bool)
    (source : List Char) : Except Fault (NumberLiteral × List Char) := do
  let (whole, source) ← readWhole source
  let (fraction, source) ← readFraction source
  let (exponent, source) ← readExponent source
  .ok (⟨negative, whole, fraction, exponent⟩, source)

/-- A number. -/
def readNumber : List Char → Except Fault (NumberLiteral × List Char)
  | '-' :: rest =>
      readUnsigned true rest
  | source =>
      readUnsigned false source

/-- A part of a text: a character, or a code unit given by its number. -/
inductive TextPiece where
  | character (value : Char)
  | unit (value : Nat)
deriving Repr, DecidableEq

/-- The character of a one-letter escape. -/
def escaped? : Char → Option Char
  | '"' => some '"'
  | '\\' => some '\\'
  | '/' => some '/'
  | 'b' => some (Char.ofNat 8)
  | 'f' => some (Char.ofNat 12)
  | 'n' => some '\n'
  | 'r' => some '\r'
  | 't' => some '\t'
  | _ => none

/-- The number of bytes that characters stand for, a marker for one. -/
def markedByteCount
    (marker : Option Char)
    (source : List Char) : Nat :=
  (source.map fun character =>
    if marker = some character then 1 else character.utf8Size).foldr (· + ·) 0

/--
Reads the pieces of a text after the opening quote, and what follows the
closing one or the fault that was met instead.  A code unit is named by four
bytes: where fewer are left the text has no end, whatever they are.
-/
def readPieces
    (marker : Option Char) :
    List Char → List TextPiece × Except Fault (List Char)
  | [] =>
      ([], .error .textUnclosed)
  | '"' :: rest =>
      ([], .ok rest)
  | '\\' :: [] =>
      ([], .error .textUnclosed)
  | '\\' :: 'u' :: first :: second :: third :: fourth :: rest =>
      match Text.readHexadecimal? [first, second, third, fourth] with
      | some unit =>
          let (pieces, ending) := readPieces marker rest
          (.unit unit :: pieces, ending)
      | none =>
          ([], .error .escapeMalformed)
  | '\\' :: 'u' :: rest =>
      if markedByteCount marker rest < 4 then
        ([], .error .textUnclosed)
      else
        ([], .error .escapeMalformed)
  | '\\' :: letter :: rest =>
      match escaped? letter with
      | some character =>
          let (pieces, ending) := readPieces marker rest
          (.character character :: pieces, ending)
      | none =>
          ([], .error .escapeUnknown)
  | character :: rest =>
      if character.toNat < 32 then
        ([], .error .controlCharacter)
      else
        let (pieces, ending) := readPieces marker rest
        (.character character :: pieces, ending)

/-- The first half of a pair of code units. -/
def isLeadingUnit
    (unit : Nat) : Bool :=
  0xd800 ≤ unit && unit ≤ 0xdbff

/-- The second half of a pair of code units. -/
def isTrailingUnit
    (unit : Nat) : Bool :=
  0xdc00 ≤ unit && unit ≤ 0xdfff

/-- The character that two halves stand for. -/
def pairedUnits
    (leading trailing : Nat) : Char :=
  Char.ofNat ((leading - 0xd800) * 1024 + (trailing - 0xdc00) + 0x10000)

/-- What follows a first half at the place where the pieces end. -/
def unpairedFault : Option Fault → Fault
  | some .textUnclosed =>
      .textUnclosed
  | some .escapeMalformed =>
      .escapeMalformed
  | _ =>
      .surrogateUnpaired

/-- Joins pieces to characters, pairing the halves of characters. -/
def joinPieces
    (ending : Option Fault) : List TextPiece → Except Fault (List Char)
  | [] =>
      match ending with
      | some fault =>
          .error fault
      | none =>
          .ok []
  | .character value :: rest => do
      let characters ← joinPieces ending rest
      .ok (value :: characters)
  | .unit leading :: .unit trailing :: rest => do
      if isTrailingUnit leading then
        .error .surrogateAlone
      else if isLeadingUnit leading then
        if isTrailingUnit trailing then
          let characters ← joinPieces ending rest
          .ok (pairedUnits leading trailing :: characters)
        else
          .error .surrogateAlone
      else
        let characters ← joinPieces ending (.unit trailing :: rest)
        .ok (Char.ofNat leading :: characters)
  | .unit value :: rest => do
      if isTrailingUnit value then
        .error .surrogateAlone
      else if isLeadingUnit value then
        match rest with
        | [] =>
            .error (unpairedFault ending)
        | _ :: _ =>
            .error .surrogateUnpaired
      else
        let characters ← joinPieces ending rest
        .ok (Char.ofNat value :: characters)

/-- Refuses a text in which a character stands for bytes that are no text. -/
def refuseMarked
    (marker : Option Char)
    (characters : List Char) : Except Fault String :=
  match marker with
  | some refused =>
      if characters.contains refused then
        .error .bytesNotText
      else
        .ok (String.ofList characters)
  | none =>
      .ok (String.ofList characters)

/-- Reads a text after the opening quote. -/
def readText
    (marker : Option Char)
    (text : List Char) : TextLiteral × Option (List Char) :=
  match readPieces marker text with
  | (pieces, .ok rest) =>
      (⟨(joinPieces none pieces).bind (refuseMarked marker), none⟩, some rest)
  | (pieces, .error fault) =>
      (⟨(joinPieces (some fault) pieces).bind (refuseMarked marker), some fault⟩, none)

/-- A word that stands for a value. -/
def nodeOfWord
    (value : Node) : Except Fault (List Char) → Node × Option (List Char)
  | .ok rest =>
      (value, some rest)
  | .error fault =>
      (.broken fault, none)

/-- A number, or the fault in its place. -/
def nodeOfNumber : Except Fault (NumberLiteral × List Char) → Node × Option (List Char)
  | .ok (literal, rest) =>
      (.number literal, some rest)
  | .error fault =>
      (.broken fault, none)

mutual

/-- Reads a value, with fuel for each value, item and member below it. -/
def readNode
    (marker : Option Char) : Nat → List Char → Node × Option (List Char)
  | 0, _ =>
      (.broken .valueMissing, none)
  | fuel + 1, source =>
      match skipSpaces source with
      | [] =>
          (.broken .valueMissing, none)
      | 'n' :: rest =>
          nodeOfWord .null (readWord ['u', 'l', 'l'] rest)
      | 't' :: rest =>
          nodeOfWord (.boolean true) (readWord ['r', 'u', 'e'] rest)
      | 'f' :: rest =>
          nodeOfWord (.boolean false) (readWord ['a', 'l', 's', 'e'] rest)
      | '"' :: rest =>
          let (literal, rest) := readText marker rest
          (.text literal, rest)
      | '[' :: rest =>
          let (items, ending, rest) := readItems marker fuel true rest
          (.list items ending, rest)
      | '\x7b' :: rest =>
          match skipSpaces rest with
          | [] =>
              (.object [] (some .objectUnclosed), none)
          | next :: _ =>
              if next = '"' || next = '\x7d' then
                let (members, ending, rest) := readMembers marker fuel true rest
                (.object members ending, rest)
              else
                (.keyless (readNode marker fuel rest).1, none)
      | character :: rest =>
          if character = '-' || character.isDigit then
            nodeOfNumber (readNumber (character :: rest))
          else
            (.broken .valueExpected, none)

/-- Reads items up to the closing bracket. -/
def readItems
    (marker : Option Char) :
    Nat → Bool → List Char → List Node × Option Fault × Option (List Char)
  | 0, _, _ =>
      ([], some .listUnclosed, none)
  | fuel + 1, first, source =>
      match skipSpaces source with
      | [] =>
          ([], some .listUnclosed, none)
      | ']' :: rest =>
          ([], none, some rest)
      | character :: rest =>
          if first then
            readItem marker fuel (character :: rest)
          else if character = ',' then
            match skipSpaces rest with
            | [] =>
                ([], some .listCutAfterComma, none)
            | ']' :: _ =>
                ([], some .listTrailingComma, none)
            | next =>
                readItem marker fuel next
          else
            ([], some .listSeparatorExpected, none)

/-- Reads an item and those after it. -/
def readItem
    (marker : Option Char) :
    Nat → List Char → List Node × Option Fault × Option (List Char)
  | 0, _ =>
      ([], some .listUnclosed, none)
  | fuel + 1, source =>
      match readNode marker fuel source with
      | (item, none) =>
          ([item], none, none)
      | (item, some rest) =>
          let (items, ending, rest) := readItems marker fuel false rest
          (item :: items, ending, rest)

/-- Reads members up to the closing brace. -/
def readMembers
    (marker : Option Char) :
    Nat → Bool → List Char →
      List (TextLiteral × Node) × Option Fault × Option (List Char)
  | 0, _, _ =>
      ([], some .objectUnclosed, none)
  | fuel + 1, first, source =>
      match skipSpaces source with
      | [] =>
          ([], some .objectUnclosed, none)
      | '\x7d' :: rest =>
          ([], none, some rest)
      | character :: rest =>
          if first then
            if character = '"' then
              readMember marker fuel rest
            else
              ([], some .keyNotText, none)
          else if character = ',' then
            match skipSpaces rest with
            | [] =>
                ([], some .objectCutAfterComma, none)
            | '"' :: rest =>
                readMember marker fuel rest
            | '\x7d' :: _ =>
                ([], some .objectTrailingComma, none)
            | _ =>
                ([], some .keyNotText, none)
          else
            ([], some .objectSeparatorExpected, none)

/-- Reads a member, after the quote that opens its name, and those after it. -/
def readMember
    (marker : Option Char) :
    Nat → List Char →
      List (TextLiteral × Node) × Option Fault × Option (List Char)
  | 0, _ =>
      ([], some .objectUnclosed, none)
  | fuel + 1, source =>
      match readText marker source with
      | (name, none) =>
          ([(name, .broken .textUnclosed)], none, none)
      | (name, some rest) =>
          match skipSpaces rest with
          | [] =>
              ([(name, .broken .objectUnclosed)], none, none)
          | ':' :: rest =>
              match readNode marker fuel rest with
              | (value, none) =>
                  ([(name, value)], none, none)
              | (value, some rest) =>
                  let (members, ending, rest) := readMembers marker fuel false rest
                  ((name, value) :: members, ending, rest)
          | _ =>
              ([(name, .broken .colonExpected)], none, none)

end

/-- Fuel that no text of the given length uses up. -/
def readingFuel
    (source : List Char) : Nat :=
  3 * source.length + 3

/-- Reads a document in which a character may stand for bytes that are no text. -/
def readMarked
    (marker : Option Char)
    (source : List Char) : Document :=
  match readNode marker (readingFuel source) source with
  | (root, none) =>
      ⟨root, none⟩
  | (root, some rest) =>
      if (skipSpaces rest).isEmpty then
        ⟨root, none⟩
      else
        ⟨root, some .trailingCharacters⟩

/-- Reads the document that a text holds. -/
def read
    (source : String) : Document :=
  readMarked none source.toList

/-- Decodes bytes with a marker in place of each byte that is no text. -/
def decodeMarking
    (marker : Char)
    (bytes : List UInt8) : List Char :=
  match bytes with
  | [] =>
      []
  | lead :: rest =>
      match step : Text.decodeStep lead rest with
      | .character value after =>
          have := Text.decodeStep_rest_length step
          value :: decodeMarking marker after
      | .fault _ =>
          marker :: decodeMarking marker rest
termination_by bytes.length
decreasing_by
  all_goals
    simp only [List.length_cons]
    omega

/-- A character of the private use area that bytes do not hold. -/
def unusedCharacter
    (bytes : List UInt8) : Char :=
  let held := decodeMarking 'x' bytes
  let candidates :=
    (List.range (bytes.length + 1)).map (fun index => Char.ofNat (0xf0000 + index))
  (candidates.find? (fun candidate => !held.contains candidate)).getD 'x'

/-- Reads the document that bytes hold; bytes that are no text are a fault. -/
def readBytes
    (bytes : List UInt8) : Document :=
  match Text.decodeUtf8 bytes with
  | .ok characters =>
      readMarked none characters
  | .error _ =>
      let marker := unusedCharacter bytes
      readMarked (some marker) (decodeMarking marker bytes)

end QueryAgent.Json

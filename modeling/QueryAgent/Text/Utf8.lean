namespace QueryAgent.Text

/-!
# UTF-8

Bytes to characters and back.  Decoding refuses overlong forms, surrogates,
code points past the last plane and cut sequences, and says where the first
fault lies and how many bytes it spans.
-/

/-- The first place at which bytes stop being UTF-8. -/
structure Utf8Fault where
  validUpTo : Nat
  faultLength : Option Nat
deriving Repr, DecidableEq

/-- Says which bytes are at fault; a sequence cut by the end has no length. -/
def Utf8Fault.message
    (fault : Utf8Fault) : String :=
  match fault.faultLength with
  | some length =>
      "invalid utf-8 sequence of " ++ toString length
        ++ " bytes from index " ++ toString fault.validUpTo
  | none =>
      "incomplete utf-8 byte sequence from index " ++ toString fault.validUpTo

/-- The bytes of one character. -/
def encodeChar
    (character : Char) : List UInt8 :=
  let code := character.toNat
  if code < 0x80 then
    [UInt8.ofNat code]
  else if code < 0x800 then
    [UInt8.ofNat (0xc0 + code / 64), UInt8.ofNat (0x80 + code % 64)]
  else if code < 0x10000 then
    [UInt8.ofNat (0xe0 + code / 4096),
      UInt8.ofNat (0x80 + code / 64 % 64),
      UInt8.ofNat (0x80 + code % 64)]
  else
    [UInt8.ofNat (0xf0 + code / 262144),
      UInt8.ofNat (0x80 + code / 4096 % 64),
      UInt8.ofNat (0x80 + code / 64 % 64),
      UInt8.ofNat (0x80 + code % 64)]

/-- The bytes of a text. -/
def encodeUtf8
    (characters : List Char) : List UInt8 :=
  characters.flatMap encodeChar

/-- The number of bytes that characters take. -/
def byteCount
    (characters : List Char) : Nat :=
  (characters.map Char.utf8Size).foldr (· + ·) 0

/-- The characters that begin within so many bytes, and those after them. -/
def splitAtByte : Nat → List Char → List Char × List Char
  | _, [] =>
      ([], [])
  | 0, characters =>
      ([], characters)
  | bytes + 1, character :: rest =>
      let (before, after) := splitAtByte (bytes + 1 - character.utf8Size) rest
      (character :: before, after)

/-- A byte that continues a sequence. -/
def isContinuation
    (byte : UInt8) : Bool :=
  0x80 ≤ byte && byte ≤ 0xbf

/-- What the bytes at the front are. -/
inductive Utf8Step where
  | character (value : Char) (rest : List UInt8)
  | fault (length : Option Nat)
deriving Repr

/-- The six low bits of a continuation byte. -/
def payloadBits
    (byte : UInt8) : Nat :=
  byte.toNat % 64

/-- The second bytes allowed after a three-byte lead. -/
def allowsSecondOfThree
    (lead second : UInt8) : Bool :=
  if lead == 0xe0 then
    0xa0 ≤ second && second ≤ 0xbf
  else if lead == 0xed then
    0x80 ≤ second && second ≤ 0x9f
  else
    isContinuation second

/-- The second bytes allowed after a four-byte lead. -/
def allowsSecondOfFour
    (lead second : UInt8) : Bool :=
  if lead == 0xf0 then
    0x90 ≤ second && second ≤ 0xbf
  else if lead == 0xf4 then
    0x80 ≤ second && second ≤ 0x8f
  else
    isContinuation second

/-- Reads one character from a lead byte and what follows it. -/
def decodeStep
    (lead : UInt8)
    (rest : List UInt8) : Utf8Step :=
  if lead < 0x80 then
    .character (Char.ofNat lead.toNat) rest
  else if 0xc2 ≤ lead && lead ≤ 0xdf then
    match rest with
    | [] =>
        .fault none
    | second :: rest =>
        if isContinuation second then
          .character
            (Char.ofNat (lead.toNat % 32 * 64 + payloadBits second)) rest
        else
          .fault (some 1)
  else if 0xe0 ≤ lead && lead ≤ 0xef then
    match rest with
    | [] =>
        .fault none
    | second :: rest =>
        if !allowsSecondOfThree lead second then
          .fault (some 1)
        else
          match rest with
          | [] =>
              .fault none
          | third :: rest =>
              if isContinuation third then
                .character
                  (Char.ofNat
                    (lead.toNat % 16 * 4096 + payloadBits second * 64
                      + payloadBits third)) rest
              else
                .fault (some 2)
  else if 0xf0 ≤ lead && lead ≤ 0xf4 then
    match rest with
    | [] =>
        .fault none
    | second :: rest =>
        if !allowsSecondOfFour lead second then
          .fault (some 1)
        else
          match rest with
          | [] =>
              .fault none
          | third :: rest =>
              if !isContinuation third then
                .fault (some 2)
              else
                match rest with
                | [] =>
                    .fault none
                | fourth :: rest =>
                    if isContinuation fourth then
                      .character
                        (Char.ofNat
                          (lead.toNat % 8 * 262144 + payloadBits second * 4096
                            + payloadBits third * 64 + payloadBits fourth)) rest
                    else
                      .fault (some 3)
  else
    .fault (some 1)

/-- A character read takes at least its lead byte. -/
theorem decodeStep_rest_length
    {lead : UInt8}
    {rest after : List UInt8}
    {value : Char}
    (step : decodeStep lead rest = .character value after) :
    after.length ≤ rest.length := by
  unfold decodeStep at step
  repeat' split at step
  all_goals
    first
    | contradiction
    | (cases step; simp; try omega)

/-- Decodes bytes that begin at the given index. -/
def decodeUtf8From
    (index : Nat)
    (bytes : List UInt8) : Except Utf8Fault (List Char) :=
  match bytes with
  | [] =>
      .ok []
  | lead :: rest =>
      match step : decodeStep lead rest with
      | .character value after =>
          have := decodeStep_rest_length step
          match decodeUtf8From (index + (rest.length + 1 - after.length)) after with
          | .ok characters =>
              .ok (value :: characters)
          | .error fault =>
              .error fault
      | .fault length =>
          .error ⟨index, length⟩
termination_by bytes.length
decreasing_by
  simp only [List.length_cons]
  omega

/-- Decodes bytes to the characters they spell. -/
def decodeUtf8
    (bytes : List UInt8) : Except Utf8Fault (List Char) :=
  decodeUtf8From 0 bytes

/-- The character that stands for bytes that spell none. -/
def replacementChar : Char := Char.ofNat 0xfffd

/-- Decodes bytes, with one replacement character for each fault. -/
def decodeUtf8Lossy
    (bytes : List UInt8) : List Char :=
  match bytes with
  | [] =>
      []
  | lead :: rest =>
      match step : decodeStep lead rest with
      | .character value after =>
          have := decodeStep_rest_length step
          value :: decodeUtf8Lossy after
      | .fault (some length) =>
          replacementChar :: decodeUtf8Lossy (rest.drop (length - 1))
      | .fault none =>
          [replacementChar]
termination_by bytes.length
decreasing_by
  all_goals
    simp only [List.length_cons, List.length_drop]
    omega

end QueryAgent.Text

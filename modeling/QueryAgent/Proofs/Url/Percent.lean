import QueryAgent.Proofs.Text.Utf8
import QueryAgent.Url.Segment

namespace QueryAgent.Url

/-!
# Percent encoding read back

A part of an address that writes the percent sign itself in percent form is
read back as the text it stands for, so it stands for no other text.
-/

/-! ## Single bytes -/

/-- A byte that is no percent sign stands for itself. -/
theorem decodeBytes_cons
    {byte : UInt8}
    (plain : byte ≠ 0x25)
    (rest : List UInt8) :
    decodeBytes (byte :: rest) = byte :: decodeBytes rest := by
  rw [decodeBytes.eq_def]
  split
  next same =>
      exact absurd (List.cons.inj same).1 plain
  next same =>
      obtain ⟨rfl, rfl⟩ := List.cons.inj same
      rfl
  next same =>
      cases same

/-- The byte of an upper-case hexadecimal digit is read as the digit. -/
theorem hexValue?_upperHexChar :
    ∀ digit < 16,
      Text.hexValue? (Char.ofNat (UInt8.ofNat (upperHexChar digit).toNat).toNat) =
        some digit := by
  decide

/-- The digits of a byte are ASCII. -/
theorem encodeChar_upperHexChar :
    ∀ digit < 16,
      Text.encodeChar (upperHexChar digit) = [UInt8.ofNat (upperHexChar digit).toNat] := by
  decide

/-- A byte in percent form is read as the byte. -/
theorem decodeBytes_percentByte
    (byte : UInt8)
    (rest : List UInt8) :
    decodeBytes (Text.encodeUtf8 (percentByte byte) ++ rest) = byte :: decodeBytes rest := by
  have high : byte.toNat / 16 < 16 := by
    have := byte.toNat_lt
    omega
  have low : byte.toNat % 16 < 16 := Nat.mod_lt _ (by decide)
  have spelled : byte.toNat / 16 * 16 + byte.toNat % 16 = byte.toNat := by
    omega
  have bytes :
      Text.encodeUtf8 (percentByte byte) =
        [0x25, UInt8.ofNat (upperHexChar (byte.toNat / 16)).toNat,
          UInt8.ofNat (upperHexChar (byte.toNat % 16)).toNat] := by
    simp only [Text.encodeUtf8, percentByte, List.flatMap_cons, List.flatMap_nil,
      encodeChar_upperHexChar _ high, encodeChar_upperHexChar _ low]
    rfl
  have pair :
      byteOfDigits? (UInt8.ofNat (upperHexChar (byte.toNat / 16)).toNat)
          (UInt8.ofNat (upperHexChar (byte.toNat % 16)).toNat) =
        some byte := by
    rw [byteOfDigits?, hexValue?_upperHexChar _ high, hexValue?_upperHexChar _ low]
    change some (UInt8.ofNat (byte.toNat / 16 * 16 + byte.toNat % 16)) = some byte
    rw [spelled, UInt8.ofNat_toNat]
  rw [bytes, List.cons_append, List.cons_append, List.cons_append, List.nil_append,
    decodeBytes, pair]

/-- Bytes in percent form are read as the bytes. -/
theorem decodeBytes_percentBytes
    (bytes rest : List UInt8) :
    decodeBytes (Text.encodeUtf8 (bytes.flatMap percentByte) ++ rest) =
      bytes ++ decodeBytes rest := by
  induction bytes with
  | nil =>
      rfl
  | cons byte others inductionHypothesis =>
      rw [List.flatMap_cons, Text.encodeUtf8, List.flatMap_append, List.append_assoc]
      exact
        (decodeBytes_percentByte byte _).trans
          (congrArg (byte :: ·) inductionHypothesis)

/-! ## Texts -/

section
variable {reserved : Reserved} (escapesPercent : '%' ∈ reserved)
include escapesPercent

/-- What is written for a character is read as the bytes of the character. -/
theorem decodeBytes_encodeChar
    (character : Char)
    (rest : List UInt8) :
    decodeBytes (Text.encodeUtf8 (encodeChar reserved character) ++ rest) =
      Text.encodeChar character ++ decodeBytes rest := by
  unfold encodeChar
  split
  next escaped =>
      exact decodeBytes_percentBytes _ rest
  next kept =>
      simp only [isEscaped, Bool.or_eq_true, decide_eq_true_eq, not_or,
        List.contains_iff_mem] at kept
      obtain ⟨⟨_, ascii⟩, unreserved⟩ := kept
      have single : Text.encodeChar character = [UInt8.ofNat character.toNat] := by
        rw [Text.encodeChar, if_pos (by omega)]
      have plain : UInt8.ofNat character.toNat ≠ 0x25 := by
        intro same
        have number := congrArg UInt8.toNat same
        rw [Text.toNat_byte (by omega)] at number
        have percent : character = '%' := Char.toNat_inj.mp number
        exact unreserved (percent ▸ escapesPercent)
      rw [Text.encodeUtf8, List.flatMap_cons, List.flatMap_nil, List.append_nil, single,
        List.singleton_append, decodeBytes_cons plain]
      rfl

/-- The bytes that a written part stands for are those of the text. -/
theorem decode_encode
    (content : List Char) :
    decode (encode reserved content) = Text.encodeUtf8 content := by
  induction content with
  | nil =>
      rfl
  | cons character rest inductionHypothesis =>
      rw [decode, encode, List.flatMap_cons, Text.encodeUtf8, List.flatMap_append]
      exact
        (decodeBytes_encodeChar escapesPercent character _).trans
          (congrArg (Text.encodeChar character ++ ·) inductionHypothesis)

/-- A written part is read as the text it stands for. -/
theorem decodeText_encode
    (content : List Char) :
    decodeText (encode reserved content) = content := by
  rw [decodeText, decode_encode escapesPercent, Text.decodeUtf8Lossy_encodeUtf8]

/-- Different texts are written in different ways. -/
theorem encode_injective :
    Function.Injective (encode reserved) :=
  Function.LeftInverse.injective (decodeText_encode escapesPercent)

end

/-! ## Segments -/

/-- What a segment of an address with a scheme reserves. -/
def segmentReserved
    (scheme : List Char) : Reserved :=
  if isSpecialScheme scheme then reservedInSpecialSegment else reservedInSegment

theorem percent_mem_segmentReserved
    (scheme : List Char) :
    '%' ∈ segmentReserved scheme := by
  unfold segmentReserved
  split <;> decide

theorem slash_mem_segmentReserved
    (scheme : List Char) :
    '/' ∈ segmentReserved scheme := by
  unfold segmentReserved
  split <;> decide

theorem segmentReserved_noAlphanum
    (scheme : List Char) :
    (segmentReserved scheme).all (fun mark => !mark.isAlphanum) = true := by
  unfold segmentReserved
  split <;> decide

/-- No digit of a byte in percent form is a slash. -/
theorem upperHexChar_ne_slash :
    ∀ digit < 16, upperHexChar digit ≠ '/' := by
  decide

/-- No slash stands in the percent form of a byte. -/
theorem slash_not_mem_percentByte
    (byte : UInt8) :
    '/' ∉ percentByte byte := by
  intro member
  have high : byte.toNat / 16 < 16 := by
    have := byte.toNat_lt
    omega
  simp only [percentByte, List.mem_cons, List.not_mem_nil, or_false] at member
  rcases member with percent | first | second
  · cases percent
  · exact upperHexChar_ne_slash _ high first.symm
  · exact upperHexChar_ne_slash _ (Nat.mod_lt _ (by decide)) second.symm

/-- Only a slash that a part does not reserve is written as a slash. -/
theorem slash_mem_of_mem_encode
    {reserved : Reserved}
    {content : List Char}
    (member : '/' ∈ encode reserved content) :
    '/' ∈ content ∧ '/' ∉ reserved := by
  obtain ⟨character, inContent, written⟩ := List.mem_flatMap.mp member
  unfold encodeChar at written
  split at written
  next escaped =>
      obtain ⟨byte, _, place⟩ := List.mem_flatMap.mp written
      exact absurd place (slash_not_mem_percentByte byte)
  next kept =>
      obtain rfl := List.mem_singleton.mp written
      refine ⟨inContent, fun escapesSlash => kept ?_⟩
      rw [isEscaped, List.contains_iff_mem.mpr escapesSlash, Bool.or_true]

/-- A part that writes the slash in percent form holds none. -/
theorem slash_not_mem_encode
    {reserved : Reserved}
    (escapesSlash : '/' ∈ reserved)
    (content : List Char) :
    '/' ∉ encode reserved content :=
  fun member => (slash_mem_of_mem_encode member).2 escapesSlash

end QueryAgent.Url

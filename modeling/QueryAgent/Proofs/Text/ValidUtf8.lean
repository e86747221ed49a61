import QueryAgent.Proofs.Text.Utf8

namespace QueryAgent.Text

/-!
# Valid encodings

Bytes are decoded exactly when they are the standard encoding of a text, and
then to that text: a character that is read from bytes has just those bytes, so
overlong forms, halves of pairs, codes past the last and cut sequences are all
refused.
-/

/-! ## What is read from single bytes -/

/-- A byte is the byte of its number. -/
theorem byte_of_number
    {number : Nat}
    {byte : UInt8}
    (same : number = byte.toNat) :
    UInt8.ofNat number = byte := by
  rw [same, UInt8.ofNat_toNat]

theorem isContinuation_iff
    {byte : UInt8} :
    isContinuation byte = true ↔ 0x80 ≤ byte.toNat ∧ byte.toNat ≤ 0xbf :=
  between_iff

/-- The second of three bytes continues, and makes no overlong form and no half of a pair. -/
theorem bounds_of_allowsSecondOfThree
    {lead second : UInt8}
    (allowed : allowsSecondOfThree lead second = true) :
    (0x80 ≤ second.toNat ∧ second.toNat ≤ 0xbf)
      ∧ (lead.toNat = 0xe0 → 0xa0 ≤ second.toNat)
      ∧ (lead.toNat = 0xed → second.toNat ≤ 0x9f) := by
  simp only [allowsSecondOfThree, beq_iff_eq, ← UInt8.toNat_inj] at allowed
  split at allowed
  next least =>
      have inRange : 0xa0 ≤ second.toNat ∧ second.toNat ≤ 0xbf := between_iff.mp allowed
      have number : lead.toNat = 0xe0 := least
      omega
  next notLeast =>
      split at allowed
      next surrogates =>
          have inRange : 0x80 ≤ second.toNat ∧ second.toNat ≤ 0x9f := between_iff.mp allowed
          have number : lead.toNat = 0xed := surrogates
          omega
      next notSurrogates =>
          have continues := isContinuation_iff.mp allowed
          exact ⟨continues, fun least => absurd least notLeast,
            fun surrogates => absurd surrogates notSurrogates⟩

/-- The second of four bytes continues, and makes no overlong form and no code past the last. -/
theorem bounds_of_allowsSecondOfFour
    {lead second : UInt8}
    (allowed : allowsSecondOfFour lead second = true) :
    (0x80 ≤ second.toNat ∧ second.toNat ≤ 0xbf)
      ∧ (lead.toNat = 0xf0 → 0x90 ≤ second.toNat)
      ∧ (lead.toNat = 0xf4 → second.toNat ≤ 0x8f) := by
  simp only [allowsSecondOfFour, beq_iff_eq, ← UInt8.toNat_inj] at allowed
  split at allowed
  next least =>
      have inRange : 0x90 ≤ second.toNat ∧ second.toNat ≤ 0xbf := between_iff.mp allowed
      have number : lead.toNat = 0xf0 := least
      omega
  next notLeast =>
      split at allowed
      next greatest =>
          have inRange : 0x80 ≤ second.toNat ∧ second.toNat ≤ 0x8f := between_iff.mp allowed
          have number : lead.toNat = 0xf4 := greatest
          omega
      next notGreatest =>
          have continues := isContinuation_iff.mp allowed
          exact ⟨continues, fun least => absurd least notLeast,
            fun greatest => absurd greatest notGreatest⟩

/-! ## Characters -/

/-- The character of a valid code has the code. -/
theorem toNat_ofNat
    {code : Nat}
    (valid : code.isValidChar) :
    (Char.ofNat code).toNat = code := by
  rw [Char.ofNat, dif_pos valid]
  rfl

section
variable {lead second third fourth : UInt8}

theorem encodeChar_one
    (one : lead.toNat < 0x80) :
    encodeChar (Char.ofNat lead.toNat) = [lead] := by
  have valid : lead.toNat.isValidChar := .inl (by omega)
  rw [encodeChar, toNat_ofNat valid]
  rw [if_pos one, UInt8.ofNat_toNat]

theorem encodeChar_two
    (least : 0xc2 ≤ lead.toNat)
    (greatest : lead.toNat ≤ 0xdf)
    (continues : isContinuation second = true) :
    encodeChar (Char.ofNat (lead.toNat % 32 * 64 + payloadBits second)) = [lead, second] := by
  obtain ⟨from80, toBf⟩ := isContinuation_iff.mp continues
  rw [payloadBits]
  have valid : (lead.toNat % 32 * 64 + second.toNat % 64).isValidChar := .inl (by omega)
  rw [encodeChar, toNat_ofNat valid]
  rw [if_neg (by omega), if_pos (by omega),
    byte_of_number (by omega : _ = lead.toNat), byte_of_number (by omega : _ = second.toNat)]

theorem encodeChar_three
    (least : 0xe0 ≤ lead.toNat)
    (greatest : lead.toNat ≤ 0xef)
    (allowed : allowsSecondOfThree lead second = true)
    (continues : isContinuation third = true) :
    encodeChar
        (Char.ofNat
          (lead.toNat % 16 * 4096 + payloadBits second * 64 + payloadBits third)) =
      [lead, second, third] := by
  obtain ⟨⟨from80, toBf⟩, notOverlong, noHalf⟩ := bounds_of_allowsSecondOfThree allowed
  obtain ⟨thirdFrom, thirdTo⟩ := isContinuation_iff.mp continues
  simp only [payloadBits]
  have valid :
      (lead.toNat % 16 * 4096 + second.toNat % 64 * 64 + third.toNat % 64).isValidChar := by
    rw [Nat.isValidChar]
    omega
  rw [encodeChar, toNat_ofNat valid]
  rw [if_neg (by omega), if_neg (by omega), if_pos (by omega),
    byte_of_number (by omega : _ = lead.toNat), byte_of_number (by omega : _ = second.toNat),
    byte_of_number (by omega : _ = third.toNat)]

theorem encodeChar_four
    (least : 0xf0 ≤ lead.toNat)
    (greatest : lead.toNat ≤ 0xf4)
    (allowed : allowsSecondOfFour lead second = true)
    (thirdContinues : isContinuation third = true)
    (fourthContinues : isContinuation fourth = true) :
    encodeChar
        (Char.ofNat
          (lead.toNat % 8 * 262144 + payloadBits second * 4096 + payloadBits third * 64
            + payloadBits fourth)) =
      [lead, second, third, fourth] := by
  obtain ⟨⟨from80, toBf⟩, notOverlong, notPast⟩ := bounds_of_allowsSecondOfFour allowed
  obtain ⟨thirdFrom, thirdTo⟩ := isContinuation_iff.mp thirdContinues
  obtain ⟨fourthFrom, fourthTo⟩ := isContinuation_iff.mp fourthContinues
  simp only [payloadBits]
  have valid :
      (lead.toNat % 8 * 262144 + second.toNat % 64 * 4096 + third.toNat % 64 * 64
        + fourth.toNat % 64).isValidChar := by
    rw [Nat.isValidChar]
    omega
  rw [encodeChar, toNat_ofNat valid]
  rw [if_neg (by omega), if_neg (by omega), if_neg (by omega),
    byte_of_number (by omega : _ = lead.toNat), byte_of_number (by omega : _ = second.toNat),
    byte_of_number (by omega : _ = third.toNat), byte_of_number (by omega : _ = fourth.toNat)]

end

/-- A character that is read from bytes has just the bytes that were taken. -/
theorem encodeChar_of_decodeStep
    {lead : UInt8}
    {rest after : List UInt8}
    {value : Char}
    (step : decodeStep lead rest = .character value after) :
    encodeChar value ++ after = lead :: rest := by
  revert step
  fun_cases decodeStep lead rest with
  | case1 rest one =>
      rintro ⟨⟩
      rw [encodeChar_one (UInt8.lt_iff_toNat_lt.mp one), List.singleton_append]
  | case3 _ two second further continues =>
      rintro ⟨⟩
      obtain ⟨least, greatest⟩ := between_iff.mp two
      rw [encodeChar_two least greatest continues]
      rfl
  | case8 _ _ three second allowed third further continues =>
      rintro ⟨⟩
      obtain ⟨least, greatest⟩ := between_iff.mp three
      rw [encodeChar_three least greatest (by simpa using allowed) continues]
      rfl
  | case15 _ _ _ four second allowed third thirdContinues fourth further continues =>
      rintro ⟨⟩
      obtain ⟨least, greatest⟩ := between_iff.mp four
      rw [encodeChar_four least greatest (by simpa using allowed)
        (by simpa using thirdContinues) continues]
      rfl
  | _ =>
      rintro ⟨⟩

/-! ## Texts -/

/-- Bytes that are decoded are the bytes of what was read. -/
theorem encodeUtf8_of_decodeUtf8From
    {index : Nat}
    {bytes : List UInt8}
    {characters : List Char}
    (decoded : decodeUtf8From index bytes = .ok characters) :
    encodeUtf8 characters = bytes := by
  fun_induction decodeUtf8From index bytes generalizing characters with
  | case1 =>
      cases decoded
      rfl
  | case2 index lead rest value after step shorter read reads inductionHypothesis =>
      cases decoded
      rw [encodeUtf8, List.flatMap_cons, ← encodeChar_of_decodeStep step]
      exact congrArg _ (inductionHypothesis reads)
  | _ =>
      cases decoded

/-- Bytes are decoded to the text that has them. -/
theorem decodeUtf8_eq_ok_iff
    {bytes : List UInt8}
    {characters : List Char} :
    decodeUtf8 bytes = .ok characters ↔ encodeUtf8 characters = bytes := by
  constructor
  · exact encodeUtf8_of_decodeUtf8From
  · rintro rfl
    exact decodeUtf8_encodeUtf8 characters

/-! ## The standard encoding -/

/-- The bytes of a character are those of the standard encoding. -/
theorem encodeChar_eq_utf8EncodeChar
    (character : Char) :
    encodeChar character = String.utf8EncodeChar character := by
  have valid := character.valid
  have code : character.val.toNat = character.toNat :=
    rfl
  simp only [encodeChar, String.utf8EncodeChar, code]
  split
  next one =>
      rw [if_pos (by omega)]
  split
  next notOne two =>
      have leadBits : character.toNat / 64 % 32 = character.toNat / 64 := by
        omega
      rw [if_neg (by omega), if_pos (by omega), leadBits, Nat.add_comm, Nat.add_comm 0x80]
  split
  next notTwo three =>
      have leadBits : character.toNat / 4096 % 16 = character.toNat / 4096 := by
        omega
      rw [if_neg (by omega), if_neg (by omega), if_pos (by omega), leadBits, Nat.add_comm,
        Nat.add_comm 0x80, Nat.add_comm 0x80]
  next notThree =>
      have leadBits : character.toNat / 262144 % 8 = character.toNat / 262144 := by
        rcases valid with low | ⟨_, high⟩ <;> omega
      rw [if_neg (by omega), if_neg (by omega), if_neg (by omega), leadBits, Nat.add_comm,
        Nat.add_comm 0x80, Nat.add_comm 0x80, Nat.add_comm 0x80]

/-- The bytes of a text are those of the standard encoding. -/
theorem toByteArray_encodeUtf8
    (characters : List Char) :
    (encodeUtf8 characters).toByteArray = (String.ofList characters).toByteArray := by
  have same : encodeChar = String.utf8EncodeChar :=
    funext encodeChar_eq_utf8EncodeChar
  rw [encodeUtf8, same, String.toByteArray_ofList]
  rfl

/-- Lists of bytes are the same when their arrays are. -/
theorem toByteArray_inj
    {bytes others : List UInt8} :
    bytes.toByteArray = others.toByteArray ↔ bytes = others := by
  constructor
  · intro same
    rw [← List.toList_data_toByteArray (l := bytes), same, List.toList_data_toByteArray]
  · rintro rfl
    rfl

/-- Bytes spell a text in the standard encoding. -/
def IsUtf8
    (bytes : List UInt8) : Prop :=
  bytes.toByteArray.IsValidUTF8

/-- Bytes are decoded to the text whose standard encoding they are. -/
theorem decodeUtf8_eq_ok_iff_toUTF8
    {bytes : List UInt8}
    {characters : List Char} :
    decodeUtf8 bytes = .ok characters ↔
      (String.ofList characters).toUTF8 = bytes.toByteArray := by
  rw [decodeUtf8_eq_ok_iff, ← toByteArray_inj, toByteArray_encodeUtf8]
  rfl

/-- Bytes are decoded exactly when they spell a text. -/
theorem isUtf8_iff_exists
    {bytes : List UInt8} :
    IsUtf8 bytes ↔ ∃ characters, decodeUtf8 bytes = .ok characters := by
  simp only [decodeUtf8_eq_ok_iff_toUTF8]
  constructor
  · rintro ⟨characters, same⟩
    exact ⟨characters, same.symm⟩
  · rintro ⟨characters, same⟩
    exact ⟨characters, same.symm⟩

end QueryAgent.Text

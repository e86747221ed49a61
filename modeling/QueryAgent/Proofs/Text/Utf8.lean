import QueryAgent.Text.Utf8

namespace QueryAgent.Text

/-!
# Encoded texts read back

The bytes of a character are read as that character whatever follows them, so
the bytes of a text spell the text and no other one.
-/

/-! ## Single bytes -/

/-- The number of a byte. -/
theorem toNat_byte
    {number : Nat}
    (fits : number < 256) :
    (UInt8.ofNat number).toNat = number := by
  rw [UInt8.toNat_ofNat']
  omega

/-- A byte lies between two others when its number does. -/
theorem between_iff
    {least byte greatest : UInt8} :
    (decide (least ≤ byte) && decide (byte ≤ greatest)) = true ↔
      least.toNat ≤ byte.toNat ∧ byte.toNat ≤ greatest.toNat := by
  rw [Bool.and_eq_true, decide_eq_true_eq, decide_eq_true_eq, UInt8.le_iff_toNat_le,
    UInt8.le_iff_toNat_le]

/-- The byte of a number lies between two others when the number does. -/
theorem byte_between
    {number : Nat}
    {least greatest : UInt8}
    (fits : number < 256)
    (above : least.toNat ≤ number)
    (under : number ≤ greatest.toNat) :
    (decide (least ≤ UInt8.ofNat number) && decide (UInt8.ofNat number ≤ greatest)) = true := by
  rw [between_iff, toNat_byte fits]
  exact ⟨above, under⟩

/-- The byte that continues a sequence with six bits. -/
theorem isContinuation_byte
    (bits : Nat) :
    isContinuation (UInt8.ofNat (0x80 + bits % 64)) = true :=
  byte_between (by omega) (show 0x80 ≤ _ by omega) (show _ ≤ 0xbf by omega)

/-- The six bits that a byte continues a sequence with. -/
theorem payloadBits_byte
    (bits : Nat) :
    payloadBits (UInt8.ofNat (0x80 + bits % 64)) = bits % 64 := by
  rw [payloadBits, toNat_byte (by omega)]
  omega

/-! ## Characters -/

section
variable {code : Nat} (rest : List UInt8)

/-- One byte for a code of seven bits. -/
theorem decodeStep_one
    (below : code < 0x80) :
    decodeStep (UInt8.ofNat code) rest = .character (Char.ofNat code) rest := by
  have number : (UInt8.ofNat code).toNat = code := toNat_byte (by omega)
  have short : UInt8.ofNat code < 0x80 := by
    simp [UInt8.lt_iff_toNat_lt]
    omega
  unfold decodeStep
  rw [if_pos short, number]

/-- Two bytes for a code of eleven bits. -/
theorem decodeStep_two
    (atLeast : 0x80 ≤ code)
    (below : code < 0x800) :
    decodeStep (UInt8.ofNat (0xc0 + code / 64))
        (UInt8.ofNat (0x80 + code % 64) :: rest) =
      .character (Char.ofNat code) rest := by
  have number : (UInt8.ofNat (0xc0 + code / 64)).toNat = 0xc0 + code / 64 :=
    toNat_byte (by omega)
  have spelled : (0xc0 + code / 64) % 32 * 64 + code % 64 = code := by omega
  unfold decodeStep
  rw [if_neg, if_pos]
  · simp only [isContinuation_byte, if_true, payloadBits_byte, number, spelled]
  · simp [UInt8.le_iff_toNat_le]
    omega
  · simp [UInt8.lt_iff_toNat_lt]
    omega

/-- The second of three bytes is allowed: the code is not shorter and no half of a pair. -/
theorem allowsSecondOfThree_byte
    (atLeast : 0x800 ≤ code)
    (below : code < 0x10000)
    (noHalf : ¬ (0xd800 ≤ code ∧ code < 0xe000)) :
    allowsSecondOfThree (UInt8.ofNat (0xe0 + code / 4096))
      (UInt8.ofNat (0x80 + code / 64 % 64)) = true := by
  have number : (UInt8.ofNat (0xe0 + code / 4096)).toNat = 0xe0 + code / 4096 :=
    toNat_byte (by omega)
  unfold allowsSecondOfThree
  split
  next least =>
      have lead : 0xe0 + code / 4096 = 0xe0 :=
        number.symm.trans (congrArg UInt8.toNat (eq_of_beq least))
      exact byte_between (by omega) (show 0xa0 ≤ _ by omega) (show _ ≤ 0xbf by omega)
  split
  next surrogates =>
      have lead : 0xe0 + code / 4096 = 0xed :=
        number.symm.trans (congrArg UInt8.toNat (eq_of_beq surrogates))
      exact byte_between (by omega) (show 0x80 ≤ _ by omega) (show _ ≤ 0x9f by omega)
  · exact isContinuation_byte _

/-- The second of four bytes is allowed: the code is not shorter and no greater than the last. -/
theorem allowsSecondOfFour_byte
    (atLeast : 0x10000 ≤ code)
    (below : code < 0x110000) :
    allowsSecondOfFour (UInt8.ofNat (0xf0 + code / 262144))
      (UInt8.ofNat (0x80 + code / 4096 % 64)) = true := by
  have number : (UInt8.ofNat (0xf0 + code / 262144)).toNat = 0xf0 + code / 262144 :=
    toNat_byte (by omega)
  unfold allowsSecondOfFour
  split
  next least =>
      have lead : 0xf0 + code / 262144 = 0xf0 :=
        number.symm.trans (congrArg UInt8.toNat (eq_of_beq least))
      exact byte_between (by omega) (show 0x90 ≤ _ by omega) (show _ ≤ 0xbf by omega)
  split
  next greatest =>
      have lead : 0xf0 + code / 262144 = 0xf4 :=
        number.symm.trans (congrArg UInt8.toNat (eq_of_beq greatest))
      exact byte_between (by omega) (show 0x80 ≤ _ by omega) (show _ ≤ 0x8f by omega)
  · exact isContinuation_byte _

/-- Three bytes for a code of sixteen bits that is no half of a pair. -/
theorem decodeStep_three
    (atLeast : 0x800 ≤ code)
    (below : code < 0x10000)
    (valid : code.isValidChar) :
    decodeStep (UInt8.ofNat (0xe0 + code / 4096))
        (UInt8.ofNat (0x80 + code / 64 % 64) :: UInt8.ofNat (0x80 + code % 64) :: rest) =
      .character (Char.ofNat code) rest := by
  have number : (UInt8.ofNat (0xe0 + code / 4096)).toNat = 0xe0 + code / 4096 :=
    toNat_byte (by omega)
  have spelled :
      (0xe0 + code / 4096) % 16 * 4096 + code / 64 % 64 * 64 + code % 64 = code := by
    omega
  have noHalf : ¬ (0xd800 ≤ code ∧ code < 0xe000) := by
    rcases valid with low | ⟨high, _⟩ <;> omega
  have allowed := allowsSecondOfThree_byte atLeast below noHalf
  unfold decodeStep
  rw [if_neg, if_neg, if_pos]
  · simp only [allowed, isContinuation_byte, if_true, payloadBits_byte, number, spelled,
      Bool.not_true, Bool.false_eq_true, if_false]
  · simp [UInt8.le_iff_toNat_le]
    omega
  · simp [UInt8.le_iff_toNat_le]
    omega
  · simp [UInt8.lt_iff_toNat_lt]
    omega

/-- Four bytes for any greater code of a character. -/
theorem decodeStep_four
    (atLeast : 0x10000 ≤ code)
    (below : code < 0x110000) :
    decodeStep (UInt8.ofNat (0xf0 + code / 262144))
        (UInt8.ofNat (0x80 + code / 4096 % 64) :: UInt8.ofNat (0x80 + code / 64 % 64)
          :: UInt8.ofNat (0x80 + code % 64) :: rest) =
      .character (Char.ofNat code) rest := by
  have number : (UInt8.ofNat (0xf0 + code / 262144)).toNat = 0xf0 + code / 262144 :=
    toNat_byte (by omega)
  have spelled :
      (0xf0 + code / 262144) % 8 * 262144 + code / 4096 % 64 * 4096 + code / 64 % 64 * 64
        + code % 64 = code := by
    omega
  have allowed := allowsSecondOfFour_byte atLeast below
  unfold decodeStep
  rw [if_neg, if_neg, if_neg, if_pos]
  · simp only [allowed, isContinuation_byte, if_true, payloadBits_byte, number, spelled,
      Bool.not_true, Bool.false_eq_true, if_false]
  · simp [UInt8.le_iff_toNat_le]
    omega
  · simp [UInt8.le_iff_toNat_le]
    omega
  · simp [UInt8.le_iff_toNat_le]
    omega
  · simp [UInt8.lt_iff_toNat_lt]
    omega

end

/-- The bytes of a character are read as the character, and nothing behind them is. -/
theorem decodeStep_encodeChar
    (character : Char)
    (rest : List UInt8) :
    ∃ lead following,
      encodeChar character = lead :: following ∧
        decodeStep lead (following ++ rest) = .character character rest := by
  have valid := character.valid
  have same :
      Utf8Step.character (Char.ofNat character.toNat) rest = .character character rest := by
    rw [Char.ofNat_toNat]
  simp only [encodeChar]
  split
  next one =>
      exact ⟨_, _, rfl, (decodeStep_one rest one).trans same⟩
  split
  next notOne two =>
      exact ⟨_, _, rfl, (decodeStep_two rest (by omega) two).trans same⟩
  split
  next notTwo three =>
      exact ⟨_, _, rfl, (decodeStep_three rest (by omega) three valid).trans same⟩
  next notThree =>
      have below : character.toNat < 0x110000 := by
        rcases valid with low | ⟨_, high⟩
        · exact Nat.lt_trans low (by decide)
        · exact high
      exact ⟨_, _, rfl, (decodeStep_four rest (by omega) below).trans same⟩

/-! ## Texts -/

/-- The bytes of a text are read as the text. -/
theorem decodeUtf8From_encodeUtf8
    (index : Nat)
    (characters : List Char) :
    decodeUtf8From index (encodeUtf8 characters) = .ok characters := by
  induction characters generalizing index with
  | nil =>
      rw [encodeUtf8, List.flatMap_nil, decodeUtf8From]
  | cons character rest inductionHypothesis =>
      obtain ⟨lead, following, bytes, step⟩ :=
        decodeStep_encodeChar character (encodeUtf8 rest)
      rw [encodeUtf8, List.flatMap_cons, bytes, List.cons_append, decodeUtf8From]
      split
      next value after reads =>
          obtain ⟨rfl, rfl⟩ : character = value ∧ encodeUtf8 rest = after := by
            simpa using step.symm.trans reads
          rw [inductionHypothesis]
      next length faulty =>
          cases step.symm.trans faulty

theorem decodeUtf8_encodeUtf8
    (characters : List Char) :
    decodeUtf8 (encodeUtf8 characters) = .ok characters :=
  decodeUtf8From_encodeUtf8 0 characters

/-- Nothing in the bytes of a text needs to be replaced. -/
theorem decodeUtf8Lossy_encodeUtf8
    (characters : List Char) :
    decodeUtf8Lossy (encodeUtf8 characters) = characters := by
  induction characters with
  | nil =>
      rw [encodeUtf8, List.flatMap_nil, decodeUtf8Lossy]
  | cons character rest inductionHypothesis =>
      obtain ⟨lead, following, bytes, step⟩ :=
        decodeStep_encodeChar character (encodeUtf8 rest)
      rw [encodeUtf8, List.flatMap_cons, bytes, List.cons_append, decodeUtf8Lossy]
      split
      next value after reads =>
          obtain ⟨rfl, rfl⟩ : character = value ∧ encodeUtf8 rest = after := by
            simpa using step.symm.trans reads
          rw [inductionHypothesis]
      all_goals
        next faulty =>
            cases step.symm.trans faulty

/-- Texts with the same bytes are the same. -/
theorem encodeUtf8_injective :
    Function.Injective encodeUtf8 :=
  Function.LeftInverse.injective decodeUtf8Lossy_encodeUtf8

end QueryAgent.Text

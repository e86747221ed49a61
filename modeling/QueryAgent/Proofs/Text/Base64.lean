import QueryAgent.Text.Base64
import Mathlib.Data.List.GetD
import Mathlib.Data.List.Nodup
import Mathlib.Data.Nat.Digits.Defs
import Mathlib.Tactic.Ring

namespace QueryAgent.Text

/-!
# Base 64 read back

The characters of the alphabet are digits in base sixty-four.  Those written for
bytes spell the number that the bytes spell in base two hundred and fifty-six,
completed with zero bits to whole digits, and padding completes them to groups
of four.  They read back as the bytes.
-/

/-- How many characters of padding end the last group. -/
def base64Padding
    (count : Nat) : Nat :=
  (3 - count % 3) % 3

/-- The six bits at a time of bytes, the last completed with zeros. -/
def sextets : List UInt8 → List Nat
  | first :: second :: third :: rest =>
      first.toNat / 4
        :: (first.toNat % 4 * 16 + second.toNat / 16)
        :: (second.toNat % 16 * 4 + third.toNat / 64)
        :: third.toNat % 64
        :: sextets rest
  | [first, second] =>
      [first.toNat / 4, first.toNat % 4 * 16 + second.toNat / 16, second.toNat % 16 * 4]
  | [first] =>
      [first.toNat / 4, first.toNat % 4 * 16]
  | [] =>
      []

/-- Six bits are below sixty-four. -/
theorem lt_of_mem_sextets
    {bytes : List UInt8}
    {value : Nat}
    (member : value ∈ sextets bytes) :
    value < 64 := by
  fun_induction sextets bytes with
  | case1 first second third rest inductionHypothesis =>
      have := first.toNat_lt
      have := second.toNat_lt
      have := third.toNat_lt
      simp only [List.mem_cons] at member
      rcases member with rfl | rfl | rfl | rfl | further
      · omega
      · omega
      · omega
      · omega
      · exact inductionHypothesis further
  | case2 first second =>
      have := first.toNat_lt
      have := second.toNat_lt
      simp only [List.mem_cons, List.not_mem_nil, or_false] at member
      omega
  | case3 first =>
      have := first.toNat_lt
      simp only [List.mem_cons, List.not_mem_nil, or_false] at member
      omega
  | case4 =>
      cases member

/-- Bytes are written as their sixes of bits, and padding behind them. -/
theorem encodeBase64_eq
    (bytes : List UInt8) :
    encodeBase64 bytes =
      (sextets bytes).map base64Char ++ List.replicate (base64Padding bytes.length) '=' := by
  fun_induction encodeBase64 bytes with
  | case1 first second third rest inductionHypothesis =>
      have padding : base64Padding (rest.length + 3) = base64Padding rest.length := by
        simp [base64Padding]
      simp [sextets, inductionHypothesis, padding]
  | _ =>
      rfl

/-- There are as many sixes of bits as make whole groups with the padding. -/
theorem length_sextets
    (bytes : List UInt8) :
    (sextets bytes).length + base64Padding bytes.length = 4 * ((bytes.length + 2) / 3) := by
  fun_induction sextets bytes with
  | case1 first second third rest inductionHypothesis =>
      have padding : base64Padding (rest.length + 3) = base64Padding rest.length := by
        simp [base64Padding]
      simp only [List.length_cons, padding]
      omega
  | _ =>
      simp [base64Padding]

theorem length_encodeBase64
    (bytes : List UInt8) :
    (encodeBase64 bytes).length = 4 * ((bytes.length + 2) / 3) := by
  rw [encodeBase64_eq, List.length_append, List.length_map, List.length_replicate,
    length_sextets]

/-! ## Digits -/

/-- The number that digits in a base spell, the highest first. -/
def numberOf
    (base : Nat)
    (digits : List Nat) : Nat :=
  Nat.ofDigits base digits.reverse

theorem numberOf_append
    (base : Nat)
    (front rest : List Nat) :
    numberOf base (front ++ rest) =
      numberOf base front * base ^ rest.length + numberOf base rest := by
  rw [numberOf, List.reverse_append, Nat.ofDigits_append, List.length_reverse, Nat.add_comm,
    Nat.mul_comm]
  rfl

/-- There are the bits of the bytes and two zeros for each character of padding. -/
theorem six_mul_length_sextets
    (bytes : List UInt8) :
    6 * (sextets bytes).length = 8 * bytes.length + 2 * base64Padding bytes.length := by
  have whole := length_sextets bytes
  rw [base64Padding] at whole ⊢
  omega

/-- What bits spell six at a time is what they spell eight at a time, moved by the zeros. -/
theorem numberOf_sextets
    (bytes : List UInt8) :
    numberOf 64 (sextets bytes) =
      numberOf 256 (bytes.map UInt8.toNat) * 4 ^ base64Padding bytes.length := by
  fun_induction sextets bytes with
  | case1 first second third rest inductionHypothesis =>
      have padding : base64Padding (rest.length + 3) = base64Padding rest.length := by
        simp [base64Padding]
      have counted : (rest.map UInt8.toNat).length = rest.length :=
        List.length_map _
      -- Three bytes are four digits exactly, so only what stands behind them is moved.
      have bits : 64 ^ (sextets rest).length = 256 ^ rest.length * 4 ^ base64Padding rest.length :=
        calc
          64 ^ (sextets rest).length = 2 ^ (6 * (sextets rest).length) := by
            rw [pow_mul]
            rfl
          _ = 256 ^ rest.length * 4 ^ base64Padding rest.length := by
            rw [six_mul_length_sextets, pow_add, pow_mul, pow_mul]
            rfl
      have group :
          numberOf 64
              [first.toNat / 4, first.toNat % 4 * 16 + second.toNat / 16,
                second.toNat % 16 * 4 + third.toNat / 64, third.toNat % 64] =
            numberOf 256 [first.toNat, second.toNat, third.toNat] := by
        simp only [numberOf, List.reverse_cons, List.reverse_nil, List.nil_append,
          List.cons_append, Nat.ofDigits_cons, Nat.ofDigits_nil]
        omega
      calc
        numberOf 64
            (first.toNat / 4 :: (first.toNat % 4 * 16 + second.toNat / 16)
              :: (second.toNat % 16 * 4 + third.toNat / 64) :: third.toNat % 64
              :: sextets rest) =
            numberOf 256 [first.toNat, second.toNat, third.toNat] * 64 ^ (sextets rest).length
              + numberOf 64 (sextets rest) := by
          rw [← group, ← numberOf_append]
          rfl
        _ = (numberOf 256 [first.toNat, second.toNat, third.toNat] * 256 ^ rest.length
              + numberOf 256 (rest.map UInt8.toNat)) * 4 ^ base64Padding rest.length := by
          rw [bits, inductionHypothesis]
          ring
        _ = numberOf 256 ((first :: second :: third :: rest).map UInt8.toNat)
              * 4 ^ base64Padding (rest.length + 3) := by
          rw [padding, ← counted, ← numberOf_append]
          rfl
  | case2 first second =>
      simp [numberOf, base64Padding, Nat.ofDigits_cons]
      omega
  | case3 first =>
      simp [numberOf, base64Padding, Nat.ofDigits_cons]
      omega
  | case4 =>
      rfl

/-! ## Characters -/

theorem base64Alphabet_length :
    base64Alphabet.length = 64 := by
  decide +kernel

theorem base64Alphabet_nodup :
    base64Alphabet.Nodup := by
  decide +kernel

theorem padding_not_mem_base64Alphabet :
    '=' ∉ base64Alphabet := by
  decide +kernel

section
variable {value : Nat} (small : value < 64)
include small

/-- Six bits are written as the character at their place in the alphabet. -/
theorem exists_base64Char_eq :
    ∃ inside : value < base64Alphabet.length, base64Char value = base64Alphabet[value] := by
  rw [← base64Alphabet_length] at small
  exact ⟨small, List.getD_eq_getElem _ _ small⟩

theorem base64Char_mem :
    base64Char value ∈ base64Alphabet := by
  obtain ⟨inside, same⟩ := exists_base64Char_eq small
  rw [same]
  exact List.getElem_mem inside

theorem idxOf_base64Char :
    base64Alphabet.idxOf (base64Char value) = value := by
  obtain ⟨inside, same⟩ := exists_base64Char_eq small
  rw [same, base64Alphabet_nodup.idxOf_getElem]

theorem base64Value?_base64Char :
    base64Value? (base64Char value) = some value := by
  obtain ⟨inside, _⟩ := exists_base64Char_eq small
  exact List.findIdx?_eq_some_iff_findIdx_eq.mpr ⟨inside, idxOf_base64Char small⟩

theorem base64Char_ne_padding :
    base64Char value ≠ '=' := by
  intro padding
  exact padding_not_mem_base64Alphabet (padding ▸ base64Char_mem small)

end

/-- Three bytes are put together again from their sixes of bits. -/
theorem base64Group_sextets
    (first second third : UInt8) :
    base64Group (first.toNat / 4) (first.toNat % 4 * 16 + second.toNat / 16)
        (second.toNat % 16 * 4 + third.toNat / 64) (third.toNat % 64) =
      [first, second, third] := by
  have firstSmall := first.toNat_lt
  have secondSmall := second.toNat_lt
  have thirdSmall := third.toNat_lt
  have firstByte :
      first.toNat / 4 * 4 + (first.toNat % 4 * 16 + second.toNat / 16) / 16 = first.toNat := by
    omega
  have secondByte :
      (first.toNat % 4 * 16 + second.toNat / 16) % 16 * 16
          + (second.toNat % 16 * 4 + third.toNat / 64) / 4 =
        second.toNat := by
    omega
  have thirdByte :
      (second.toNat % 16 * 4 + third.toNat / 64) % 4 * 64 + third.toNat % 64 = third.toNat := by
    omega
  rw [base64Group, firstByte, secondByte, thirdByte, UInt8.ofNat_toNat, UInt8.ofNat_toNat,
    UInt8.ofNat_toNat]

/-- The bytes are read from the characters that are written for them. -/
theorem decodeBase64?_encodeBase64
    (bytes : List UInt8) :
    decodeBase64? (encodeBase64 bytes) = some bytes := by
  fun_induction encodeBase64 bytes with
  | case1 first second third rest inductionHypothesis =>
      have firstSmall := first.toNat_lt
      have secondSmall := second.toNat_lt
      have thirdSmall := third.toNat_lt
      have noPadding : base64Char (third.toNat % 64) ≠ '=' :=
        base64Char_ne_padding (by omega)
      rw [decodeBase64?, base64Value?_base64Char (by omega), base64Value?_base64Char (by omega),
        base64Value?_base64Char (by omega), base64Value?_base64Char (by omega),
        inductionHypothesis]
      · exact congrArg (some <| · ++ rest) (base64Group_sextets first second third)
      · exact fun _ padding => absurd padding noPadding
      · exact fun padding => absurd padding noPadding
  | case2 first second =>
      have firstSmall := first.toNat_lt
      have secondSmall := second.toNat_lt
      have noPadding : base64Char (second.toNat % 16 * 4) ≠ '=' :=
        base64Char_ne_padding (by omega)
      rw [decodeBase64?, base64Value?_base64Char (by omega), base64Value?_base64Char (by omega),
        base64Value?_base64Char (by omega)]
      · exact congrArg (some <| List.take 2 ·) (base64Group_sextets first second 0)
      · exact fun padding => absurd padding noPadding
  | case3 first =>
      have firstSmall := first.toNat_lt
      rw [decodeBase64?, base64Value?_base64Char (by omega), base64Value?_base64Char (by omega)]
      exact congrArg (some <| List.take 1 ·) (base64Group_sextets first 0 0)
  | case4 =>
      rfl

example : encodeBase64 [0xff, 0xfe] = "//4=".toList := by
  decide +kernel

/-! ## The standard form -/

/--
Characters are the standard base 64 of bytes: digits of the alphabet that spell
the bits of the bytes and zeros behind them, and padding up to a group of four.
-/
structure IsBase64
    (bytes : List UInt8)
    (characters : List Char) : Prop where
  spelled :
    ∃ digits,
      characters = digits ++ List.replicate (base64Padding bytes.length) '='
        ∧ (∀ digit ∈ digits, digit ∈ base64Alphabet)
        ∧ numberOf 64 (digits.map base64Alphabet.idxOf) =
          numberOf 256 (bytes.map UInt8.toNat) * 4 ^ base64Padding bytes.length
  length : characters.length = 4 * ((bytes.length + 2) / 3)
  decoded : decodeBase64? characters = some bytes

/-- Bytes are written in standard base 64. -/
theorem isBase64_encodeBase64
    (bytes : List UInt8) :
    IsBase64 bytes (encodeBase64 bytes) where
  spelled := by
    have digitsBack :
        ((sextets bytes).map base64Char).map base64Alphabet.idxOf = sextets bytes := by
      rw [List.map_map]
      exact (List.map_congr_left fun value member =>
        idxOf_base64Char (lt_of_mem_sextets member)).trans (List.map_id _)
    refine ⟨(sextets bytes).map base64Char, encodeBase64_eq bytes, ?_, ?_⟩
    · intro digit member
      obtain ⟨value, isSextet, rfl⟩ := List.mem_map.mp member
      exact base64Char_mem (lt_of_mem_sextets isSextet)
    · rw [digitsBack, numberOf_sextets]
  length := length_encodeBase64 bytes
  decoded := decodeBase64?_encodeBase64 bytes

end QueryAgent.Text

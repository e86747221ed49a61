import QueryAgent.Text.Digits
import Mathlib.Algebra.Ring.Nat

namespace QueryAgent.Text

/-!
# Hexadecimal digits read back

What is written for a number in base sixteen is one digit or more, no more than
its size asks for, and reads back as the number.  So do the two digits of a byte.
-/

/-! ## Single digits -/

/-- The character of a digit has the value of the digit. -/
theorem hexValue?_hexChar
    {digit : Nat}
    (small : digit < 16) :
    hexValue? (hexChar digit) = some digit := by
  revert digit
  decide

theorem ne_hexChar
    {character : Char}
    {digit : Nat}
    (notDigit : hexValue? character = none)
    (small : digit < 16) :
    character ≠ hexChar digit := by
  rintro rfl
  cases notDigit.symm.trans (hexValue?_hexChar small)

/-- Digits are read on from what those before them spell. -/
theorem readHexadecimal?_append_singleton
    (digits : List Char)
    (last : Char) :
    readHexadecimal? (digits ++ [last]) =
      (readHexadecimal? digits).bind fun number =>
        (hexValue? last).map fun digit => number * 16 + digit := by
  rw [readHexadecimal?, List.foldl_append]
  rfl

/-- The digits of a byte spell the byte. -/
theorem readHexadecimal?_hexByte
    (byte : UInt8) :
    readHexadecimal? (hexByte byte) = some byte.toNat := by
  have small := byte.toNat_lt
  have high : hexValue? (hexChar (byte.toNat / 16)) = some (byte.toNat / 16) :=
    hexValue?_hexChar (by omega)
  have low : hexValue? (hexChar (byte.toNat % 16)) = some (byte.toNat % 16) :=
    hexValue?_hexChar (by omega)
  simp only [readHexadecimal?, hexByte, List.foldl_cons, List.foldl_nil, Option.bind_some, high,
    low, Option.map_some, Option.some.injEq]
  omega

/-- Nothing but digits is written for a byte. -/
theorem not_mem_hexByte
    {character : Char}
    (notDigit : hexValue? character = none)
    (byte : UInt8) :
    character ∉ hexByte byte := by
  have small := byte.toNat_lt
  have high := ne_hexChar notDigit (show byte.toNat / 16 < 16 by omega)
  have low := ne_hexChar notDigit (show byte.toNat % 16 < 16 by omega)
  simp [hexByte, high, low]

/-! ## Numbers -/

/-- What already stands behind the digits stays behind them. -/
theorem hexadecimalOnto_eq_append
    (number : Nat)
    (after : List Char) :
    hexadecimalOnto number after = hexadecimalList number ++ after := by
  induction number using Nat.strongRecOn generalizing after with
  | ind number inductionHypothesis =>
      have unfolded :
          ∀ behind,
            hexadecimalOnto number behind =
              if number < 16 then
                hexChar number :: behind
              else
                hexadecimalOnto (number / 16) (hexChar (number % 16) :: behind) := by
        intro behind
        rw [hexadecimalOnto]
      rw [hexadecimalList, unfolded after, unfolded []]
      split
      next =>
          rfl
      next large =>
          have smaller : number / 16 < number := by
            omega
          rw [inductionHypothesis _ smaller (_ :: after), inductionHypothesis _ smaller [_],
            List.append_assoc]
          rfl

/-- The last digit comes off the end. -/
theorem hexadecimalList_eq
    (number : Nat) :
    hexadecimalList number =
      if number < 16 then
        [hexChar number]
      else
        hexadecimalList (number / 16) ++ [hexChar (number % 16)] := by
  rw [hexadecimalList, hexadecimalOnto]
  split
  · rfl
  · exact hexadecimalOnto_eq_append _ _

/-- A written number reads back. -/
theorem readHexadecimal?_hexadecimalList
    (number : Nat) :
    readHexadecimal? (hexadecimalList number) = some number := by
  induction number using Nat.strongRecOn with
  | ind number inductionHypothesis =>
      rw [hexadecimalList_eq]
      split
      next single =>
          rw [← List.nil_append [_], readHexadecimal?_append_singleton, hexValue?_hexChar single]
          simp [readHexadecimal?]
      next large =>
          rw [readHexadecimal?_append_singleton, inductionHypothesis (number / 16) (by omega),
            hexValue?_hexChar (by omega), Option.bind_some, Option.map_some, Option.some.injEq]
          omega

/-- Nothing but digits is written for a number. -/
theorem not_mem_hexadecimalList
    {character : Char}
    (notDigit : hexValue? character = none)
    (number : Nat) :
    character ∉ hexadecimalList number := by
  induction number using Nat.strongRecOn with
  | ind number inductionHypothesis =>
      rw [hexadecimalList_eq]
      split
      next single =>
          simpa using ne_hexChar notDigit single
      next large =>
          have earlier := inductionHypothesis (number / 16) (by omega)
          have last := ne_hexChar notDigit (show number % 16 < 16 by omega)
          simp [earlier, last]

/-- At least one digit is written for a number. -/
theorem hexadecimalList_ne_nil
    (number : Nat) :
    hexadecimalList number ≠ [] := by
  rw [hexadecimalList_eq]
  split <;> simp

/-- A number below a power of sixteen is written in no more digits. -/
theorem length_hexadecimalList_le
    {width number : Nat}
    (small : number < 16 ^ (width + 1)) :
    (hexadecimalList number).length ≤ width + 1 := by
  induction width generalizing number with
  | zero =>
      rw [hexadecimalList_eq, if_pos (by simpa using small)]
      simp
  | succ width inductionHypothesis =>
      rw [hexadecimalList_eq]
      split
      · simp
      · have shorter : number / 16 < 16 ^ (width + 1) := by
          rw [Nat.pow_succ] at small
          omega
        have := inductionHypothesis shorter
        simpa using this

end QueryAgent.Text

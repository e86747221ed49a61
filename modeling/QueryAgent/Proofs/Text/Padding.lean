import QueryAgent.Proofs.Text.Decimal
import Mathlib.Data.List.Induction
import Mathlib.Tactic.Positivity
import Mathlib.Tactic.Ring

namespace QueryAgent.Text

/-!
# Numbers with zeros in front

Zeros in front do not change what digits spell, and a number that fits a width
is written in exactly so many digits.  Digits cut off at the end are those of
the remainder.
-/

/-- What was read before counts once for every digit that follows. -/
theorem foldDigits_eq
    (read : Nat)
    (digits : List Char) :
    foldDigits read digits = read * 10 ^ digits.length + foldDigits 0 digits := by
  induction digits using List.reverseRecOn with
  | nil =>
      simp [foldDigits]
  | append_singleton front last inductionHypothesis =>
      calc
        foldDigits read (front ++ [last]) =
            foldDigits read front * 10 + (last.toNat - 48) := by
          rw [foldDigits_append]
          rfl
        _ = read * 10 ^ (front ++ [last]).length
              + (foldDigits 0 front * 10 + (last.toNat - 48)) := by
          rw [inductionHypothesis, List.length_append, List.length_singleton]
          ring
        _ = read * 10 ^ (front ++ [last]).length + foldDigits 0 (front ++ [last]) := by
          rw [foldDigits_append 0]
          rfl

/-- A digit is worth less than ten. -/
theorem value_lt_of_isDigit
    {character : Char}
    (isDigit : character.isDigit = true) :
    character.toNat - 48 < 10 := by
  have greatest : character.toNat ≤ 57 := by
    simp only [Char.isDigit, Bool.and_eq_true, decide_eq_true_eq] at isDigit
    exact isDigit.2
  omega

/-- Digits spell a number below the power of their count. -/
theorem foldDigits_lt
    {digits : List Char}
    (digitsOnly : ∀ character ∈ digits, character.isDigit = true) :
    foldDigits 0 digits < 10 ^ digits.length := by
  induction digits using List.reverseRecOn with
  | nil =>
      simp [foldDigits]
  | append_singleton front last inductionHypothesis =>
      have before :=
        inductionHypothesis fun character member => digitsOnly character (by simp [member])
      have small := value_lt_of_isDigit (digitsOnly last (by simp))
      have unfolded :
          foldDigits 0 (front ++ [last]) = foldDigits 0 front * 10 + (last.toNat - 48) := by
        rw [foldDigits_append]
        rfl
      rw [unfolded, List.length_append, List.length_singleton, pow_succ]
      omega

/-- The first digits spell what is left when the others are divided off. -/
theorem foldDigits_take
    {digits : List Char}
    (digitsOnly : ∀ character ∈ digits, character.isDigit = true)
    (count : Nat) :
    foldDigits 0 (digits.take count) = foldDigits 0 digits / 10 ^ (digits.length - count) := by
  have cutOff : foldDigits 0 (digits.drop count) < 10 ^ (digits.length - count) := by
    rw [← List.length_drop]
    exact foldDigits_lt fun character member => digitsOnly character (List.mem_of_mem_drop member)
  have whole :
      foldDigits 0 digits =
        10 ^ (digits.length - count) * foldDigits 0 (digits.take count)
          + foldDigits 0 (digits.drop count) := by
    conv_lhs => rw [← List.take_append_drop count digits]
    rw [foldDigits_append, foldDigits_eq, List.length_drop, Nat.mul_comm]
  rw [whole, Nat.mul_add_div (by positivity), Nat.div_eq_of_lt cutOff, Nat.add_zero]

/-- A number below a power of ten is written in no more digits. -/
theorem length_decimalList_le
    {width number : Nat}
    (small : number < 10 ^ (width + 1)) :
    (decimalList number).length ≤ width + 1 := by
  induction width generalizing number with
  | zero =>
      rw [decimalList_eq, if_pos (by simpa using small)]
      simp
  | succ width inductionHypothesis =>
      rw [decimalList_eq]
      split
      · simp
      · have shorter : number / 10 < 10 ^ (width + 1) := by
          rw [pow_succ] at small
          omega
        have := inductionHypothesis shorter
        simpa using this

section
variable {width number : Nat}

/-- Zeros and digits are digits. -/
theorem isDigit_of_mem_zeroPadList
    {character : Char}
    (member : character ∈ zeroPadList width (decimalList number)) :
    character.isDigit = true := by
  rcases List.mem_append.mp member with zero | digit
  · rw [List.eq_of_mem_replicate zero]
    rfl
  · exact isDigit_of_mem_decimalList digit

/-- Zeros in front spell nothing. -/
theorem foldDigits_zeroPadList :
    foldDigits 0 (zeroPadList width (decimalList number)) = number := by
  rw [zeroPadList, foldDigits_append, foldDigits_zeros, Nat.zero_mul, foldDigits_decimalList]

theorem zeroPadList_ne_nil :
    zeroPadList width (decimalList number) ≠ [] := by
  simp [zeroPadList, decimalList_ne_nil]

/-- What opens with a padded number opens with a digit. -/
theorem isDigit_of_head?_zeroPadList
    {first : Char}
    {rest : List Char}
    (isFirst : first ∈ (zeroPadList width (decimalList number) ++ rest).head?) :
    first.isDigit = true := by
  rw [List.head?_append_of_ne_nil _ zeroPadList_ne_nil] at isFirst
  exact isDigit_of_mem_zeroPadList (List.mem_of_head? isFirst)

/-- At least as many digits are written as the width asks for. -/
theorem le_length_zeroPadList :
    width ≤ (zeroPadList width (decimalList number)).length := by
  rw [zeroPadList, List.length_append, List.length_replicate]
  omega

/-- A number that fits a width is written in as many digits. -/
theorem length_zeroPadList
    (positive : 0 < width)
    (small : number < 10 ^ width) :
    (zeroPadList width (decimalList number)).length = width := by
  obtain ⟨less, rfl⟩ : ∃ less, width = less + 1 := ⟨width - 1, by omega⟩
  have := length_decimalList_le small
  rw [zeroPadList, List.length_append, List.length_replicate]
  omega

end

end QueryAgent.Text

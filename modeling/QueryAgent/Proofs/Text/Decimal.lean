import QueryAgent.Text.Digits

namespace QueryAgent.Text

/-!
# Decimal digits read back

What is written for a number is one digit or more, digits alone, and reads back
as the number.  A run of digits also ends where they end when something that is
no digit follows.
-/

/-- The digit of a number below ten is its code past that of zero. -/
theorem toNat_digitChar
    (digit : Nat) :
    (digitChar digit).toNat = 48 + digit % 10 := by
  have small : digit % 10 < 10 := Nat.mod_lt _ (by decide)
  have everyDigit :
      ∀ remainder < 10,
        (Char.ofNat (48 + remainder)).toNat = 48 + remainder := by
    decide
  exact everyDigit _ small

/-- The character of a digit is a digit. -/
theorem isDigit_digitChar
    (digit : Nat) :
    (digitChar digit).isDigit = true := by
  have small : digit % 10 < 10 := Nat.mod_lt _ (by decide)
  have everyDigit :
      ∀ remainder < 10,
        (Char.ofNat (48 + remainder)).isDigit = true := by
    decide
  exact everyDigit _ small

/-- What already stands behind the digits stays behind them. -/
theorem decimalOnto_eq_append
    (number : Nat)
    (after : List Char) :
    decimalOnto number after = decimalList number ++ after := by
  induction number using Nat.strongRecOn generalizing after with
  | ind number inductionHypothesis =>
      have unfolded :
          ∀ behind,
            decimalOnto number behind =
              if number < 10 then
                digitChar number :: behind
              else
                decimalOnto (number / 10) (digitChar (number % 10) :: behind) := by
        intro behind
        rw [decimalOnto]
      unfold decimalList
      rw [unfolded after, unfolded []]
      split
      · simp
      · have smaller : number / 10 < number := by
          omega
        rw [inductionHypothesis _ smaller (_ :: after),
          inductionHypothesis _ smaller [_]]
        simp

/-- The last digit comes off the end. -/
theorem decimalList_eq
    (number : Nat) :
    decimalList number =
      if number < 10 then
        [digitChar number]
      else
        decimalList (number / 10) ++ [digitChar (number % 10)] := by
  rw [decimalList, decimalOnto]
  split
  · rfl
  · exact decimalOnto_eq_append _ _

/-- Nothing but digits is written for a number. -/
theorem isDigit_of_mem_decimalList
    {number : Nat}
    {character : Char}
    (member : character ∈ decimalList number) :
    character.isDigit = true := by
  induction number using Nat.strongRecOn with
  | ind number inductionHypothesis =>
      rw [decimalList_eq] at member
      split at member
      · rw [List.mem_singleton] at member
        rw [member]
        exact isDigit_digitChar number
      · rcases List.mem_append.mp member with earlier | last
        · exact inductionHypothesis (number / 10) (by omega) earlier
        · rw [List.mem_singleton] at last
          rw [last]
          exact isDigit_digitChar (number % 10)

/-- No character but a digit stands in the digits of a number. -/
theorem not_mem_decimalList
    {character : Char}
    (notDigit : character.isDigit = false)
    (number : Nat) :
    character ∉ decimalList number := by
  intro member
  cases notDigit.symm.trans (isDigit_of_mem_decimalList member)

/-- At least one digit is written for a number. -/
theorem decimalList_ne_nil
    (number : Nat) :
    decimalList number ≠ [] := by
  rw [decimalList_eq]
  split <;> simp

/-- No zero is written in front of a number that is not zero. -/
theorem head?_decimalList_ne_zero
    {number : Nat}
    (positive : 0 < number) :
    (decimalList number).head? ≠ some '0' := by
  induction number using Nat.strongRecOn with
  | ind number inductionHypothesis =>
      rw [decimalList_eq]
      split
      next single =>
          have everyDigit :
              ∀ digit < 10, 0 < digit → digitChar digit ≠ '0' := by
            decide
          simpa using everyDigit number single positive
      · have earlier := inductionHypothesis (number / 10) (by omega) (by omega)
        cases shape : decimalList (number / 10) with
        | nil =>
            exact absurd shape (decimalList_ne_nil _)
        | cons digit rest =>
            rw [shape] at earlier
            simpa using earlier

/-- Digits are read on from what those before them spell. -/
theorem foldDigits_append
    (read : Nat)
    (digits others : List Char) :
    foldDigits read (digits ++ others) = foldDigits (foldDigits read digits) others :=
  List.foldl_append

/-- Every zero behind a number multiplies it by ten. -/
theorem foldDigits_zeros
    (read count : Nat) :
    foldDigits read (List.replicate count '0') = read * Nat.pow 10 count := by
  induction count generalizing read with
  | zero =>
      simp [foldDigits]
  | succ count inductionHypothesis =>
      calc
        foldDigits read (List.replicate (count + 1) '0') =
            foldDigits (read * 10) (List.replicate count '0') :=
          rfl
        _ = read * 10 * Nat.pow 10 count :=
          inductionHypothesis (read * 10)
        _ = read * Nat.pow 10 (count + 1) := by
          rw [Nat.mul_assoc, Nat.mul_comm 10]
          rfl

/-- The digits of a number spell it. -/
theorem foldDigits_decimalList
    (number : Nat) :
    foldDigits 0 (decimalList number) = number := by
  induction number using Nat.strongRecOn with
  | ind number inductionHypothesis =>
      rw [decimalList_eq]
      split
      · simp only [foldDigits, List.foldl_cons, List.foldl_nil,
          toNat_digitChar]
        omega
      · have earlier := inductionHypothesis (number / 10) (by omega)
        simp only [foldDigits, List.foldl_append, List.foldl_cons,
          List.foldl_nil, toNat_digitChar] at earlier ⊢
        rw [earlier]
        omega

/-- A written number reads back. -/
theorem readDecimal?_decimalList
    (number : Nat) :
    readDecimal? (decimalList number) = some number := by
  have nonempty : (decimalList number).isEmpty = false := by
    simp [decimalList_ne_nil]
  have digitsAlone : (decimalList number).all Char.isDigit = true :=
    List.all_eq_true.mpr fun _ member => isDigit_of_mem_decimalList member
  simp [readDecimal?, nonempty, digitsAlone, foldDigits_decimalList]

/-- A text that a run of characters of a class cannot go on with. -/
def EndsRun
    (inClass : Char → Bool)
    (after : List Char) : Prop :=
  ∀ character ∈ after.head?, inClass character = false

/-- A run of characters of a class ends where something else follows. -/
theorem takeWhile_append_of_endsRun
    {inClass : Char → Bool}
    {run after : List Char}
    (inside : ∀ character ∈ run, inClass character = true)
    (ends : EndsRun inClass after) :
    (run ++ after).takeWhile inClass = run := by
  rw [List.takeWhile_append_of_pos inside]
  cases after with
  | nil =>
      simp
  | cons character rest =>
      have outside : inClass character = false :=
        ends character (by simp)
      simp [outside]

/-- What follows a run of characters of a class is left of it. -/
theorem dropWhile_append_of_endsRun
    {inClass : Char → Bool}
    {run after : List Char}
    (inside : ∀ character ∈ run, inClass character = true)
    (ends : EndsRun inClass after) :
    (run ++ after).dropWhile inClass = after := by
  rw [List.dropWhile_append_of_pos inside]
  cases after with
  | nil =>
      rfl
  | cons character rest =>
      have outside : inClass character = false :=
        ends character (by simp)
      simp [outside]

/-- Two texts that go on after a run of one class agree in the run and behind it. -/
theorem append_inj_of_endsRun
    {inClass : Char → Bool}
    {run other after behind : List Char}
    (inside : ∀ character ∈ run, inClass character = true)
    (otherInside : ∀ character ∈ other, inClass character = true)
    (ends : EndsRun inClass after)
    (otherEnds : EndsRun inClass behind)
    (same : run ++ after = other ++ behind) :
    run = other ∧ after = behind := by
  have sameRun : run = other := by
    rw [← takeWhile_append_of_endsRun inside ends, same,
      takeWhile_append_of_endsRun otherInside otherEnds]
  subst sameRun
  exact ⟨rfl, List.append_cancel_left same⟩

/-- The digits of a number are taken off as a whole. -/
theorem takeWhile_isDigit_decimalList_append
    (number : Nat)
    {after : List Char}
    (ends : EndsRun Char.isDigit after) :
    (decimalList number ++ after).takeWhile Char.isDigit =
      decimalList number :=
  takeWhile_append_of_endsRun
    (fun _ member => isDigit_of_mem_decimalList member) ends

end QueryAgent.Text

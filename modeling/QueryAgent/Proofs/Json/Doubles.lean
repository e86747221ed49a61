import QueryAgent.Proofs.Json.Tree
import QueryAgent.Proofs.Number.Scaled

namespace QueryAgent.Json

/-!
# Doubles read back

A written number is read from its leading digits, as many as an integer holds,
and from the power of ten that makes up for the others.  Digits and powers of ten
that are doubles themselves are scaled to the double that the number rounds to, so
a double that is written with few digits comes back from its text.  Others may
come back as a neighbour, so that it is a property of the doubles in a value
whether the value comes back.
-/

/-! ## Leading digits -/

/-- Further digits do not make a number smaller. -/
theorem le_foldDigits
    (number : Nat)
    (digits : List Char) :
    number ≤ Text.foldDigits number digits := by
  induction digits generalizing number with
  | nil =>
      exact Nat.le_refl number
  | cons digit rest inductionHypothesis =>
      calc
        number ≤ Text.foldDigits number [digit] := by
          simp only [Text.foldDigits, List.foldl_cons, List.foldl_nil]
          omega
        _ ≤ Text.foldDigits (Text.foldDigits number [digit]) rest :=
          inductionHypothesis _

/-- Digits that an integer holds are all taken up. -/
theorem takeDigits_of_le
    {number : Nat}
    {digits : List Char}
    (fits : Text.foldDigits number digits ≤ greatestInteger) :
    takeDigits number digits = (Text.foldDigits number digits, []) := by
  induction digits generalizing number with
  | nil =>
      rfl
  | cons digit rest inductionHypothesis =>
      have longer : Text.foldDigits number [digit] ≤ greatestInteger :=
        (le_foldDigits _ rest).trans fits
      rw [takeDigits, if_pos longer]
      exact inductionHypothesis fits

/-- Digits that an integer does not hold are taken up to the first that it cannot. -/
theorem takeDigits_of_lt
    {number : Nat}
    {digits : List Char}
    (fits : number ≤ greatestInteger)
    (great : greatestInteger < Text.foldDigits number digits) :
    ∃ leading next rest,
      digits = leading ++ next :: rest ∧
        Text.foldDigits number leading ≤ greatestInteger ∧
        greatestInteger < Text.foldDigits number (leading ++ [next]) ∧
        takeDigits number digits = (Text.foldDigits number leading, next :: rest) := by
  induction digits generalizing number with
  | nil =>
      exact absurd great (Nat.not_lt.mpr fits)
  | cons digit digits inductionHypothesis =>
      rw [takeDigits]
      by_cases longer : Text.foldDigits number [digit] ≤ greatestInteger
      · obtain ⟨leading, next, rest, rfl, most, beyond, taken⟩ := inductionHypothesis longer great
        rw [if_pos longer]
        exact ⟨digit :: leading, next, rest, rfl, most, beyond, taken⟩
      · rw [if_neg longer]
        exact ⟨[], digit, digits, rfl, fits, Nat.lt_of_not_le longer, rfl⟩

namespace NumberLiteral

/-- A number of few digits, not far behind the point or in front of it. -/
structure Short
    (literal : NumberLiteral) : Prop where
  digits : literal.digitsRead < 2 ^ 53
  places : literal.places.natAbs ≤ 22
  power : (literal.exponent.getD 0).natAbs ≤ greatestPower

section
variable {literal : NumberLiteral}

/-- All digits of a short number lead. -/
theorem Short.leading_eq
    (short : literal.Short) :
    literal.leading = (literal.digitsRead, -(literal.fraction.length : Int)) := by
  have greatest : greatestInteger = 2 ^ 64 - 1 := rfl
  have read :
      Text.foldDigits (Text.foldDigits 0 literal.whole) literal.fraction = literal.digitsRead :=
    (Text.foldDigits_append 0 literal.whole literal.fraction).symm
  have fits :
      Text.foldDigits (Text.foldDigits 0 literal.whole) literal.fraction ≤ greatestInteger := by
    have := short.digits
    omega
  rw [leading, takeDigits_of_le ((le_foldDigits _ _).trans fits)]
  simp only [takeDigits_of_le fits, read, List.length_nil, Nat.cast_zero, add_zero, zero_sub]

/-- A short number is read from its digits and its places. -/
theorem Short.toBinary64?_eq
    (short : literal.Short) :
    literal.toBinary64? =
      (Number.Binary64.ofScaled? literal.digitsRead literal.places).map
        (Number.Binary64.withSign literal.negative) := by
  have places : -(literal.fraction.length : Int) + literal.exponent.getD 0 = literal.places := by
    rw [NumberLiteral.places]
    ring
  rw [toBinary64?, short.leading_eq]
  simp only [if_neg (Nat.not_lt.mpr short.power), places]

end

/-- A double that is written with few digits is what these denote. -/
theorem value_ofFloat_of_short
    {double : Number.Binary64}
    (finite : double.isFinite = true)
    (short : (ofFloat double).Short) :
    (ofFloat double).value = .ok (.float double) := by
  have signs :
      ((double.withSign false).withSign (ofFloat double).negative) = double := by
    rw [negative_ofFloat, Number.Binary64.withSign, Number.Binary64.magnitudeCode_withSign,
      Number.Binary64.ofCode_magnitudeCode]
  have scaled :
      Number.Binary64.ofScaled? (ofFloat double).digitsRead (ofFloat double).places =
        some (double.withSign false) := by
    cases zero : double.isZero with
    | true =>
        have code : double.magnitudeCode = 0 := by
          simpa [Number.Binary64.isZero] using zero
        have written : ofFloat double = ⟨double.isNegative, ['0'], ['0'], none⟩ := by
          rw [ofFloat, if_pos zero]
        have nothing : Number.Binary64.ofScaled? 0 (-1) = some (.ofCode false 0) := by
          decide +kernel
        rw [written, Number.Binary64.withSign, code]
        exact nothing
    | false =>
        have notZero := significand_pos zero
        refine
          Number.Binary64.ofScaled?_of_roundsTo short.digits short.places finite notZero ?_
        rw [value_digits_ofFloat zero]
        exact Number.Binary64.roundsTo_shortest notZero
  rw [NumberLiteral.value]
  simp only [isWhole_ofFloat, Bool.false_and, Bool.false_eq_true, if_false,
    short.toBinary64?_eq, scaled, Option.map_some, signs]

end NumberLiteral

/-! ## Doubles in a value -/

/-- A double that comes back from the text it is written as. -/
def ReadsBack
    (double : Number.Binary64) : Prop :=
  decodeString decodeAny (compact (.float double)) = .ok (.float double)

/-- A finite double comes back when the digits that are written for it denote it. -/
theorem readsBack_iff
    {double : Number.Binary64}
    (finite : double.isFinite = true) :
    ReadsBack double ↔ (NumberLiteral.ofFloat double).value = .ok (.float double) := by
  rw [ReadsBack, decodeString_of_writtenAs (writtenAs_compact _), decodeAny, node, if_pos finite,
    Node.any, NumberLiteral.read]
  cases (NumberLiteral.ofFloat double).value with
  | ok number =>
      simp
  | error fault =>
      simp

/-- A finite double that is written with few digits comes back. -/
theorem readsBack_of_short
    {double : Number.Binary64}
    (finite : double.isFinite = true)
    (short : (NumberLiteral.ofFloat double).Short) :
    ReadsBack double :=
  (readsBack_iff finite).mpr (NumberLiteral.value_ofFloat_of_short finite short)

-- Sixteen digits are too many: 960.7044335401771 is read as the double above it.
example :
    (NumberLiteral.ofFloat ⟨0x408E05A2AE0D4A21⟩).toBinary64? = some ⟨0x408E05A2AE0D4A22⟩ := by
  decide +kernel

mutual

/-- The doubles in a value, in the order in which they are written. -/
def doubles : Json → List Number.Binary64
  | .float double =>
      [double]
  | .list items =>
      doublesOfItems items
  | .object members =>
      doublesOfMembers members
  | _ =>
      []

/-- The doubles in each item. -/
def doublesOfItems : List Json → List Number.Binary64
  | [] =>
      []
  | item :: rest =>
      item.doubles ++ doublesOfItems rest

/-- The doubles in each member. -/
def doublesOfMembers : List (String × Json) → List Number.Binary64
  | [] =>
      []
  | (_, value) :: rest =>
      value.doubles ++ doublesOfMembers rest

end

/-- A value of which every finite double comes back from the text it is written as. -/
def Legible
    (value : Json) : Prop :=
  ∀ double ∈ value.doubles, double.isFinite = true → ReadsBack double

theorem legible_list_iff
    {items : List Json} :
    (list items).Legible ↔ ∀ item ∈ items, item.Legible := by
  rw [Legible, doubles]
  induction items with
  | nil =>
      simp [doublesOfItems]
  | cons item rest inductionHypothesis =>
      rw [doublesOfItems, List.forall_mem_cons, List.forall_mem_append, inductionHypothesis,
        Legible]

theorem legible_object_iff
    {members : List (String × Json)} :
    (object members).Legible ↔ ∀ member ∈ members, member.2.Legible := by
  rw [Legible, doubles]
  induction members with
  | nil =>
      simp [doublesOfMembers]
  | cons member rest inductionHypothesis =>
      obtain ⟨name, value⟩ := member
      rw [doublesOfMembers, List.forall_mem_cons, List.forall_mem_append, inductionHypothesis,
        Legible]

end QueryAgent.Json

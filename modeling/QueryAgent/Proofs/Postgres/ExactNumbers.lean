import QueryAgent.Proofs.Postgres.BigEndian
import QueryAgent.Proofs.Postgres.NumericDigits

namespace QueryAgent

/-!
# Exact numbers read back

The text of a finite NUMERIC and that of a MONEY are decimal numbers with a
fixed number of digits after the point, and they denote exactly the number that
was sent: the signed sum of the groups, and the cents as hundredths.
-/

/-- The number that a decimal text denotes. -/
def Json.NumberLiteral.rational
    (literal : Json.NumberLiteral) : ℚ :=
  (if literal.negative then -1 else 1) * (literal.digitsRead * 10 ^ literal.places)

namespace Postgres

/--
A text is a decimal number with so many digits after the point, no point when
there are none and no power of ten, and denotes a number: a minus sign or none,
digits before the point without a superfluous zero, and digits after it.
-/
structure DenotesDecimal
    (text : String)
    (places : Nat)
    (number : ℚ)
    (literal : Json.NumberLiteral) : Prop where
  wellFormed : literal.WellFormed
  noPower : literal.exponent = none
  written : text.toList = literal.text
  placesWritten : literal.fraction.length = places
  denoted : literal.rational = number

namespace DenotesDecimal
variable {text : String} {places : Nat} {number : ℚ} {literal : Json.NumberLiteral}

/-- The text is read as the number it is. -/
theorem readNumber
    (denotes : DenotesDecimal text places number literal) :
    Json.readNumber text.toList = .ok (literal, []) := by
  have ends : Json.EndsNumber [] := by
    simp [Text.EndsRun]
  rw [denotes.written, ← List.append_nil literal.text]
  exact Json.NumberLiteral.readNumber_written
    (Json.NumberLiteral.writtenAs_text denotes.wellFormed) ends

end DenotesDecimal

/-- Digits around a point that spell a number in units of the last place denote it. -/
theorem rational_of_units
    {literal : Json.NumberLiteral}
    {units : Nat}
    (noPower : literal.exponent = none)
    (spelled : literal.digitsRead = units) :
    literal.rational =
      (if literal.negative then -1 else 1) * (units / 10 ^ literal.fraction.length) := by
  rw [Json.NumberLiteral.rational, Json.NumberLiteral.places, spelled, noPower]
  simp [div_eq_mul_inv]

/-- Digits behind a point are written with the point. -/
theorem fractionText_of_ne_nil
    {digits : List Char}
    (nonempty : digits ≠ []) :
    Json.fractionText digits = '.' :: digits := by
  obtain ⟨digit, rest, rfl⟩ := List.exists_cons_of_ne_nil nonempty
  rfl

/-! ## NUMERIC -/

/-- The groups of a finite NUMERIC, with a scale within which all its digits lie. -/
structure Numeric where
  isNegative : Bool
  groups : List Nat
  weight : Int16
  scale : UInt16
  small : ∀ group ∈ groups, group < 10000
  opens : groups.head? ≠ some 0
  weightless : groups = [] → weight = 0
  counted : groups.length < 2 ^ 16
  covered : ∃ units : Nat, groupsSum groups weight.toInt * 10 ^ scale.toNat = units

namespace Numeric

/-- The number that a NUMERIC stands for. -/
def number
    (numeric : Numeric) : ℚ :=
  (if numeric.isNegative then -1 else 1) * groupsSum numeric.groups numeric.weight.toInt

/-- The word for the sign. -/
def signWord
    (numeric : Numeric) : Nat :=
  if numeric.isNegative then 0x4000 else 0

/-- A NUMERIC as it travels: group count, weight, sign, scale and the groups. -/
def bytes
    (numeric : Numeric) : List UInt8 :=
  unsignedBytes 2 numeric.groups.length
    ++ (signedBytes 2 numeric.weight.toInt
    ++ (unsignedBytes 2 numeric.signWord
    ++ (unsignedBytes 2 numeric.scale.toNat
    ++ numeric.groups.flatMap (unsignedBytes 2))))

end Numeric

/-- A header is read two bytes at a time. -/
theorem numericHeader?_append
    {count weight sign scale : List UInt8}
    (countLength : count.length = 2)
    (weightLength : weight.length = 2)
    (signLength : sign.length = 2)
    (scaleLength : scale.length = 2)
    (rest : List UInt8) :
    numericHeader? (count ++ (weight ++ (sign ++ (scale ++ rest)))) =
      some (⟨unsignedOf count, signedOf weight, unsignedOf sign, unsignedOf scale⟩, rest) := by
  obtain ⟨_, _, rfl⟩ := List.length_eq_two.mp countLength
  obtain ⟨_, _, rfl⟩ := List.length_eq_two.mp weightLength
  obtain ⟨_, _, rfl⟩ := List.length_eq_two.mp signLength
  obtain ⟨_, _, rfl⟩ := List.length_eq_two.mp scaleLength
  rfl

/-- Groups are read two bytes at a time. -/
theorem wordsOf_unsignedBytes
    {groups : List Nat}
    (small : ∀ group ∈ groups, group < 10000) :
    wordsOf (groups.flatMap (unsignedBytes 2)) = groups := by
  induction groups with
  | nil =>
      rfl
  | cons group rest inductionHypothesis =>
      have fits := small group (by simp)
      have word : unsignedOf (unsignedBytes 2 group) = group := by
        rw [unsignedOf_unsignedBytes]
        omega
      obtain ⟨high, low, pair⟩ := List.length_eq_two.mp (length_unsignedBytes 2 group)
      rw [List.flatMap_cons, pair, List.cons_append, List.singleton_append, wordsOf, ← pair, word,
        inductionHypothesis fun other member => small other (by simp [member])]

/-- A finite NUMERIC is decoded as the digits of its groups around the point. -/
theorem decodeNumeric?_bytes
    (numeric : Numeric) :
    decodeNumeric? numeric.bytes =
      some
        (finiteNumeric
          ⟨numeric.groups.length, numeric.weight.toInt, numeric.signWord, numeric.scale.toNat⟩
          numeric.groups) := by
  have count : unsignedOf (unsignedBytes 2 numeric.groups.length) = numeric.groups.length := by
    have := numeric.counted
    rw [unsignedOf_unsignedBytes]
    omega
  have weight : signedOf (signedBytes 2 numeric.weight.toInt) = numeric.weight.toInt := by
    have := numeric.weight.le_toInt
    have := numeric.weight.toInt_lt
    apply signedOf_signedBytes <;> norm_num <;> omega
  have sign : unsignedOf (unsignedBytes 2 numeric.signWord) = numeric.signWord := by
    rw [unsignedOf_unsignedBytes, Numeric.signWord]
    split <;> rfl
  have scale : unsignedOf (unsignedBytes 2 numeric.scale.toNat) = numeric.scale.toNat := by
    have := numeric.scale.toNat_lt
    rw [unsignedOf_unsignedBytes]
    omega
  have finite :
      numeric.signWord ≠ 0xc000 ∧ numeric.signWord ≠ 0xd000 ∧ numeric.signWord ≠ 0xf000 := by
    unfold Numeric.signWord
    split <;> decide
  have enough :
      ¬ (numeric.groups.flatMap (unsignedBytes 2)).length < 2 * numeric.groups.length := by
    simp [Nat.mul_comm]
  rw [decodeNumeric?, Numeric.bytes,
    numericHeader?_append (length_unsignedBytes 2 _) (length_signedBytes 2 _)
      (length_unsignedBytes 2 _) (length_unsignedBytes 2 _)]
  dsimp only
  rw [count, weight, sign, scale, if_neg enough, if_neg finite.1, if_neg finite.2.1,
    if_neg finite.2.2, wordsOf_unsignedBytes numeric.small, List.take_length]

/-- The digits of a NUMERIC around its point. -/
def Numeric.literal
    (numeric : Numeric) : Json.NumberLiteral where
  negative := numeric.isNegative
  whole := wholeDigits numeric.groups numeric.weight.toInt
  fraction :=
    (fractionDigits numeric.groups (numeric.weight.toInt + 1) numeric.scale.toNat).take
      numeric.scale.toNat
  exponent := none

/-- There are as many digits behind the point as the scale says. -/
theorem Numeric.length_fraction
    (numeric : Numeric) :
    numeric.literal.fraction.length = numeric.scale.toNat := by
  obtain ⟨count, digits, enough⟩ :=
    exists_fractionDigits_eq numeric.small (numeric.weight.toInt + 1) numeric.scale.toNat
  rw [Numeric.literal, digits, List.length_take, length_runDigits numeric.small]
  exact Nat.min_eq_left enough

/-- The text of a finite NUMERIC denotes its number. -/
theorem Numeric.denotes
    (numeric : Numeric) :
    DenotesDecimal
      (finiteNumeric
        ⟨numeric.groups.length, numeric.weight.toInt, numeric.signWord, numeric.scale.toNat⟩
        numeric.groups)
      numeric.scale.toNat numeric.number numeric.literal where
  wellFormed := by
    obtain ⟨count, digits, _⟩ :=
      exists_fractionDigits_eq numeric.small (numeric.weight.toInt + 1) numeric.scale.toNat
    refine ⟨wholeDigits_wellFormed numeric.opens ?_, ?_⟩
    · intro none
      rw [numeric.weightless none]
      rfl
    · intro character member
      rw [Numeric.literal, digits] at member
      exact isDigit_of_mem_runDigits (List.mem_of_mem_take member)
  noPower := rfl
  written := by
    have sign :
        (if numeric.signWord = 0x4000 then ['-'] else []) =
          if numeric.isNegative then ['-'] else [] := by
      unfold Numeric.signWord
      cases numeric.isNegative <;> rfl
    have fraction :
        (if numeric.scale.toNat = 0 then [] else '.' :: numeric.literal.fraction) =
          Json.fractionText numeric.literal.fraction := by
      split
      next none =>
          have nothing : numeric.literal.fraction = [] :=
            List.eq_nil_of_length_eq_zero (numeric.length_fraction.trans none)
          rw [nothing]
          rfl
      next some =>
          have nonempty : numeric.literal.fraction ≠ [] := by
            intro nothing
            exact some (numeric.length_fraction.symm.trans (congrArg List.length nothing))
          rw [fractionText_of_ne_nil nonempty]
    have text :
        numeric.literal.text =
          (if numeric.isNegative then ['-'] else [])
            ++ (wholeDigits numeric.groups numeric.weight.toInt
            ++ (Json.fractionText numeric.literal.fraction ++ [])) :=
      rfl
    rw [finiteNumeric, String.toList_ofList, text, ← fraction, ← sign, List.append_nil,
      List.append_assoc]
    rfl
  placesWritten := numeric.length_fraction
  denoted := by
    obtain ⟨units, covered⟩ := numeric.covered
    have value :
        groupsSum numeric.groups numeric.weight.toInt = units / 10 ^ numeric.scale.toNat := by
      rw [← covered, mul_div_cancel_right₀ _ (by positivity)]
    have spelled : numeric.literal.digitsRead = units :=
      foldDigits_cut numeric.small covered
    rw [rational_of_units rfl spelled, numeric.length_fraction, Numeric.number, value]
    rfl

/-! ## MONEY -/

/-- The digits of an amount around its point. -/
def moneyLiteral
    (cents : Int) : Json.NumberLiteral where
  negative := decide (cents < 0)
  whole := Text.decimalList (cents.natAbs / 100)
  fraction := Text.zeroPadList 2 (Text.decimalList (cents.natAbs % 100))
  exponent := none

/-- The text of a MONEY denotes its cents as hundredths. -/
theorem showMoney_denotes
    (cents : Int) :
    DenotesDecimal (showMoney cents) 2 (cents / 100) (moneyLiteral cents) where
  wellFormed :=
    ⟨Json.NumberLiteral.wholeDigits_decimalList _, fun _ => Text.isDigit_of_mem_zeroPadList⟩
  noPower := rfl
  written := by
    by_cases negative : cents < 0 <;>
      simp [showMoney, Text.decimal, Text.padded, moneyLiteral, Json.NumberLiteral.text,
        fractionText_of_ne_nil Text.zeroPadList_ne_nil, Json.exponentText, negative]
  placesWritten := Text.length_zeroPadList (by norm_num) (Nat.mod_lt _ (by norm_num))
  denoted := by
    have two : (moneyLiteral cents).fraction.length = 2 :=
      Text.length_zeroPadList (by norm_num) (Nat.mod_lt _ (by norm_num))
    have spelled : (moneyLiteral cents).digitsRead = cents.natAbs := by
      rw [Json.NumberLiteral.digitsRead, Text.foldDigits_append, Text.foldDigits_eq, two,
        moneyLiteral, Text.foldDigits_decimalList, Text.foldDigits_zeroPadList]
      omega
    rw [rational_of_units rfl spelled, two]
    rcases lt_or_ge cents 0 with negative | nonnegative
    · have size : ((cents.natAbs : Nat) : ℚ) = -cents := by
        rw [Nat.cast_natAbs, abs_of_neg negative, Int.cast_neg]
      rw [size, moneyLiteral, if_pos (by simpa using negative)]
      ring
    · have size : ((cents.natAbs : Nat) : ℚ) = cents := by
        rw [Nat.cast_natAbs, abs_of_nonneg nonnegative]
      rw [size, moneyLiteral, if_neg (by simpa using nonnegative)]
      ring

/--
Every finite NUMERIC whose digits lie within its scale, and every MONEY, is
decoded as a decimal text that is read as exactly the number that was sent, with
as many digits after the point as the scale says, and two for a MONEY.
-/
theorem exact_numbers_read_back :
    (∀ numeric : Numeric,
      ∃ text literal,
        decodeNumeric? numeric.bytes = some text
          ∧ Json.readNumber text.toList = .ok (literal, [])
          ∧ DenotesDecimal text numeric.scale.toNat numeric.number literal)
      ∧ ∀ cents : Int64,
        ∃ text literal,
          decodeMoney? (signedBytes 8 cents.toInt) = some text
            ∧ Json.readNumber text.toList = .ok (literal, [])
            ∧ DenotesDecimal text 2 ((cents.toInt : ℚ) / 100) literal := by
  constructor
  · intro numeric
    exact ⟨_, _, decodeNumeric?_bytes numeric, numeric.denotes.readNumber, numeric.denotes⟩
  · intro cents
    have denotes := showMoney_denotes cents.toInt
    refine ⟨_, _, ?_, denotes.readNumber, denotes⟩
    rw [decodeMoney?, if_pos (length_signedBytes 8 _), signedOf_signedBytes_int64]

/-- Three groups around a point, with a scale that ends inside the last of them. -/
def debt : Numeric where
  isNegative := true
  groups := [1, 0, 5000]
  weight := 1
  scale := 2
  small := by decide
  opens := by decide
  weightless := nofun
  counted := by decide
  covered := by
    have weight : (1 : Int16).toInt = 1 := by
      decide
    have scale : (2 : UInt16).toNat = 2 := by
      decide
    refine ⟨1000050, ?_⟩
    rw [weight, scale]
    norm_num [groupsSum, Finset.sum_range_succ]

/-- A debt and the least amount of money are read back, each with two places. -/
theorem exact_numbers_read_back_debt :
    (∃ text literal,
      decodeNumeric? debt.bytes = some text
        ∧ Json.readNumber text.toList = .ok (literal, [])
        ∧ DenotesDecimal text 2 debt.number literal)
      ∧ ∃ text literal,
        decodeMoney? (signedBytes 8 Int64.minValue.toInt) = some text
          ∧ Json.readNumber text.toList = .ok (literal, [])
          ∧ DenotesDecimal text 2 ((Int64.minValue.toInt : ℚ) / 100) literal :=
  ⟨exact_numbers_read_back.1 debt, exact_numbers_read_back.2 Int64.minValue⟩

example :
    decodeNumeric? [0, 3, 0, 1, 0x40, 0, 0, 2, 0, 1, 0, 0, 0x13, 0x88] = some "-10000.50" := by
  decide +kernel

end Postgres

end QueryAgent

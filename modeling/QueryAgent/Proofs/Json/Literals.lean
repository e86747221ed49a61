import QueryAgent.Json.Reader
import QueryAgent.Json.Writer
import QueryAgent.Proofs.Number.ShortestDecimal
import QueryAgent.Proofs.Text.Decimal

namespace QueryAgent.Json

/-!
# Written numbers read back

A number is written as digits, with a point or a power of ten where it is a
double.  Each form reads back, part by part, as the digits that were written.
An integer of 64 bits is what these digits denote, and the digits of a finite
double are the shortest that round to it.
-/

/-! ## The parts of a number -/

/-- A character that a number goes on with. -/
def continuesNumber
    (character : Char) : Bool :=
  character.isDigit || character = '.' || character = 'e' || character = 'E'

/-- A text that a number in front of it does not go on with. -/
abbrev EndsNumber
    (after : List Char) : Prop :=
  Text.EndsRun continuesNumber after

/-- A number also has no further digit where it ends. -/
theorem EndsNumber.endsDigits
    {after : List Char}
    (ends : EndsNumber after) :
    Text.EndsRun Char.isDigit after := by
  intro character first
  have stops := ends character first
  simp only [continuesNumber, Bool.or_eq_false_iff] at stops
  exact stops.1.1.1

/-- Digits are read up to something else. -/
theorem readDigits_append
    {digits after : List Char}
    (digitsOnly : ∀ character ∈ digits, character.isDigit = true)
    (nonempty : digits ≠ [])
    (ends : Text.EndsRun Char.isDigit after) :
    readDigits (digits ++ after) = .ok (digits, after) := by
  have taken : (digits ++ after).takeWhile Char.isDigit = digits :=
    Text.takeWhile_append_of_endsRun digitsOnly ends
  have left : (digits ++ after).dropWhile Char.isDigit = after :=
    Text.dropWhile_append_of_endsRun digitsOnly ends
  unfold readDigits
  simp [taken, left, nonempty]

/-- Digits before the point: a lone zero, or digits with none in front. -/
structure WholeDigits
    (digits : List Char) : Prop where
  digitsOnly : ∀ character ∈ digits, character.isDigit = true
  nonempty : digits ≠ []
  noLeadingZero : digits = ['0'] ∨ digits.head? ≠ some '0'

/-- The digits before the point are read up to something else. -/
theorem readWhole_append
    {digits after : List Char}
    (whole : WholeDigits digits)
    (ends : Text.EndsRun Char.isDigit after) :
    readWhole (digits ++ after) = .ok (digits, after) := by
  rcases whole.noLeadingZero with rfl | notZero
  · cases after with
    | nil =>
        rfl
    | cons next rest =>
        have stops : next.isDigit = false :=
          ends next rfl
        simp [readWhole, stops]
  · cases digits with
    | nil =>
        exact absurd rfl whole.nonempty
    | cons digit rest =>
        have notZeroDigit : digit ≠ '0' := by
          simpa using notZero
        rw [List.cons_append, readWhole]
        · rw [← List.cons_append]
          exact readDigits_append whole.digitsOnly whole.nonempty ends
        · simp [notZeroDigit]

/-- What is written for the digits behind the point. -/
def fractionText : List Char → List Char
  | [] =>
      []
  | digits =>
      '.' :: digits

/-- How it is written whether an exponent is negative. -/
inductive ExponentSign : Bool → List Char → Prop where
  | absent :
      ExponentSign false []
  | plus :
      ExponentSign false ['+']
  | minus :
      ExponentSign true ['-']

/-- How a power of ten is written: a mark of either case, a sign or none, and digits. -/
inductive ExponentWrittenAs : Option Int → List Char → Prop where
  | absent :
      ExponentWrittenAs none []
  | marked
      {mark : Char}
      {negative : Bool}
      {sign digits : List Char}
      (marks : mark = 'e' ∨ mark = 'E')
      (signs : ExponentSign negative sign)
      (digitsOnly : ∀ character ∈ digits, character.isDigit = true)
      (nonempty : digits ≠ []) :
      ExponentWrittenAs
        (some (if negative then -(Text.foldDigits 0 digits) else Text.foldDigits 0 digits))
        (mark :: (sign ++ digits))

/-- The sign of an exponent is read up to its digits. -/
theorem readExponentSign_written
    {negative : Bool}
    {sign digits : List Char}
    (signs : ExponentSign negative sign)
    (digitsOnly : ∀ character ∈ digits, character.isDigit = true)
    (nonempty : digits ≠ [])
    (after : List Char) :
    readExponentSign (sign ++ (digits ++ after)) = (negative, digits ++ after) := by
  cases signs with
  | absent =>
      cases digits with
      | nil =>
          exact absurd rfl nonempty
      | cons digit rest =>
          have isDigit := digitsOnly digit (by simp)
          rw [List.nil_append, List.cons_append, readExponentSign]
          all_goals
            intro others shape
            cases shape
            cases isDigit
  | plus | minus =>
      rfl

section
variable {exponent : Option Int} {power after : List Char}

/-- A power of ten and what follows open with no digit and no point. -/
theorem ExponentWrittenAs.notDigit_notPoint
    (written : ExponentWrittenAs exponent power)
    (ends : EndsNumber after)
    {first : Char}
    (opens : (power ++ after).head? = some first) :
    first.isDigit = false ∧ first ≠ '.' := by
  cases written with
  | absent =>
      have stops := ends first opens
      simp only [continuesNumber, Bool.or_eq_false_iff, decide_eq_false_iff_not] at stops
      exact stops.1.1
  | marked marks =>
      obtain rfl := Option.some.inj opens
      rcases marks with rfl | rfl <;> decide

/-- No digit goes on where a power of ten or the end follows. -/
theorem ExponentWrittenAs.endsDigits
    (written : ExponentWrittenAs exponent power)
    (ends : EndsNumber after) :
    Text.EndsRun Char.isDigit (power ++ after) :=
  fun _ opens => (written.notDigit_notPoint ends opens).1

/-- The digits behind the point are read up to a power of ten or the end. -/
theorem readFraction_written
    {digits : List Char}
    (digitsOnly : ∀ character ∈ digits, character.isDigit = true)
    (written : ExponentWrittenAs exponent power)
    (ends : EndsNumber after) :
    readFraction (fractionText digits ++ (power ++ after)) = .ok (digits, power ++ after) := by
  cases digits with
  | nil =>
      rw [fractionText, List.nil_append, readFraction]
      intro rest shape
      exact (written.notDigit_notPoint ends (by rw [shape]; rfl)).2 rfl
  | cons digit rest =>
      exact readDigits_append digitsOnly (List.cons_ne_nil _ _) (written.endsDigits ends)

/-- A power of ten is read up to the end. -/
theorem readExponent_written
    (written : ExponentWrittenAs exponent power)
    (ends : EndsNumber after) :
    readExponent (power ++ after) = .ok (exponent, after) := by
  cases written with
  | absent =>
      cases after with
      | nil =>
          rfl
      | cons character rest =>
          have stops := ends character rfl
          simp only [continuesNumber, Bool.or_eq_false_iff, decide_eq_false_iff_not] at stops
          simp [readExponent, stops.1.2, stops.2]
  | marked marks signs digitsOnly nonempty =>
      simp [readExponent, marks, readExponentSign_written signs digitsOnly nonempty,
        readDigits_append digitsOnly nonempty ends.endsDigits, bind, Except.bind]

end

namespace NumberLiteral

/-- How a number is written: a sign or none, digits, and what may follow them. -/
inductive WrittenAs : NumberLiteral → List Char → Prop where
  | parts
      (negative : Bool)
      {whole fraction power : List Char}
      {exponent : Option Int}
      (wholeDigits : WholeDigits whole)
      (fractionDigits : ∀ character ∈ fraction, character.isDigit = true)
      (written : ExponentWrittenAs exponent power) :
      WrittenAs ⟨negative, whole, fraction, exponent⟩
        ((if negative then ['-'] else []) ++ (whole ++ (fractionText fraction ++ power)))

/-- The parts of a written number are read back. -/
theorem readNumber_written
    {literal : NumberLiteral}
    {text after : List Char}
    (writtenAs : literal.WrittenAs text)
    (ends : EndsNumber after) :
    readNumber (text ++ after) = .ok (literal, after) := by
  cases writtenAs with
  | @parts negative whole fraction power exponent wholeDigits fractionDigits written =>
      have endsWhole :
          Text.EndsRun Char.isDigit (fractionText fraction ++ (power ++ after)) := by
        cases fraction with
        | nil =>
            exact written.endsDigits ends
        | cons digit rest =>
            intro character first
            cases first
            rfl
      have unsigned :
          readUnsigned negative (whole ++ (fractionText fraction ++ (power ++ after))) =
            .ok (⟨negative, whole, fraction, exponent⟩, after) := by
        simp [readUnsigned, readWhole_append wholeDigits endsWhole,
          readFraction_written fractionDigits written ends, readExponent_written written ends,
          bind, Except.bind]
      cases negative with
      | true =>
          simpa [readNumber] using unsigned
      | false =>
          have noSign :
              ∀ rest,
                whole ++ (fractionText fraction ++ (power ++ after)) ≠ '-' :: rest := by
            intro rest shape
            cases whole with
            | nil =>
                exact wholeDigits.nonempty rfl
            | cons digit others =>
                have isDigit := wholeDigits.digitsOnly digit (by simp)
                cases shape
                cases isDigit
          simp only [List.nil_append, List.append_assoc, Bool.false_eq_true, if_false]
          rw [readNumber]
          · exact unsigned
          · exact noSign

end NumberLiteral

/-- What the agent writes for a power of ten. -/
def exponentText : Option Int → List Char
  | none =>
      []
  | some power =>
      'e' :: (if power < 0 then '-' else '+') :: Text.decimalList power.natAbs

theorem exponentWrittenAs_text
    (exponent : Option Int) :
    ExponentWrittenAs exponent (exponentText exponent) := by
  cases exponent with
  | none =>
      exact .absent
  | some power =>
      have written {negative : Bool} {sign : List Char} (signs : ExponentSign negative sign) :=
        ExponentWrittenAs.marked (.inl rfl) signs
          (fun _ member => Text.isDigit_of_mem_decimalList member)
          (Text.decimalList_ne_nil power.natAbs)
      rw [exponentText]
      split
      next negative =>
          have sign : -(power.natAbs : Int) = power := by
            omega
          have minus := written .minus
          rwa [if_pos rfl, Text.foldDigits_decimalList, sign] at minus
      next positive =>
          have sign : (power.natAbs : Int) = power := by
            omega
          have plus := written .plus
          rwa [if_neg Bool.false_ne_true, Text.foldDigits_decimalList, sign] at plus

namespace NumberLiteral

/-- What the agent writes for a number, part by part. -/
def text
    (literal : NumberLiteral) : List Char :=
  (if literal.negative then ['-'] else [])
    ++ (literal.whole ++ (fractionText literal.fraction ++ exponentText literal.exponent))

/-- A number with digits where they belong. -/
structure WellFormed
    (literal : NumberLiteral) : Prop where
  whole : WholeDigits literal.whole
  fraction : ∀ character ∈ literal.fraction, character.isDigit = true

theorem writtenAs_text
    {literal : NumberLiteral}
    (wellFormed : literal.WellFormed) :
    literal.WrittenAs literal.text :=
  .parts literal.negative wellFormed.whole wellFormed.fraction
    (exponentWrittenAs_text literal.exponent)

/-! ## Integers -/

/-- An integer as it is written. -/
def ofInteger
    (value : Int) : NumberLiteral :=
  ⟨decide (value < 0), Text.decimalList value.natAbs, [], none⟩

/-- An integer is written as its digits behind its sign. -/
theorem text_ofInteger
    (value : Int) :
    (Text.integer value).toList = (ofInteger value).text := by
  by_cases negative : value < 0 <;>
    simp [Text.integer, Text.decimal, ofInteger, text, fractionText, exponentText, negative]

/-- The digits of a natural number have no zero in front. -/
theorem wholeDigits_decimalList
    (number : Nat) :
    WholeDigits (Text.decimalList number) where
  digitsOnly := fun _ member => Text.isDigit_of_mem_decimalList member
  nonempty := Text.decimalList_ne_nil number
  noLeadingZero := by
    rcases Nat.eq_zero_or_pos number with rfl | positive
    · left
      decide +kernel
    · right
      exact Text.head?_decimalList_ne_zero positive

theorem wellFormed_ofInteger
    (value : Int) :
    (ofInteger value).WellFormed where
  whole := wholeDigits_decimalList _
  fraction := by
    simp [ofInteger]

/-- A written integer of at most 64 bits denotes itself. -/
theorem value_ofInteger
    {value : Int}
    (least : -(leastMagnitude : Int) ≤ value)
    (greatest : value ≤ greatestInteger) :
    (ofInteger value).value = .ok (.integer value) := by
  unfold NumberLiteral.value ofInteger isWhole
  simp only [Text.foldDigits_decimalList, List.isEmpty_nil, Option.isNone_none, Bool.and_self,
    Bool.true_and]
  by_cases negative : value < 0
  · have notZero : value.natAbs ≠ 0 := by
      omega
    have fits : value.natAbs ≤ leastMagnitude := by
      omega
    have sign : -(value.natAbs : Int) = value := by
      omega
    simp [-Nat.cast_natAbs, negative, notZero, fits, sign]
  · have fits : value.natAbs ≤ greatestInteger := by
      omega
    have sign : (value.natAbs : Int) = value := by
      omega
    simp [-Nat.cast_natAbs, negative, fits, sign]

/-! ## Doubles -/

/-- Digits with a point after the given number of them, as they are written. -/
def ofPoint
    (negative : Bool)
    (digits : List Char)
    (before : Int) : NumberLiteral :=
  if before ≤ 0 then
    ⟨negative, ['0'], List.replicate (-before).toNat '0' ++ digits, none⟩
  else if before.toNat < digits.length then
    ⟨negative, digits.take before.toNat, digits.drop before.toNat, none⟩
  else
    ⟨negative, digits ++ List.replicate (before.toNat - digits.length) '0', ['0'], none⟩

/-- Digits with a power of ten, as they are written. -/
def ofPower
    (negative : Bool)
    (digits : List Char)
    (leading : Int) : NumberLiteral :=
  ⟨negative, digits.take 1, digits.drop 1, some leading⟩

/-- A finite double as it is written. -/
def ofFloat
    (double : Number.Binary64) : NumberLiteral :=
  if double.isZero then
    ⟨double.isNegative, ['0'], ['0'], none⟩
  else
    let digits := Text.decimalList double.shortest.digits
    let before := double.shortest.exponent + digits.length
    if -5 ≤ before - 1 && before - 1 ≤ 15 then
      ofPoint double.isNegative digits before
    else
      ofPower double.isNegative digits (before - 1)

section
variable {digits : List Char}

/-- A point is placed among digits as the parts are written. -/
theorem text_ofPoint
    (negative : Bool)
    (nonempty : digits ≠ [])
    (before : Int) :
    (ofPoint negative digits before).text =
      (if negative then ['-'] else []) ++ Number.placePoint digits before true := by
  have written :
      ∀ fraction : List Char, fraction ≠ [] → fractionText fraction = '.' :: fraction := by
    intro fraction notEmpty
    cases fraction with
    | nil =>
        exact absurd rfl notEmpty
    | cons digit rest =>
        rfl
  unfold ofPoint Number.placePoint text
  split
  · rw [written _ (by simp [nonempty])]
    simp [exponentText]
  · split
    next inside =>
        have behind : digits.drop before.toNat ≠ [] := by
          rw [ne_eq, List.drop_eq_nil_iff]
          omega
        rw [written _ behind]
        simp [exponentText]
    · simp [fractionText, exponentText]

/-- A power of ten is placed behind digits as the parts are written. -/
theorem text_ofPower
    (negative : Bool)
    (nonempty : digits ≠ [])
    (leading : Int) :
    (ofPower negative digits leading).text =
      (if negative then ['-'] else []) ++ Number.placeExponent digits leading := by
  unfold ofPower Number.placeExponent text
  match digits, nonempty with
  | [digit], _ =>
      simp [fractionText, exponentText]
  | first :: second :: rest, _ =>
      simp [fractionText, exponentText]

section
variable
  (digitsOnly : ∀ character ∈ digits, character.isDigit = true)
  (nonempty : digits ≠ [])
  (noLeadingZero : digits.head? ≠ some '0')

include digitsOnly nonempty noLeadingZero in
/-- The first digits of a number are digits before a point. -/
theorem wholeDigits_take
    {count : Nat}
    (positive : 0 < count) :
    WholeDigits (digits.take count) where
  digitsOnly := fun character member => digitsOnly character (List.mem_of_mem_take member)
  nonempty := by
    simp [nonempty, positive.ne']
  noLeadingZero := by
    right
    rw [List.head?_take, if_neg positive.ne']
    exact noLeadingZero

include digitsOnly nonempty noLeadingZero in
theorem wellFormed_ofPoint
    (negative : Bool)
    (before : Int) :
    (ofPoint negative digits before).WellFormed := by
  unfold ofPoint
  split
  · refine ⟨⟨by simp, by simp, .inl rfl⟩, ?_⟩
    intro character member
    rcases List.mem_append.mp member with zero | digit
    · rw [List.eq_of_mem_replicate zero]
      rfl
    · exact digitsOnly character digit
  · split
    · refine ⟨wholeDigits_take digitsOnly nonempty noLeadingZero (by omega), ?_⟩
      exact fun character member => digitsOnly character (List.mem_of_mem_drop member)
    · refine ⟨⟨?_, by simp [nonempty], .inr ?_⟩, by simp⟩
      · intro character member
        rcases List.mem_append.mp member with digit | zero
        · exact digitsOnly character digit
        · rw [List.eq_of_mem_replicate zero]
          rfl
      · cases digits with
        | nil =>
            exact absurd rfl nonempty
        | cons digit rest =>
            simpa using noLeadingZero

include digitsOnly nonempty noLeadingZero in
theorem wellFormed_ofPower
    (negative : Bool)
    (leading : Int) :
    (ofPower negative digits leading).WellFormed where
  whole := wholeDigits_take digitsOnly nonempty noLeadingZero Nat.one_pos
  fraction := fun character member => digitsOnly character (List.mem_of_mem_drop member)

end

theorem negative_ofPoint
    (negative : Bool)
    (digits : List Char)
    (before : Int) :
    (ofPoint negative digits before).negative = negative := by
  unfold ofPoint
  split
  · rfl
  · split <;> rfl

/-- A digit stands behind the point wherever it is placed. -/
theorem isWhole_ofPoint
    (negative : Bool)
    (nonempty : digits ≠ [])
    (before : Int) :
    (ofPoint negative digits before).isWhole = false := by
  unfold ofPoint
  split
  · simp [isWhole, nonempty]
  · split
    next inside =>
        have behind : digits.drop before.toNat ≠ [] := by
          rw [ne_eq, List.drop_eq_nil_iff]
          omega
        simp [isWhole, behind]
    · rfl

/-- The digits of a written number, read as one number. -/
def digitsRead
    (literal : NumberLiteral) : Nat :=
  Text.foldDigits 0 (literal.whole ++ literal.fraction)

/-- The power of ten that the digits of a written number count. -/
def places
    (literal : NumberLiteral) : Int :=
  literal.exponent.getD 0 - literal.fraction.length

/-- A point does not change what digits denote. -/
theorem value_ofPoint
    (negative : Bool)
    (before : Int) :
    ((ofPoint negative digits before).digitsRead : ℚ)
        * 10 ^ (ofPoint negative digits before).places =
      Text.foldDigits 0 digits * 10 ^ (before - digits.length) := by
  unfold digitsRead places ofPoint
  split
  next small =>
      have zeros :
          Text.foldDigits 0 (['0'] ++ (List.replicate (-before).toNat '0' ++ digits)) =
            Text.foldDigits 0 digits := by
        rw [Text.foldDigits_append, Text.foldDigits_append, Text.foldDigits_zeros,
          show Text.foldDigits 0 ['0'] = 0 from rfl, Nat.zero_mul]
      have count :
          (0 : Int) - ((List.replicate (-before).toNat '0' ++ digits).length : Nat) =
            before - digits.length := by
        rw [List.length_append, List.length_replicate]
        omega
      simp only [zeros, Option.getD_none, count]
  · split
    next inside =>
        have count :
            (0 : Int) - ((digits.drop before.toNat).length : Nat) = before - digits.length := by
          rw [List.length_drop]
          omega
        simp only [List.take_append_drop, Option.getD_none, count]
    next outside =>
        have zeros :
            Text.foldDigits 0
                (digits ++ List.replicate (before.toNat - digits.length) '0' ++ ['0']) =
              Text.foldDigits 0 digits * 10 ^ (before.toNat - digits.length) * 10 := by
          rw [Text.foldDigits_append, Text.foldDigits_append, Text.foldDigits_zeros]
          rfl
        have count : before - digits.length = ((before.toNat - digits.length : Nat) : Int) := by
          omega
        simp only [zeros, Option.getD_none, List.length_singleton, count, zpow_natCast]
        push_cast
        norm_num
        ring

/-- A power of ten makes up for the point behind the first digit. -/
theorem value_ofPower
    (negative : Bool)
    (nonempty : digits ≠ [])
    (leading : Int) :
    ((ofPower negative digits leading).digitsRead : ℚ)
        * 10 ^ (ofPower negative digits leading).places =
      Text.foldDigits 0 digits * 10 ^ (leading + 1 - digits.length) := by
  have count :
      leading - ((digits.drop 1).length : Nat) = leading + 1 - digits.length := by
    have := List.length_pos_of_ne_nil nonempty
    rw [List.length_drop]
    omega
  unfold digitsRead places ofPower
  simp only [List.take_append_drop, Option.getD_some, count]

end

section
variable {double : Number.Binary64}

/-- A double is written as its sign and its digits. -/
theorem text_ofFloat
    (double : Number.Binary64) :
    (floatLayout.render double).toList = (ofFloat double).text := by
  have sign :
      (if double.isNegative then "-" else "").toList =
        if double.isNegative then ['-'] else [] := by
    cases double.isNegative <;> rfl
  have nonempty := Text.decimalList_ne_nil double.shortest.digits
  unfold Number.FloatLayout.render ofFloat floatLayout
  cases double.isZero with
  | true =>
      simp only [if_true, String.toList_append, sign]
      rfl
  | false =>
      simp only [Bool.false_eq_true, if_false, String.toList_append, sign, String.toList_ofList]
      rw [apply_ite text, text_ofPoint _ nonempty, text_ofPower _ nonempty]
      exact apply_ite (fun body => (if double.isNegative then ['-'] else []) ++ body) _ _ _

/-- The shortest decimal of a double other than zero has digits. -/
theorem shortest_digits_pos
    (notZero : 0 < double.significand) :
    0 < double.shortest.digits := by
  have valuePositive := (Number.Binary64.roundsTo_shortest notZero).pos notZero
  rcases Nat.eq_zero_or_pos double.shortest.digits with none | positive
  · rw [Number.Decimal.value, none, Nat.cast_zero, zero_mul] at valuePositive
    exact absurd valuePositive (lt_irrefl 0)
  · exact positive

/-- A double with a code other than zero has a significand. -/
theorem significand_pos
    (notZero : double.isZero = false) :
    0 < double.significand := by
  have code := double.code_eq
  have lowest := double.scale_ge
  rw [Number.Binary64.isZero, beq_eq_false_iff_ne] at notZero
  by_cases normal : -1074 < double.scale
  · have := Number.Binary64.significand_ge normal
    omega
  · have least : (double.scale + 1074).toNat = 0 := by
      omega
    rw [least, Nat.zero_mul, Nat.zero_add] at code
    omega

theorem wellFormed_ofFloat
    (double : Number.Binary64) :
    (ofFloat double).WellFormed := by
  unfold ofFloat
  split
  · exact ⟨⟨by simp, by simp, .inl rfl⟩, by simp⟩
  next notZero =>
      have positive := shortest_digits_pos (significand_pos (by simpa using notZero))
      have digitsOnly :
          ∀ character ∈ Text.decimalList double.shortest.digits,
            character.isDigit = true :=
        fun _ member => Text.isDigit_of_mem_decimalList member
      have nonempty := Text.decimalList_ne_nil double.shortest.digits
      have noLeadingZero := Text.head?_decimalList_ne_zero positive
      simp only
      split
      · exact wellFormed_ofPoint digitsOnly nonempty noLeadingZero _ _
      · exact wellFormed_ofPower digitsOnly nonempty noLeadingZero _ _

/-- The digits of a written double denote its shortest decimal. -/
theorem value_digits_ofFloat
    (notZero : double.isZero = false) :
    ((ofFloat double).digitsRead : ℚ) * 10 ^ (ofFloat double).places =
      double.shortest.value := by
  have nonempty := Text.decimalList_ne_nil double.shortest.digits
  unfold ofFloat Number.Decimal.value
  rw [if_neg (by simp [notZero])]
  simp only
  split
  · rw [value_ofPoint, Text.foldDigits_decimalList, add_sub_cancel_right]
  · rw [value_ofPower _ nonempty, Text.foldDigits_decimalList, sub_add_cancel,
      add_sub_cancel_right]

theorem negative_ofFloat
    (double : Number.Binary64) :
    (ofFloat double).negative = double.isNegative := by
  unfold ofFloat
  split
  · rfl
  · simp only
    split
    · exact negative_ofPoint _ _ _
    · rfl

/-- A double is never written like an integer. -/
theorem isWhole_ofFloat
    (double : Number.Binary64) :
    (ofFloat double).isWhole = false := by
  unfold ofFloat
  split
  · rfl
  · simp only
    split
    · exact isWhole_ofPoint _ (Text.decimalList_ne_nil _) _
    · simp [ofPower, isWhole]

end

end NumberLiteral

end QueryAgent.Json

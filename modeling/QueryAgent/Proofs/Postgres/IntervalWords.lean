import QueryAgent.Proofs.Postgres.IntervalReading
import Mathlib.Data.List.TakeWhile

namespace QueryAgent.Postgres

/-!
# The words of an interval

An interval is written as words with blanks between them: two for each field
that is not zero, and one for a time.  Each word is read on its own, a number or
a time behind its mark.
-/

/-! ## Marks and fields -/

/-- The mark that is written for a number, given whether the part before is negative. -/
def markOf
    (afterNegative isNegative isUpward : Bool) : Text.Mark :=
  if isNegative then
    .minus
  else if afterNegative && isUpward then
    .plus
  else
    .absent

/-- What is read of a number that is written unless it is zero. -/
def fieldOf
    (afterNegative : Bool)
    (amount : Int) : Option ReadField :=
  if amount = 0 then
    none
  else
    some ⟨markOf afterNegative (amount < 0) (0 < amount), amount.natAbs⟩

/-- What is read of a time. -/
def timeOf
    (afterNegative : Bool)
    (microseconds : Int) : ReadTime :=
  ⟨markOf afterNegative (microseconds < 0) true, .ofTotal microseconds.natAbs⟩

/-- Whether the nearest part written is negative, once a number has been dealt with. -/
def negativeAfter
    (afterNegative : Bool)
    (amount : Int) : Bool :=
  if amount = 0 then
    afterNegative
  else
    decide (amount < 0)

/-- The word of a unit, in the plural unless there is one of it. -/
def unitWord
    (field : Interval.Field) : List Char :=
  field.name.toList ++ if field.amount ≠ 1 then ['s'] else []

/-- The words of a field. -/
def fieldWords
    (afterNegative : Bool)
    (field : Interval.Field) : List (List Char) :=
  [(markOf afterNegative (field.amount < 0) (0 < field.amount)).text
      ++ Text.decimalList field.amount.natAbs,
    unitWord field]

/-- The words of each field in turn, none for a field that is zero. -/
def fieldGroups
    (afterNegative : Bool) : List Interval.Field → List (List (List Char))
  | [] =>
      []
  | field :: rest =>
      (if field.amount = 0 then [] else [fieldWords afterNegative field])
        ++ fieldGroups (negativeAfter afterNegative field.amount) rest

/-- A plus sign in front of a number and the minus sign of the number are its mark. -/
theorem text_markOf
    (afterNegative : Bool)
    (number : Int) :
    (if afterNegative && 0 < number then ['+'] else [])
        ++ (if number < 0 then ['-'] else []) =
      (markOf afterNegative (number < 0) (0 < number)).text := by
  rcases lt_trichotomy number 0 with negative | rfl | positive
  · have notPositive : ¬ 0 < number := by
      omega
    simp [markOf, Text.Mark.text, negative, notPositive]
  · cases afterNegative <;> rfl
  · have notNegative : ¬ number < 0 := by
      omega
    cases afterNegative <;> simp [markOf, Text.Mark.text, positive, notNegative]

/-- A field is written as its two words. -/
theorem toList_showField
    (afterNegative : Bool)
    (field : Interval.Field) :
    (Interval.showField afterNegative field).toList =
      [' '].intercalate (fieldWords afterNegative field) := by
  have plus :
      (if afterNegative && 0 < field.amount then "+" else "").toList =
        if afterNegative && 0 < field.amount then ['+'] else [] := by
    split <;> rfl
  have minus :
      (Text.integer field.amount).toList =
        (if field.amount < 0 then ['-'] else []) ++ Text.decimalList field.amount.natAbs := by
    rw [Text.integer]
    split <;> simp [Text.decimal]
  have plural :
      (if field.amount ≠ 1 then "s" else "").toList = if field.amount ≠ 1 then ['s'] else [] := by
    split <;> rfl
  rw [Interval.showField, fieldWords, unitWord, ← text_markOf]
  simp only [String.toList_append, plus, minus, plural]
  simp

/-- A blank stands between words that are joined by blanks on either side of it. -/
theorem intercalate_append
    {front behind : List (List Char)}
    (frontNonempty : front ≠ [])
    (behindNonempty : behind ≠ []) :
    [' '].intercalate (front ++ behind) =
      [' '].intercalate front ++ [' '] ++ [' '].intercalate behind := by
  obtain ⟨next, others, rfl⟩ := List.exists_cons_of_ne_nil behindNonempty
  induction front with
  | nil =>
      exact absurd rfl frontNonempty
  | cons word rest inductionHypothesis =>
      cases rest with
      | nil =>
          rw [List.singleton_append, List.intercalate_cons_cons, List.intercalate_singleton]
      | cons second words =>
          rw [List.cons_append, List.cons_append, List.intercalate_cons_cons,
            List.intercalate_cons_cons, ← List.cons_append,
            inductionHypothesis (List.cons_ne_nil _ _)]
          simp

/-- Texts of words joined by blanks are the words joined by blanks. -/
theorem intercalate_groups
    {groups : List (List (List Char))}
    (nonempty : ∀ group ∈ groups, group ≠ []) :
    [' '].intercalate (groups.map fun group => [' '].intercalate group) =
      [' '].intercalate groups.flatten := by
  induction groups with
  | nil =>
      rfl
  | cons group rest inductionHypothesis =>
      have further := inductionHypothesis fun other member => nonempty other (by simp [member])
      cases rest with
      | nil =>
          simp
      | cons next others =>
          have behind : (next :: others).flatten ≠ [] := by
            simp [nonempty next (by simp)]
          calc
            [' '].intercalate
                  ((group :: next :: others).map fun group => [' '].intercalate group) =
                [' '].intercalate group ++ [' '] ++ [' '].intercalate (next :: others).flatten := by
              rw [List.map_cons, List.map_cons, List.intercalate_cons_cons, ← List.map_cons,
                further]
            _ = [' '].intercalate (group :: next :: others).flatten := by
              rw [← intercalate_append (nonempty group (by simp)) behind]
              rfl

/-- The texts of fields are their words, and the last of them says which sign comes next. -/
theorem showFields_filter
    (afterNegative : Bool)
    (fields : List Interval.Field) :
    (Interval.showFields afterNegative (fields.filter fun field => field.amount ≠ 0)).1.map
        String.toList =
      (fieldGroups afterNegative fields).map (fun group => [' '].intercalate group)
      ∧ (Interval.showFields afterNegative (fields.filter fun field => field.amount ≠ 0)).2 =
        fields.foldl (fun negative field => negativeAfter negative field.amount) afterNegative := by
  -- The flag is general: a field that is not zero replaces it by its own sign.
  induction fields generalizing afterNegative with
  | nil =>
      exact ⟨rfl, rfl⟩
  | cons field rest inductionHypothesis =>
      rw [fieldGroups, List.foldl_cons]
      by_cases zero : field.amount = 0
      · have same : negativeAfter afterNegative field.amount = afterNegative := by
          rw [negativeAfter, if_pos zero]
        rw [List.filter_cons_of_neg (by simpa using zero), same, if_pos zero]
        exact inductionHypothesis afterNegative
      · have next : negativeAfter afterNegative field.amount = decide (field.amount < 0) := by
          rw [negativeAfter, if_neg zero]
        obtain ⟨texts, last⟩ := inductionHypothesis (decide (field.amount < 0))
        rw [List.filter_cons_of_pos (by simpa using zero), next, if_neg zero, Interval.showFields]
        dsimp only
        exact ⟨by rw [List.map_cons, toList_showField, texts]; rfl, last⟩

/-! ## The word of a time -/

/-- The word of a time. -/
def timeWord
    (afterNegative : Bool)
    (microseconds : Int) : List Char :=
  (Interval.showTime afterNegative microseconds).toList

/-- Zeros at the end are all that is dropped there. -/
theorem exists_append_dropTrailingZeros
    (digits : List Char) :
    ∃ count, digits = Interval.dropTrailingZeros digits ++ List.replicate count '0' := by
  have zeros :
      digits.reverse.takeWhile (· == '0') =
        List.replicate (digits.reverse.takeWhile (· == '0')).length '0' := by
    refine List.eq_replicate_of_mem fun character member => ?_
    simpa using List.mem_takeWhile_imp member
  refine ⟨(digits.reverse.takeWhile (· == '0')).length, ?_⟩
  rw [Interval.dropTrailingZeros, ← List.reverse_replicate, ← zeros, ← List.reverse_append,
    List.takeWhile_append_dropWhile, List.reverse_reverse]

/-- The fraction of a second without zeros at its end is a fraction of a second. -/
theorem fractionWrittenAs_showFraction
    {microseconds : Nat}
    (small : microseconds < 10 ^ 6) :
    Text.FractionWrittenAs microseconds (Interval.showFraction microseconds).toList := by
  rw [Interval.showFraction]
  split
  next none =>
      subst none
      exact .absent
  next some =>
      let padded := Text.zeroPadList 6 (Text.decimalList microseconds)
      obtain ⟨count, cut⟩ := exists_append_dropTrailingZeros padded
      have six : padded.length = 6 :=
        Text.length_zeroPadList (by norm_num) small
      have length : (Interval.dropTrailingZeros padded).length + count = 6 := by
        rw [← six, congrArg List.length cut]
        simp
      have spelled :
          Text.foldDigits 0 (Interval.dropTrailingZeros padded) * 10 ^ count = microseconds := by
        rw [← Nat.pow_eq, ← Text.foldDigits_zeros, ← Text.foldDigits_append, ← cut]
        exact Text.foldDigits_zeroPadList
      have digitsOnly :
          ∀ character ∈ Interval.dropTrailingZeros padded, character.isDigit = true := by
        intro character member
        have inPadded : character ∈ padded := by
          rw [cut]
          exact List.mem_append_left _ member
        exact Text.isDigit_of_mem_zeroPadList inPadded
      have nonempty : Interval.dropTrailingZeros padded ≠ [] := by
        intro nothing
        rw [nothing] at spelled
        exact some (by simpa [Text.foldDigits] using spelled.symm)
      have written := Text.FractionWrittenAs.point digitsOnly nonempty (by omega)
      have place : 6 - (Interval.dropTrailingZeros padded).length = count := by
        omega
      rw [place, spelled] at written
      simpa using written

/-- A time is written as its mark and a clock time. -/
theorem timeWord_eq
    (afterNegative : Bool)
    (microseconds : Int) :
    timeWord afterNegative microseconds =
      (timeOf afterNegative microseconds).mark.text
        ++ Text.clockList (timeOf afterNegative microseconds).clock.hours
          (timeOf afterNegative microseconds).clock.minutes
          (timeOf afterNegative microseconds).clock.seconds
          (Interval.showFraction
            (timeOf afterNegative microseconds).clock.microseconds).toList := by
  have mark :
      (if microseconds < 0 then "-" else if afterNegative then "+" else "").toList =
        (markOf afterNegative (microseconds < 0) true).text := by
    by_cases negative : microseconds < 0 <;> cases afterNegative <;>
      simp [markOf, Text.Mark.text, negative]
  rw [timeWord, Interval.showTime, timeOf]
  simp only [String.toList_append, mark]
  simp [Text.clockList, Text.ClockTime.ofTotal, Text.padded]

/-- Minutes and seconds stay below sixty. -/
theorem minutes_seconds_timeOf
    (afterNegative : Bool)
    (microseconds : Int) :
    (timeOf afterNegative microseconds).clock.minutes < 60
      ∧ (timeOf afterNegative microseconds).clock.seconds < 60 :=
  ⟨Text.ClockTime.minutes_ofTotal_lt microseconds.natAbs,
    Text.ClockTime.seconds_ofTotal_lt microseconds.natAbs⟩

/-- What stands behind the seconds of a time is its fraction of a second. -/
theorem fraction_timeOf
    (afterNegative : Bool)
    (microseconds : Int) :
    Text.FractionWrittenAs (timeOf afterNegative microseconds).clock.microseconds
      (Interval.showFraction (timeOf afterNegative microseconds).clock.microseconds).toList :=
  fractionWrittenAs_showFraction (Text.ClockTime.microseconds_ofTotal_lt microseconds.natAbs)

/-- The word of a time is read as the time. -/
theorem readTime?_timeWord
    (afterNegative : Bool)
    (microseconds : Int) :
    readTime? (timeWord afterNegative microseconds) = some (timeOf afterNegative microseconds) := by
  obtain ⟨minutes, seconds⟩ := minutes_seconds_timeOf afterNegative microseconds
  have read :=
    Text.readClock?_clockList (timeOf afterNegative microseconds).clock.hours
      (minutes.trans (by decide)) (seconds.trans (by decide))
      (fraction_timeOf afterNegative microseconds)
  rw [timeWord_eq, readTime?,
    Text.Mark.split_append _ fun _ => Text.isDigit_of_head?_clockList, read]
  rfl

/-! ## All words -/

/-- The fields of an interval, those that are zero among them. -/
def fieldsOf
    (interval : Interval) : List Interval.Field :=
  [⟨interval.months.tdiv 12, "year"⟩, ⟨interval.months.tmod 12, "mon"⟩, ⟨interval.days, "day"⟩]

/-- Whether the last field that is written is negative. -/
def lastIsNegative
    (interval : Interval) : Bool :=
  (fieldsOf interval).foldl (fun negative field => negativeAfter negative field.amount) false

/-- The time is written: nothing else is, or it is not zero. -/
abbrev TimeIsWritten
    (interval : Interval) : Prop :=
  fieldGroups false (fieldsOf interval) = [] ∨ interval.microseconds ≠ 0

/-- The word of the time, where one is written. -/
def timeWords
    (interval : Interval) : List (List Char) :=
  if TimeIsWritten interval then
    [timeWord (lastIsNegative interval) interval.microseconds]
  else
    []

/-- The words of an interval. -/
def intervalWords
    (interval : Interval) : List (List Char) :=
  (fieldGroups false (fieldsOf interval)).flatten ++ timeWords interval

/-- A group of words is that of a field of the list. -/
theorem exists_of_mem_fieldGroups
    {afterNegative : Bool}
    {fields : List Interval.Field}
    {group : List (List Char)}
    (member : group ∈ fieldGroups afterNegative fields) :
    ∃ field ∈ fields, ∃ negative, group = fieldWords negative field := by
  induction fields generalizing afterNegative with
  | nil =>
      cases member
  | cons field rest inductionHypothesis =>
      rw [fieldGroups] at member
      rcases List.mem_append.mp member with here | later
      · split at here
        · cases here
        · exact ⟨field, List.mem_cons_self, afterNegative, List.mem_singleton.mp here⟩
      · obtain ⟨other, inside, found⟩ := inductionHypothesis later
        exact ⟨other, List.mem_cons_of_mem _ inside, found⟩

/-- Something is written: a field that is not zero, or the time. -/
theorem intervalWords_ne_nil
    (interval : Interval) :
    intervalWords interval ≠ [] := by
  rw [intervalWords]
  by_cases nothing : fieldGroups false (fieldsOf interval) = []
  · rw [timeWords, if_pos (.inl nothing)]
    simp
  · obtain ⟨group, others, groups⟩ := List.exists_cons_of_ne_nil nothing
    have member : group ∈ fieldGroups false (fieldsOf interval) := by
      rw [groups]
      exact List.mem_cons_self
    obtain ⟨field, _, negative, rfl⟩ := exists_of_mem_fieldGroups member
    rw [groups]
    exact List.cons_ne_nil _ _

/-- The texts of the fields are those of the words, none where there are no words. -/
theorem showFields_fields
    (interval : Interval) :
    (Interval.showFields false interval.fields).1.map String.toList =
      (fieldGroups false (fieldsOf interval)).map (fun group => [' '].intercalate group)
      ∧ (Interval.showFields false interval.fields).2 = lastIsNegative interval :=
  showFields_filter false (fieldsOf interval)

/-- The text of an interval is its words with blanks between them. -/
theorem toList_written
    (interval : Interval) :
    interval.written.toList = [' '].intercalate (intervalWords interval) := by
  obtain ⟨texts, last⟩ := showFields_fields interval
  have noText :
      ((Interval.showFields false interval.fields).1.isEmpty
          || decide (interval.microseconds ≠ 0)) = true ↔
        TimeIsWritten interval := by
    rw [Bool.or_eq_true, decide_eq_true_iff, List.isEmpty_iff,
      ← List.map_eq_nil_iff (f := String.toList), texts, List.map_eq_nil_iff]
  have time :
      (if (Interval.showFields false interval.fields).1.isEmpty
            || decide (interval.microseconds ≠ 0) then
          [Interval.showTime (Interval.showFields false interval.fields).2 interval.microseconds]
        else []).map String.toList =
        timeWords interval := by
    rw [timeWords, last]
    by_cases shown : TimeIsWritten interval
    · rw [if_pos shown, if_pos (noText.mpr shown)]
      rfl
    · rw [if_neg shown, if_neg fun both => shown (noText.mp both)]
      rfl
  have single :
      (timeWords interval).map (fun word => [' '].intercalate [word]) = timeWords interval := by
    simp
  have asGroups :
      ((timeWords interval).map fun word => [word]).flatten = timeWords interval := by
    rw [← List.flatMap_def, List.flatMap_singleton']
  have nonempty :
      ∀ group ∈
          fieldGroups false (fieldsOf interval) ++ (timeWords interval).map fun word => [word],
        group ≠ [] := by
    intro group member
    rcases List.mem_append.mp member with field | time
    · obtain ⟨_, _, _, rfl⟩ := exists_of_mem_fieldGroups field
      exact List.cons_ne_nil _ _
    · obtain ⟨_, _, rfl⟩ := List.mem_map.mp time
      exact List.cons_ne_nil _ _
  have joined := intercalate_groups nonempty
  rw [List.map_append, List.map_map, Function.comp_def, single, List.flatten_append,
    asGroups] at joined
  rw [Interval.written]
  dsimp only
  rw [String.toList_intercalate, List.map_append, texts, time, intervalWords]
  exact joined

/-- No word of an interval holds a blank. -/
theorem not_mem_intervalWords
    {interval : Interval}
    {word : List Char}
    (member : word ∈ intervalWords interval) :
    ' ' ∉ word := by
  rcases List.mem_append.mp member with inField | inTime
  · obtain ⟨group, groupMember, inGroup⟩ := List.mem_flatten.mp inField
    obtain ⟨field, fieldMember, negative, rfl⟩ := exists_of_mem_fieldGroups groupMember
    have noBlankInDigits : ' ' ∉ Text.decimalList field.amount.natAbs := by
      intro blank
      cases Text.isDigit_of_mem_decimalList blank
    have noBlankInNames : ∀ name ∈ ["year", "mon", "day"], ' ' ∉ name.toList := by
      decide
    have noBlankInName :=
      noBlankInNames _ (List.mem_map_of_mem (f := Interval.Field.name) fieldMember)
    simp only [fieldWords, List.mem_cons, List.not_mem_nil, or_false] at inGroup
    rcases inGroup with rfl | rfl
    · rw [List.mem_append, not_or]
      exact ⟨Text.Mark.not_mem_text (by decide) (by decide) _, noBlankInDigits⟩
    · rw [unitWord, List.mem_append, not_or]
      exact ⟨noBlankInName, by split <;> decide⟩
  · rw [timeWords] at inTime
    split at inTime
    · rw [List.mem_singleton.mp inTime, timeWord_eq, List.mem_append, not_or]
      exact ⟨Text.Mark.not_mem_text (by decide) (by decide) _,
        Text.not_mem_clockList (fraction_timeOf _ _) rfl (by decide) (by decide) _ _⟩
    · cases inTime

/-- The text of an interval is split into its words. -/
theorem splitOn_written
    (interval : Interval) :
    interval.written.toList.splitOn ' ' = intervalWords interval := by
  rw [toList_written]
  exact List.splitOn_intercalate ' ' (fun _ => not_mem_intervalWords)
    (intervalWords_ne_nil interval)

end QueryAgent.Postgres

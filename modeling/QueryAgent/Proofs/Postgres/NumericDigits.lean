import QueryAgent.Postgres.Numeric
import QueryAgent.Proofs.Json.Literals
import QueryAgent.Proofs.Text.Padding
import Mathlib.Algebra.BigOperators.Group.Finset.Basic
import Mathlib.Data.List.GetD

namespace QueryAgent.Postgres

/-!
# The digits of groups

Groups of four decimal digits are worth the sum of the groups, each times a
power of ten thousand that its place gives.  The digits of the groups around the
point, cut where the scale ends, spell the same number in units of the last
place, as long as nothing but zeros is cut off.
-/

/-! ## The value of groups -/

/-- What groups are worth right behind the point, the first of them the greatest. -/
def fractionOf : List Nat → ℚ
  | [] =>
      0
  | group :: rest =>
      (group + fractionOf rest) / 10000

/-- What groups are worth when the first counts a power of ten thousand. -/
def groupsSum
    (groups : List Nat)
    (weight : Int) : ℚ :=
  ∑ position ∈ Finset.range groups.length,
    (groups.getD position 0 : ℚ) * 10000 ^ (weight - position)

/-- Groups are worth what they are behind the point, moved by their weight. -/
theorem groupsSum_eq
    (groups : List Nat)
    (weight : Int) :
    groupsSum groups weight = fractionOf groups * 10000 ^ (weight + 1) := by
  induction groups generalizing weight with
  | nil =>
      simp [groupsSum, fractionOf]
  | cons group rest inductionHypothesis =>
      have moved :
          groupsSum (group :: rest) weight =
            groupsSum rest (weight - 1) + group * 10000 ^ weight := by
        simp [groupsSum, Finset.sum_range_succ', sub_sub, add_comm]
      have place : (10000 : ℚ) ^ (weight + 1) = 10000 ^ weight * 10000 :=
        zpow_add_one₀ (by norm_num) weight
      rw [moved, inductionHypothesis, sub_add_cancel, place, fractionOf]
      ring

section
variable {groups : List Nat}

/-- Groups of four digits are worth less than one behind the point. -/
theorem fractionOf_bounds
    (small : ∀ group ∈ groups, group < 10000) :
    0 ≤ fractionOf groups ∧ fractionOf groups < 1 := by
  induction groups with
  | nil =>
      norm_num [fractionOf]
  | cons group rest inductionHypothesis =>
      obtain ⟨nonnegative, below⟩ :=
        inductionHypothesis fun other member => small other (by simp [member])
      have groupSmall : (group : ℚ) ≤ 9999 := by
        exact_mod_cast Nat.le_of_lt_succ (small group (by simp))
      have groupNonnegative : (0 : ℚ) ≤ group := by
        positivity
      rw [fractionOf]
      constructor
      · positivity
      · rw [div_lt_one (by norm_num)]
        linarith

/-- What the groups from a position on are worth when that one is right behind the point. -/
def remainder
    (groups : List Nat) : Int → ℚ
  | .ofNat position =>
      fractionOf (groups.drop position)
  | .negSucc before =>
      fractionOf groups / 10000 ^ (before + 1)

/-- A group comes in front of the point when the point moves on. -/
theorem remainder_step
    (groups : List Nat)
    (position : Int) :
    remainder groups position * 10000 =
      groupAt groups position + remainder groups (position + 1) := by
  rcases position with position | before
  · show fractionOf (groups.drop position) * 10000 = _ + fractionOf (groups.drop (position + 1))
    rw [groupAt]
    rcases lt_or_ge position groups.length with inside | outside
    · rw [List.drop_eq_getElem_cons inside, fractionOf, List.getD_eq_getElem _ _ inside]
      ring
    · rw [List.drop_eq_nil_of_le outside, List.drop_eq_nil_of_le (by omega),
        List.getD_eq_default _ _ outside]
      norm_num [fractionOf]
  · cases before with
    | zero =>
        have next : Int.negSucc 0 + 1 = Int.ofNat 0 :=
          rfl
        rw [next]
        simp only [remainder, groupAt, List.drop_zero]
        norm_num
    | succ before =>
        have next : (Int.negSucc (before + 1)) + 1 = Int.negSucc before := by
          omega
        rw [next]
        simp only [remainder, groupAt, Nat.cast_zero, zero_add]
        rw [pow_succ _ (before + 1)]
        field_simp

theorem remainder_bounds
    (small : ∀ group ∈ groups, group < 10000)
    (position : Int) :
    0 ≤ remainder groups position ∧ remainder groups position < 1 := by
  rcases position with position | before
  · exact fractionOf_bounds fun group member => small group (List.mem_of_mem_drop member)
  · obtain ⟨nonnegative, below⟩ := fractionOf_bounds small
    have place : (1 : ℚ) ≤ 10000 ^ (before + 1) :=
      one_le_pow₀ (by norm_num)
    constructor
    · exact div_nonneg nonnegative (by positivity)
    · exact (div_lt_one (by positivity)).mpr (below.trans_le place)

end

/-- The number that a run of groups from a position on makes. -/
def groupsFrom
    (groups : List Nat)
    (start : Int) : Nat → Nat
  | 0 =>
      0
  | count + 1 =>
      groupsFrom groups start count * 10000 + groupAt groups (start + count)

/-- The groups from a position on are the first of them and what remains. -/
theorem remainder_mul_pow
    (groups : List Nat)
    (start : Int)
    (count : Nat) :
    remainder groups start * 10000 ^ count =
      groupsFrom groups start count + remainder groups (start + count) := by
  induction count with
  | zero =>
      simp [groupsFrom]
  | succ count inductionHypothesis =>
      have next : start + (count + 1 : Nat) = start + count + 1 := by
        push_cast
        ring
      calc
        remainder groups start * 10000 ^ (count + 1) =
            (groupsFrom groups start count + remainder groups (start + count)) * 10000 := by
          rw [pow_succ, ← mul_assoc, inductionHypothesis]
        _ = groupsFrom groups start count * 10000
              + (groupAt groups (start + count) + remainder groups (start + count + 1)) := by
          rw [add_mul, remainder_step]
        _ = groupsFrom groups start (count + 1) + remainder groups (start + (count + 1 : Nat)) := by
          rw [groupsFrom, next]
          push_cast
          ring

/-- A run of groups goes on where its first part ends. -/
theorem groupsFrom_add
    (groups : List Nat)
    (start : Int)
    (first second : Nat) :
    groupsFrom groups start (first + second) =
      groupsFrom groups start first * 10000 ^ second
        + groupsFrom groups (start + first) second := by
  induction second with
  | zero =>
      simp [groupsFrom]
  | succ second inductionHypothesis =>
      have place : start + (first + second : Nat) = start + first + second := by
        push_cast
        ring
      rw [← Nat.add_assoc, groupsFrom, groupsFrom, inductionHypothesis, place]
      ring

/-! ## The digits of groups -/

theorem groupAt_lt
    {groups : List Nat}
    (small : ∀ group ∈ groups, group < 10000)
    (position : Int) :
    groupAt groups position < 10000 := by
  rcases position with position | before
  · rw [groupAt]
    rcases lt_or_ge position groups.length with inside | outside
    · rw [List.getD_eq_getElem _ _ inside]
      exact small _ (List.getElem_mem inside)
    · rw [List.getD_eq_default _ _ outside]
      norm_num
  · rw [groupAt]
    norm_num

/-- The digits of a run of groups, four for each. -/
def runDigits
    (groups : List Nat)
    (start : Int)
    (count : Nat) : List Char :=
  (List.range count).flatMap fun step : Nat => groupDigits (groupAt groups (start + step))

/-- The first group of a run comes first. -/
theorem runDigits_succ
    (groups : List Nat)
    (start : Int)
    (count : Nat) :
    runDigits groups start (count + 1) =
      groupDigits (groupAt groups start) ++ runDigits groups (start + 1) count := by
  have moved :
      ∀ step : Nat, start + ((step : Int) + 1) = start + 1 + step := by
    intro step
    ring
  simp [runDigits, List.range_succ_eq_map, List.flatMap_map, moved]

theorem isDigit_of_mem_runDigits
    {groups : List Nat}
    {start : Int}
    {count : Nat}
    {character : Char}
    (member : character ∈ runDigits groups start count) :
    character.isDigit = true := by
  obtain ⟨step, _, digit⟩ := List.mem_flatMap.mp member
  exact Text.isDigit_of_mem_zeroPadList digit

section
variable {groups : List Nat} (small : ∀ group ∈ groups, group < 10000)
include small

theorem length_runDigits
    (start : Int)
    (count : Nat) :
    (runDigits groups start count).length = 4 * count := by
  have four :
      ∀ step : Nat, (groupDigits (groupAt groups (start + step))).length = 4 :=
    fun step => Text.length_zeroPadList (by norm_num) (groupAt_lt small _)
  simp [runDigits, four, Nat.mul_comm]

/-- The digits of a run of groups spell the number that the groups make. -/
theorem foldDigits_runDigits
    (read : Nat)
    (start : Int)
    (count : Nat) :
    Text.foldDigits read (runDigits groups start count) =
      read * 10000 ^ count + groupsFrom groups start count := by
  induction count with
  | zero =>
      simp [runDigits, groupsFrom, Text.foldDigits]
  | succ count inductionHypothesis =>
      have last :
          runDigits groups start (count + 1) =
            runDigits groups start count ++ groupDigits (groupAt groups (start + count)) := by
        simp [runDigits, List.range_succ]
      have four : (groupDigits (groupAt groups (start + count))).length = 4 :=
        Text.length_zeroPadList (by norm_num) (groupAt_lt small _)
      rw [last, Text.foldDigits_append, Text.foldDigits_eq, four, inductionHypothesis,
        groupDigits, Text.foldDigits_zeroPadList, groupsFrom]
      ring

/-- Digits behind the point are those of a run of groups that is long enough. -/
theorem exists_fractionDigits_eq
    (position : Int)
    (needed : Nat) :
    ∃ count,
      fractionDigits groups position needed = runDigits groups position count
        ∧ needed ≤ 4 * count := by
  induction needed using Nat.strongRecOn generalizing position with
  | ind needed inductionHypothesis =>
      rw [fractionDigits]
      split
      next none =>
          exact ⟨0, rfl, by omega⟩
      next some =>
          have four : (groupDigits (groupAt groups position)).length = 4 :=
            Text.length_zeroPadList (by norm_num) (groupAt_lt small _)
          dsimp only
          rw [four]
          obtain ⟨count, further, enough⟩ :=
            inductionHypothesis (needed - 4) (by omega) (position + 1)
          refine ⟨count + 1, ?_, by omega⟩
          rw [further, runDigits_succ]

end

/-! ## The digits around the point -/

/-- Behind the point and in front of all groups there are zeros. -/
theorem remainder_of_nonpos
    (groups : List Nat)
    {start : Int}
    (nonpositive : start ≤ 0) :
    remainder groups start = fractionOf groups * 10000 ^ start := by
  rcases start with position | before
  · obtain rfl : position = 0 := by
      have : (position : Int) ≤ 0 := nonpositive
      omega
    simp [remainder]
  · rw [remainder, zpow_negSucc, div_eq_mul_inv]

/-- The digits before the point go on from the first group to the one that counts ones. -/
theorem wholeDigits_ofNat
    (groups : List Nat)
    (last : Nat) :
    wholeDigits groups (.ofNat last) =
      Text.decimalList (groupAt groups 0) ++ runDigits groups 1 last := by
  have moved :
      ∀ step : Nat, ((step + 1 : Nat) : Int) = 1 + step := by
    intro step
    push_cast
    ring
  simp only [wholeDigits, runDigits, moved]

theorem isDigit_of_mem_wholeDigits
    {groups : List Nat}
    {weight : Int}
    {character : Char}
    (member : character ∈ wholeDigits groups weight) :
    character.isDigit = true := by
  rcases weight with last | before
  · rw [wholeDigits_ofNat] at member
    rcases List.mem_append.mp member with first | further
    · exact Text.isDigit_of_mem_decimalList first
    · exact isDigit_of_mem_runDigits further
  · obtain rfl := List.mem_singleton.mp member
    rfl

/-- No zero stands in front of the digits before the point, but where there is nothing else. -/
theorem wholeDigits_wellFormed
    {groups : List Nat}
    {weight : Int}
    (opens : groups.head? ≠ some 0)
    (weightless : groups = [] → weight = 0) :
    Json.WholeDigits (wholeDigits groups weight) := by
  rcases weight with last | before
  · have nonempty : wholeDigits groups (.ofNat last) ≠ [] := by
      rw [wholeDigits_ofNat]
      exact List.append_ne_nil_of_left_ne_nil (Text.decimalList_ne_nil _) _
    refine ⟨fun _ => isDigit_of_mem_wholeDigits, nonempty, ?_⟩
    cases groups with
    | nil =>
        obtain rfl : last = 0 := by
          simpa using weightless rfl
        left
        decide +kernel
    | cons group rest =>
        have positive : 0 < group := by
          rcases Nat.eq_zero_or_pos group with rfl | positive
          · exact absurd rfl opens
          · exact positive
        right
        rw [wholeDigits_ofNat, List.head?_append_of_ne_nil _ (Text.decimalList_ne_nil _)]
        exact Text.head?_decimalList_ne_zero positive
  · exact ⟨by simp [wholeDigits], by simp [wholeDigits], .inl rfl⟩

/-- The digits around the point and what they leave out make up the value of the groups. -/
theorem foldDigits_add_remainder
    {groups : List Nat}
    (small : ∀ group ∈ groups, group < 10000)
    (weight : Int)
    (count : Nat) :
    (Text.foldDigits 0 (wholeDigits groups weight ++ runDigits groups (weight + 1) count) : ℚ)
        + remainder groups (weight + 1 + count) =
      groupsSum groups weight * 10000 ^ count := by
  rcases weight with last | before
  · have first :
        Text.foldDigits 0 (wholeDigits groups (.ofNat last)) = groupsFrom groups 0 (1 + last) := by
      rw [wholeDigits_ofNat, Text.foldDigits_append, Text.foldDigits_decimalList,
        foldDigits_runDigits small, groupsFrom_add]
      simp [groupsFrom]
    have all :
        Text.foldDigits 0
            (wholeDigits groups (.ofNat last) ++ runDigits groups ((Int.ofNat last) + 1) count) =
          groupsFrom groups 0 (1 + last + count) := by
      have place : (Int.ofNat last) + 1 = 0 + (1 + last : Nat) := by
        simp [add_comm]
      rw [Text.foldDigits_append, first, foldDigits_runDigits small, groupsFrom_add _ _ (1 + last),
        place]
    have split := remainder_mul_pow groups 0 (1 + last + count)
    have place : (0 : Int) + (1 + last + count : Nat) = Int.ofNat last + 1 + count := by
      push_cast
      simp
      ring
    rw [place] at split
    rw [all, ← split, remainder_of_nonpos groups le_rfl, groupsSum_eq]
    have power : (10000 : ℚ) ^ ((Int.ofNat last) + 1) = 10000 ^ (last + 1) :=
      zpow_natCast 10000 (last + 1)
    rw [power]
    ring
  · have nothing : Text.foldDigits 0 (wholeDigits groups (.negSucc before)) = 0 :=
      rfl
    have nonpositive : Int.negSucc before + 1 ≤ 0 := by
      omega
    rw [Text.foldDigits_append, nothing, foldDigits_runDigits small, Nat.zero_mul, Nat.zero_add,
      ← remainder_mul_pow, remainder_of_nonpos groups nonpositive, groupsSum_eq]

/--
Cut where the scale ends, the digits around the point spell the value of the
groups in units of the last place, when that is a whole number.
-/
theorem foldDigits_cut
    {groups : List Nat}
    (small : ∀ group ∈ groups, group < 10000)
    {weight : Int}
    {scale units : Nat}
    (covered : groupsSum groups weight * 10 ^ scale = units) :
    Text.foldDigits 0
        (wholeDigits groups weight ++ (fractionDigits groups (weight + 1) scale).take scale) =
      units := by
  obtain ⟨count, digits, enough⟩ := exists_fractionDigits_eq small (weight + 1) scale
  let uncut := wholeDigits groups weight ++ runDigits groups (weight + 1) count
  have digitsOnly : ∀ character ∈ uncut, character.isDigit = true := by
    intro character member
    rcases List.mem_append.mp member with front | behind
    · exact isDigit_of_mem_wholeDigits front
    · exact isDigit_of_mem_runDigits behind
  -- What the groups behind the digits add is less than one unit of the last digit, and the
  -- value is whole in that unit, so it adds nothing.
  have spelled : Text.foldDigits 0 uncut = units * 10 ^ (4 * count - scale) := by
    have power : (10000 : ℚ) ^ count = 10 ^ scale * 10 ^ (4 * count - scale) := by
      rw [← pow_add, Nat.add_sub_of_le enough, pow_mul]
      norm_num
    have sum := foldDigits_add_remainder small weight count
    rw [power, ← mul_assoc, covered] at sum
    obtain ⟨nonnegative, below⟩ := remainder_bounds small (weight + 1 + count)
    have atMost : (Text.foldDigits 0 uncut : ℚ) ≤ (units * 10 ^ (4 * count - scale) : Nat) := by
      push_cast
      linarith
    have above : ((units * 10 ^ (4 * count - scale) : Nat) : ℚ) < Text.foldDigits 0 uncut + 1 := by
      push_cast
      linarith
    apply Nat.le_antisymm
    · exact_mod_cast atMost
    · exact Nat.le_of_lt_succ (by exact_mod_cast above)
  have left :
      uncut.length - ((wholeDigits groups weight).length + scale) = 4 * count - scale := by
    rw [List.length_append, length_runDigits small]
    omega
  rw [digits, ← List.take_length_add_append, Text.foldDigits_take digitsOnly, left, spelled]
  exact Nat.mul_div_cancel _ (by positivity)

end QueryAgent.Postgres

import QueryAgent.Proofs.Text.Hexadecimal
import QueryAgent.Proofs.Text.Split
import QueryAgent.Text.Address
import Mathlib.Data.List.Basic
import Mathlib.Data.List.Induction
import Mathlib.Data.List.TakeWhile

namespace QueryAgent.Text

/-!
# Network addresses read back

Four bytes with dots between them, and eight groups with colons between them,
are read as the bytes and the groups that were written: the run of zeros that is
left out is the one that two colons in a row stand for, and they stand nowhere
else.
-/

/-! ## Four bytes -/

/-- A byte is read from its digits. -/
theorem readByte?_decimalList
    (byte : UInt8) :
    readByte? (decimalList byte.toNat) = some byte.toNat := by
  have small : byte.toNat < 256 := byte.toNat_lt
  simp [readByte?, readDecimal?_decimalList, small]

/-- Nothing but digits and dots stands in an address of four bytes. -/
theorem not_mem_showIpv4
    {character : Char}
    (notDigit : character.isDigit = false)
    (notDot : character ≠ '.')
    (bytes : List UInt8) :
    character ∉ showIpv4 bytes := by
  refine not_mem_intercalate (by simpa using notDot) (List.forall_mem_map.mpr fun byte _ => ?_)
  exact not_mem_decimalList notDigit byte.toNat

/-- Four bytes are read from the dotted form. -/
theorem readIpv4?_showIpv4
    (first second third fourth : UInt8) :
    readIpv4? (showIpv4 [first, second, third, fourth]) =
      some [first.toNat, second.toNat, third.toNat, fourth.toNat] := by
  have parts :
      splitAll (· == '.') (showIpv4 [first, second, third, fourth]) =
        [first, second, third, fourth].map fun byte => decimalList byte.toNat := by
    refine splitAll_intercalate (List.forall_mem_map.mpr fun byte _ => ?_) (List.cons_ne_nil _ _)
    exact not_mem_decimalList rfl byte.toNat
  rw [readIpv4?, parts]
  simp only [List.map_cons, List.map_nil, List.mapM_cons, List.mapM_nil, readByte?_decimalList]
  rfl

/-! ## Groups -/

/-- Sixteen bits are read from their digits. -/
theorem readGroup?_hexadecimalList
    {group : Nat}
    (small : group < 65536) :
    readGroup? (hexadecimalList group) = some group := by
  have some : 1 ≤ (hexadecimalList group).length :=
    List.length_pos_iff.mpr (hexadecimalList_ne_nil group)
  have few : (hexadecimalList group).length ≤ 4 :=
    length_hexadecimalList_le (by omega)
  simp [readGroup?, some, few, readHexadecimal?_hexadecimalList]

/-- The first group stands in front of a colon and the others. -/
theorem showGroups_cons_cons
    (group next : Nat)
    (rest : List Nat) :
    showGroups (group :: next :: rest) =
      hexadecimalList group ++ ':' :: showGroups (next :: rest) := by
  rw [showGroups, List.map_cons, List.map_cons, List.intercalate_cons_cons, List.append_assoc]
  rfl

/-- Groups open with a digit of the first of them. -/
theorem exists_showGroups_eq_cons
    (group : Nat)
    (rest : List Nat) :
    ∃ first behind, showGroups (group :: rest) = first :: behind ∧ first ≠ ':' := by
  have noColon : ':' ∉ hexadecimalList group :=
    not_mem_hexadecimalList rfl group
  obtain ⟨first, digits, opens⟩ := List.exists_cons_of_ne_nil (hexadecimalList_ne_nil group)
  have notColon : first ≠ ':' := by
    rintro rfl
    exact noColon (by simp [opens])
  cases rest with
  | nil =>
      exact ⟨first, digits, by simp [showGroups, opens], notColon⟩
  | cons next rest =>
      rw [showGroups_cons_cons, opens]
      exact ⟨first, _, rfl, notColon⟩

section
variable {groups : List Nat} (small : ∀ group ∈ groups, group < 65536)
include small

/-- Groups are read one after another, the last of them too where it might be dotted. -/
theorem readGroups?_map
    (mayEndDotted : Bool) :
    readGroups? mayEndDotted (groups.map hexadecimalList) = some groups := by
  induction groups with
  | nil =>
      rfl
  | cons group rest inductionHypothesis =>
      rw [List.forall_mem_cons] at small
      have first := readGroup?_hexadecimalList small.1
      have further := inductionHypothesis small.2
      cases rest with
      | nil =>
          have noDot : '.' ∉ hexadecimalList group :=
            not_mem_hexadecimalList rfl group
          simp [readGroups?, noDot, first]
      | cons next rest =>
          rw [List.map_cons, readGroups?, first, further]
          · rfl
          · simp

/-- Groups with colons between them are read, also none at all. -/
theorem readRun?_showGroups
    (mayEndDotted : Bool) :
    readRun? mayEndDotted (showGroups groups) = some groups := by
  cases groups with
  | nil =>
      rfl
  | cons group rest =>
      have parts :
          splitAll (· == ':') (showGroups (group :: rest)) =
            (group :: rest).map hexadecimalList := by
        refine splitAll_intercalate (List.forall_mem_map.mpr fun other _ => ?_)
          (List.cons_ne_nil _ _)
        exact not_mem_hexadecimalList rfl other
      obtain ⟨first, behind, opens, _⟩ := exists_showGroups_eq_cons group rest
      have written : (showGroups (group :: rest)).isEmpty = false := by
        rw [opens, List.isEmpty_cons]
      rw [readRun?, written, parts]
      exact readGroups?_map small mayEndDotted

end

/-! ## Two colons in a row -/

/-- No two colons stand in what holds no colon, so they are looked for behind it. -/
theorem splitDoubleColon?_append
    {front : List Char}
    (noColon : ':' ∉ front)
    (behind : List Char) :
    splitDoubleColon? (front ++ behind) =
      (splitDoubleColon? behind).map fun parts => (front ++ parts.1, parts.2) := by
  induction front with
  | nil =>
      simp
  | cons first rest inductionHypothesis =>
      rw [List.mem_cons, not_or] at noColon
      rw [List.cons_append, splitDoubleColon?, inductionHypothesis noColon.2]
      simp [afterFront?, noColon.1, Function.comp_def]

/-- A colon that no other follows does not count. -/
theorem splitDoubleColon?_colon
    {next : Char}
    (notColon : next ≠ ':')
    (behind : List Char) :
    splitDoubleColon? (':' :: next :: behind) =
      (splitDoubleColon? (next :: behind)).map fun parts => (':' :: parts.1, parts.2) := by
  rw [splitDoubleColon?]
  simp [afterFront?, notColon.symm]

/-- No two colons stand in groups, so they are looked for behind them. -/
theorem splitDoubleColon?_showGroups_append
    (groups : List Nat)
    (behind : List Char) :
    splitDoubleColon? (showGroups groups ++ behind) =
      (splitDoubleColon? behind).map fun parts => (showGroups groups ++ parts.1, parts.2) := by
  have noColon (group : Nat) : ':' ∉ hexadecimalList group :=
    not_mem_hexadecimalList rfl group
  induction groups with
  | nil =>
      simp [showGroups]
  | cons group rest inductionHypothesis =>
      cases rest with
      | nil =>
          have single : showGroups [group] = hexadecimalList group := by
            simp [showGroups]
          rw [single, splitDoubleColon?_append (noColon group)]
      | cons next rest =>
          obtain ⟨first, further, opens, notColon⟩ := exists_showGroups_eq_cons next rest
          rw [showGroups_cons_cons, List.append_assoc, splitDoubleColon?_append (noColon group),
            List.cons_append]
          rw [opens] at inductionHypothesis ⊢
          rw [List.cons_append, splitDoubleColon?_colon notColon, ← List.cons_append,
            inductionHypothesis]
          simp [Function.comp_def]

/-- Groups are not cut. -/
theorem splitDoubleColon?_showGroups
    (groups : List Nat) :
    splitDoubleColon? (showGroups groups) = none := by
  have whole := splitDoubleColon?_showGroups_append groups []
  rwa [List.append_nil] at whole

/-- Groups are cut where two colons stand behind them. -/
theorem splitDoubleColon?_showGroups_colons
    (groups : List Nat)
    (behind : List Char) :
    splitDoubleColon? (showGroups groups ++ ':' :: ':' :: behind) =
      some (showGroups groups, behind) := by
  rw [splitDoubleColon?_showGroups_append, splitDoubleColon?]
  simp [afterFront?]

/-! ## The run of zeros -/

/-- As many zeros as are counted stand in front. -/
theorem exists_zeroRun_append
    (groups : List Nat) :
    ∃ behind, groups = List.replicate (zeroRun groups) 0 ++ behind := by
  have zeros :
      groups.takeWhile (· == 0) = List.replicate (zeroRun groups) 0 := by
    refine List.eq_replicate_iff.mpr ⟨rfl, fun group member => ?_⟩
    simpa using List.mem_takeWhile_imp member
  refine ⟨groups.dropWhile (· == 0), ?_⟩
  rw [← zeros, List.takeWhile_append_dropWhile]

/-- The longest run of zeros begins where it is said to, and is as long. -/
theorem exists_longestZeroRun_append
    (index : Nat)
    (groups : List Nat) :
    ∃ before behind,
      (longestZeroRun index groups).1 = index + before.length
        ∧ groups = before ++ (List.replicate (longestZeroRun index groups).2 0 ++ behind) := by
  induction groups generalizing index with
  | nil =>
      exact ⟨[], [], rfl, rfl⟩
  | cons group rest inductionHypothesis =>
      rw [longestZeroRun]
      dsimp only
      split
      next later =>
          obtain ⟨before, behind, starts, shape⟩ := inductionHypothesis (index + 1)
          refine ⟨group :: before, behind, ?_, ?_⟩
          · rw [starts, List.length_cons]
            omega
          · rw [List.cons_append, ← shape]
      next here =>
          obtain ⟨behind, shape⟩ := exists_zeroRun_append (group :: rest)
          exact ⟨[], behind, rfl, shape⟩

/-- Eight groups are read, whichever run of zeros is left out. -/
theorem readIpv6?_showIpv6Groups
    {groups : List Nat}
    (small : ∀ group ∈ groups, group < 65536)
    (eight : groups.length = 8) :
    readIpv6? (showIpv6Groups groups) = some groups := by
  obtain ⟨before, behind, starts, shape⟩ := exists_longestZeroRun_append 0 groups
  rw [showIpv6Groups]
  generalize longestZeroRun 0 groups = run at starts shape ⊢
  obtain ⟨start, zeros⟩ := run
  dsimp only at starts shape ⊢
  split
  next leftOut =>
      have inFront : groups.take start = before := by
        rw [shape, List.take_left' (by omega)]
      have further : groups.drop (start + zeros) = behind := by
        rw [shape, ← List.append_assoc]
        exact List.drop_left' (by simp [starts])
      have lengths : before.length + zeros + behind.length = 8 := by
        rw [← eight, shape]
        simp [Nat.add_assoc]
      -- As many zeros are filled in as eight groups are short of, which is the run left out.
      have between : 8 - before.length - behind.length = zeros := by
        omega
      rw [inFront, further, List.append_assoc, readIpv6?, List.cons_append, List.singleton_append,
        splitDoubleColon?_showGroups_colons]
      have smallBefore : ∀ group ∈ before, group < 65536 :=
        fun group member => small group (by simp [shape, member])
      have smallBehind : ∀ group ∈ behind, group < 65536 :=
        fun group member => small group (by simp [shape, member])
      dsimp only
      rw [readRun?_showGroups smallBefore, readRun?_showGroups smallBehind]
      dsimp only [bind, Option.bind]
      rw [if_pos (by omega), between, List.append_assoc, ← shape]
  next =>
      rw [readIpv6?, splitDoubleColon?_showGroups]
      dsimp only
      rw [readRun?_showGroups small]
      simp [eight]

/-- A colon stands between eight groups, or two of them where zeros are left out. -/
theorem colon_mem_showIpv6Groups
    {groups : List Nat}
    (eight : groups.length = 8) :
    ':' ∈ showIpv6Groups groups := by
  rw [showIpv6Groups]
  dsimp only
  split
  next =>
      simp
  next =>
      match groups, eight with
      | group :: next :: rest, _ =>
          rw [showGroups_cons_cons]
          simp

/-- Nothing but digits and colons stands in groups. -/
theorem not_mem_showGroups
    {character : Char}
    (notDigit : hexValue? character = none)
    (notColon : character ≠ ':')
    (groups : List Nat) :
    character ∉ showGroups groups := by
  refine not_mem_intercalate (by simpa using notColon) (List.forall_mem_map.mpr fun group _ => ?_)
  exact not_mem_hexadecimalList notDigit group

theorem not_mem_showIpv6Groups
    {character : Char}
    (notDigit : hexValue? character = none)
    (notColon : character ≠ ':')
    (groups : List Nat) :
    character ∉ showIpv6Groups groups := by
  rw [showIpv6Groups]
  dsimp only
  split
  next =>
      simp [not_mem_showGroups notDigit notColon, notColon]
  next =>
      exact not_mem_showGroups notDigit notColon groups

/-! ## Sixteen bytes -/

/-- The bytes of groups, two for each. -/
def bytesOfGroups
    (groups : List Nat) : List UInt8 :=
  groups.flatMap fun group => [UInt8.ofNat (group / 256), UInt8.ofNat (group % 256)]

theorem lt_of_mem_groupsOf
    {bytes : List UInt8}
    {group : Nat}
    (member : group ∈ groupsOf bytes) :
    group < 65536 := by
  fun_induction groupsOf bytes with
  | case1 high low rest inductionHypothesis =>
      have highSmall := high.toNat_lt
      have lowSmall := low.toNat_lt
      rcases List.mem_cons.mp member with rfl | further
      · omega
      · exact inductionHypothesis further
  | case2 =>
      cases member

theorem length_groupsOf
    (bytes : List UInt8) :
    (groupsOf bytes).length = bytes.length / 2 := by
  induction bytes using List.twoStepInduction with
  | nil =>
      rfl
  | singleton byte =>
      simp [groupsOf]
  | cons_cons high low rest inductionHypothesis =>
      simp only [groupsOf, List.length_cons, inductionHypothesis]
      omega

/-- Bytes are those of their groups. -/
theorem bytesOfGroups_groupsOf
    {bytes : List UInt8}
    (pairs : bytes.length % 2 = 0) :
    bytesOfGroups (groupsOf bytes) = bytes := by
  induction bytes using List.twoStepInduction with
  | nil =>
      rfl
  | singleton byte =>
      cases pairs
  | cons_cons high low rest inductionHypothesis =>
      have highSmall := high.toNat_lt
      have lowSmall := low.toNat_lt
      have highByte : (high.toNat * 256 + low.toNat) / 256 = high.toNat := by
        omega
      have lowByte : (high.toNat * 256 + low.toNat) % 256 = low.toNat := by
        omega
      have further : bytesOfGroups (groupsOf rest) = rest := by
        refine inductionHypothesis ?_
        rw [List.length_cons, List.length_cons] at pairs
        omega
      rw [groupsOf, bytesOfGroups, List.flatMap_cons, highByte, lowByte, UInt8.ofNat_toNat,
        UInt8.ofNat_toNat]
      exact congrArg (high :: low :: ·) further

/-- Two groups are read from the dotted form at the end of an address. -/
theorem readDotted?_showIpv4
    (first second third fourth : UInt8) :
    readDotted? (showIpv4 [first, second, third, fourth]) =
      some (groupsOf [first, second, third, fourth]) := by
  rw [readDotted?, readIpv4?_showIpv4]
  rfl

/-- A dotted address is read behind the zeros and ones that disguise it. -/
theorem readIpv6?_disguised
    (first second third fourth : UInt8) :
    readIpv6? ("::ffff:".toList ++ showIpv4 [first, second, third, fourth]) =
      some ([0, 0, 0, 0, 0, 0xffff] ++ groupsOf [first, second, third, fourth]) := by
  have disguise : "::ffff:".toList = [':', ':', 'f', 'f', 'f', 'f', ':'] := by
    simp
  have cut :
      splitDoubleColon? ("::ffff:".toList ++ showIpv4 [first, second, third, fourth]) =
        some ([], [':'].intercalate ["ffff".toList, showIpv4 [first, second, third, fourth]]) := by
    simp [disguise, splitDoubleColon?, afterFront?]
  have parts :
      splitAll (· == ':')
          ([':'].intercalate ["ffff".toList, showIpv4 [first, second, third, fourth]]) =
        ["ffff".toList, showIpv4 [first, second, third, fourth]] := by
    refine splitAll_intercalate ?_ (List.cons_ne_nil _ _)
    simp [not_mem_showIpv4]
  have dotted : '.' ∈ showIpv4 [first, second, third, fourth] := by
    simp [showIpv4]
  have ones : readGroup? "ffff".toList = some 0xffff := by
    decide
  have back :
      readRun? true
          ([':'].intercalate ["ffff".toList, showIpv4 [first, second, third, fourth]]) =
        some (0xffff :: groupsOf [first, second, third, fourth]) := by
    have notEmpty :
        ([':'].intercalate
          ["ffff".toList, showIpv4 [first, second, third, fourth]]).isEmpty = false := by
      simp
    rw [readRun?, notEmpty, parts, readGroups?, ones, readGroups?, readDotted?_showIpv4]
    · simp [dotted]
    · simp
  have zeros : readRun? false [] = some [] :=
    rfl
  rw [readIpv6?, cut]
  dsimp only
  rw [zeros, back]
  rfl

/-- Sixteen bytes are read as their groups, in disguise or not. -/
theorem readIpv6?_showIpv6
    {bytes : List UInt8}
    (sixteen : bytes.length = 16) :
    readIpv6? (showIpv6 bytes) = some (groupsOf bytes) := by
  rw [showIpv6]
  split
  next disguised =>
      obtain ⟨first, second, third, fourth, last⟩ : ∃ first second third fourth,
          bytes.drop 12 = [first, second, third, fourth] :=
        List.length_eq_four.mp (by simp [sixteen])
      have whole :
          bytes =
            [0, 0, 0, 0, 0, 0, 0, 0, 0, 0, 255, 255] ++ [first, second, third, fourth] := by
        rw [← disguised, ← last, List.take_append_drop]
      rw [last, readIpv6?_disguised, whole]
      rfl
  next =>
      refine readIpv6?_showIpv6Groups (fun group => lt_of_mem_groupsOf) ?_
      rw [length_groupsOf, sixteen]

/-- A colon stands in an address of sixteen bytes. -/
theorem colon_mem_showIpv6
    {bytes : List UInt8}
    (sixteen : bytes.length = 16) :
    ':' ∈ showIpv6 bytes := by
  rw [showIpv6]
  split
  next =>
      simp
  next =>
      exact colon_mem_showIpv6Groups (by rw [length_groupsOf, sixteen])

/-- No slash stands in an address of sixteen bytes. -/
theorem slash_not_mem_showIpv6
    (bytes : List UInt8) :
    '/' ∉ showIpv6 bytes := by
  rw [showIpv6]
  split
  next =>
      simp [not_mem_showIpv4]
  next =>
      exact not_mem_showIpv6Groups rfl (by decide) _

end QueryAgent.Text

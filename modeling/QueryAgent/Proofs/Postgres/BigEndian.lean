import QueryAgent.Postgres.Wire
import Mathlib.Data.List.Induction
import Mathlib.Tactic.NormNum
import Mathlib.Tactic.Positivity
import Mathlib.Tactic.Ring

namespace QueryAgent.Postgres

/-!
# Numbers as they travel

Numbers written as bytes, the highest byte first and a sign in two's
complement.  They read back, and every run of bytes is the number that is read
from it, so bytes and the numbers that fit them are the same thing.
-/

/-! ## Without a sign -/

/-- A number in so many bytes, the highest first; what does not fit is lost in front. -/
def unsignedBytes : Nat → Nat → List UInt8
  | 0, _ =>
      []
  | width + 1, number =>
      unsignedBytes width (number / 256) ++ [UInt8.ofNat number]

@[simp]
theorem length_unsignedBytes
    (width number : Nat) :
    (unsignedBytes width number).length = width := by
  induction width generalizing number with
  | zero =>
      rfl
  | succ width inductionHypothesis =>
      simp [unsignedBytes, inductionHypothesis]

/-- The last byte counts ones, and those before it two hundred and fifty-sixes. -/
theorem unsignedOf_append_singleton
    (bytes : List UInt8)
    (byte : UInt8) :
    unsignedOf (bytes ++ [byte]) = unsignedOf bytes * 256 + byte.toNat := by
  simp [unsignedOf, List.foldl_append]

/-- A byte holds the ones of a number. -/
theorem toNat_lastByte
    (number : Nat) :
    (UInt8.ofNat number).toNat = number % 256 :=
  UInt8.toNat_ofNat'

/-- A number reads back, as far as it fits. -/
theorem unsignedOf_unsignedBytes
    (width number : Nat) :
    unsignedOf (unsignedBytes width number) = number % 256 ^ width := by
  induction width generalizing number with
  | zero =>
      rw [pow_zero, Nat.mod_one]
      rfl
  | succ width inductionHypothesis =>
      calc
        unsignedOf (unsignedBytes (width + 1) number) =
            number / 256 % 256 ^ width * 256 + number % 256 := by
          rw [unsignedBytes, unsignedOf_append_singleton, inductionHypothesis, toNat_lastByte]
        _ = number % 256 ^ (width + 1) := by
          rw [pow_succ', Nat.mod_mul]
          ring

/-- Bytes are those of the number that is read from them. -/
theorem unsignedBytes_unsignedOf
    (bytes : List UInt8) :
    unsignedBytes bytes.length (unsignedOf bytes) = bytes := by
  induction bytes using List.reverseRecOn with
  | nil =>
      rfl
  | append_singleton front last inductionHypothesis =>
      have small : last.toNat < 256 :=
        last.toNat_lt
      have before : (unsignedOf front * 256 + last.toNat) / 256 = unsignedOf front := by
        omega
      have lastByte : UInt8.ofNat (unsignedOf front * 256 + last.toNat) = last := by
        apply UInt8.toNat_inj.mp
        rw [toNat_lastByte]
        omega
      rw [List.length_append, List.length_singleton, unsignedBytes,
        unsignedOf_append_singleton, before, inductionHypothesis, lastByte]

/-- Bytes spell a number below the power of their count. -/
theorem unsignedOf_lt
    (bytes : List UInt8) :
    unsignedOf bytes < 256 ^ bytes.length := by
  rw [← unsignedBytes_unsignedOf bytes, unsignedOf_unsignedBytes, length_unsignedBytes]
  exact Nat.mod_lt _ (by positivity)

/-! ## With a sign -/

/-- A number with a sign in two's complement. -/
def signedBytes
    (width : Nat)
    (number : Int) : List UInt8 :=
  unsignedBytes width (number % (256 ^ width : Nat)).toNat

@[simp]
theorem length_signedBytes
    (width : Nat)
    (number : Int) :
    (signedBytes width number).length = width :=
  length_unsignedBytes _ _

/-- A number that fits reads back with its sign. -/
theorem signedOf_signedBytes
    {width : Nat}
    {number : Int}
    (least : -(256 ^ width : Nat) ≤ 2 * number)
    (below : 2 * number < (256 ^ width : Nat)) :
    signedOf (signedBytes width number) = number := by
  have read :
      (unsignedOf (signedBytes width number) : Int) = number % (256 ^ width : Nat) := by
    have positive : (0 : Int) < (256 ^ width : Nat) := by
      positivity
    have nonnegative := Int.emod_nonneg number positive.ne'
    have small := Int.emod_lt_of_pos number positive
    rw [signedBytes, unsignedOf_unsignedBytes, Nat.mod_eq_of_lt (by omega)]
    omega
  rw [signedOf, length_signedBytes, Nat.pow_eq]
  generalize unsignedOf (signedBytes width number) = unsigned at read ⊢
  generalize 256 ^ width = limit at least below read ⊢
  rcases lt_or_ge number 0 with negative | nonnegative
  · have wrapped : number % limit = number + limit := by
      rw [← Int.add_emod_right, Int.emod_eq_of_lt] <;> omega
    rw [if_neg (by omega)]
    omega
  · have same : number % limit = number := by
      rw [Int.emod_eq_of_lt] <;> omega
    rw [if_pos (by omega)]
    omega

/-- What bytes spell with a sign fits them. -/
theorem signedOf_bounds
    (bytes : List UInt8) :
    -(256 ^ bytes.length : Nat) ≤ 2 * signedOf bytes
      ∧ 2 * signedOf bytes < (256 ^ bytes.length : Nat) := by
  have small := unsignedOf_lt bytes
  rw [signedOf, Nat.pow_eq]
  generalize 256 ^ bytes.length = limit at small ⊢
  split <;> omega

/-- Bytes are those of the number with a sign that is read from them. -/
theorem signedBytes_signedOf
    (bytes : List UInt8) :
    signedBytes bytes.length (signedOf bytes) = bytes := by
  have small := unsignedOf_lt bytes
  have same :
      (signedOf bytes % (256 ^ bytes.length : Nat)).toNat = unsignedOf bytes := by
    rw [signedOf, Nat.pow_eq]
    generalize 256 ^ bytes.length = limit at small ⊢
    split
    · rw [Int.emod_eq_of_lt] <;> omega
    · rw [Int.sub_emod_right, Int.emod_eq_of_lt] <;> omega
  rw [signedBytes, same, unsignedBytes_unsignedOf]

theorem signedOf_signedBytes_int32
    (number : Int32) :
    signedOf (signedBytes 4 number.toInt) = number.toInt := by
  have least := number.le_toInt
  have below := number.toInt_lt
  apply signedOf_signedBytes <;> norm_num <;> omega

theorem signedOf_signedBytes_int64
    (number : Int64) :
    signedOf (signedBytes 8 number.toInt) = number.toInt := by
  have least := number.le_toInt
  have below := number.toInt_lt
  apply signedOf_signedBytes <;> norm_num <;> omega

/-- Four bytes are those of a number of thirty-two bits. -/
theorem exists_int32_signedBytes
    {bytes : List UInt8}
    (length : bytes.length = 4) :
    ∃ number : Int32, bytes = signedBytes 4 number.toInt := by
  obtain ⟨least, below⟩ := signedOf_bounds bytes
  rw [length] at least below
  norm_num at least below
  refine ⟨Int32.ofInt (signedOf bytes), ?_⟩
  rw [Int32.toInt_ofInt_of_le (by omega) (by omega), ← length, signedBytes_signedOf]

/-- Eight bytes are those of a number of sixty-four bits. -/
theorem exists_int64_signedBytes
    {bytes : List UInt8}
    (length : bytes.length = 8) :
    ∃ number : Int64, bytes = signedBytes 8 number.toInt := by
  obtain ⟨least, below⟩ := signedOf_bounds bytes
  rw [length] at least below
  norm_num at least below
  refine ⟨Int64.ofInt (signedOf bytes), ?_⟩
  rw [Int64.toInt_ofInt_of_le (by omega) (by omega), ← length, signedBytes_signedOf]

/-! ## Taking bytes off the front -/

/-- The bytes in front are taken off as they stand. -/
theorem takeBytes_append
    {count : Nat}
    {front : List UInt8}
    (length : front.length = count)
    (rest : List UInt8) :
    takeBytes count (front ++ rest) = .ok (front, rest) := by
  subst length
  simp [takeBytes]

end QueryAgent.Postgres

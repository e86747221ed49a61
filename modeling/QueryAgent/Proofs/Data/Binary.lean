import QueryAgent.Data.Value
import QueryAgent.Proofs.Text.Base64
import QueryAgent.Proofs.Text.ValidUtf8
import Mathlib.Data.Set.Function

namespace QueryAgent

/-!
# Binary cells recovered

Bytes that spell a text become that text, and any others their base 64.  The
bytes can be had back from either, so among the bytes of one kind no two become
the same cell.
-/

open Text (IsUtf8 IsBase64)

/-- A text holds bytes: it is spelled by them, or is their base 64 when they spell none. -/
structure Text.HoldsBytes
    (content : String)
    (bytes : List UInt8) : Prop where
  spelled : IsUtf8 bytes → content.toUTF8 = bytes.toByteArray
  encoded : ¬ IsUtf8 bytes → IsBase64 bytes content.toList

namespace Text.HoldsBytes
variable {content : String} {bytes others : List UInt8}

/-- Bytes that spell a text are known from it. -/
theorem eq_of_isUtf8
    (holds : HoldsBytes content bytes)
    (holdsOthers : HoldsBytes content others)
    (valid : IsUtf8 bytes)
    (othersValid : IsUtf8 others) :
    bytes = others :=
  Text.toByteArray_inj.mp
    ((holds.spelled valid).symm.trans (holdsOthers.spelled othersValid))

/-- Bytes that spell no text are known from their base 64. -/
theorem eq_of_not_isUtf8
    (holds : HoldsBytes content bytes)
    (holdsOthers : HoldsBytes content others)
    (invalid : ¬ IsUtf8 bytes)
    (othersInvalid : ¬ IsUtf8 others) :
    bytes = others :=
  Option.some.inj
    ((holds.encoded invalid).decoded.symm.trans (holdsOthers.encoded othersInvalid).decoded)

end Text.HoldsBytes

/-- Bytes that spell a text become the text. -/
theorem Value.ofBytes_of_isUtf8
    {bytes : List UInt8}
    (valid : IsUtf8 bytes) :
    ∃ content, Value.ofBytes bytes = .text content ∧ content.toUTF8 = bytes.toByteArray := by
  obtain ⟨characters, decoded⟩ := Text.isUtf8_iff_exists.mp valid
  refine ⟨String.ofList characters, ?_, Text.decodeUtf8_eq_ok_iff_toUTF8.mp decoded⟩
  rw [Value.ofBytes, decoded]

/-- Bytes that spell no text become their base 64. -/
theorem Value.ofBytes_of_not_isUtf8
    {bytes : List UInt8}
    (invalid : ¬ IsUtf8 bytes) :
    Value.ofBytes bytes = .text (String.ofList (Text.encodeBase64 bytes)) := by
  rw [Value.ofBytes]
  cases decoded : Text.decodeUtf8 bytes with
  | ok characters =>
      exact absurd (Text.isUtf8_iff_exists.mpr ⟨characters, decoded⟩) invalid
  | error fault =>
      rfl

/-- The cell of any bytes is a text that holds them. -/
theorem Value.exists_ofBytes_eq
    (bytes : List UInt8) :
    ∃ content, Value.ofBytes bytes = .text content ∧ Text.HoldsBytes content bytes := by
  by_cases valid : IsUtf8 bytes
  · obtain ⟨content, cell, same⟩ := Value.ofBytes_of_isUtf8 valid
    exact ⟨content, cell, fun _ => same, fun invalid => absurd valid invalid⟩
  · refine ⟨_, Value.ofBytes_of_not_isUtf8 valid, fun spelled => absurd spelled valid, ?_⟩
    intro _
    rw [String.toList_ofList]
    exact Text.isBase64_encodeBase64 bytes

/--
Every run of bytes becomes a text from which it can be had back, by its standard
encoding where the bytes spell a text and by base 64 where they do not.  So no
two runs of one kind become the same cell.
-/
theorem binary_cells_recovered :
    (∀ bytes, ∃ content, Value.ofBytes bytes = .text content ∧ Text.HoldsBytes content bytes)
      ∧ Set.InjOn Value.ofBytes {bytes | IsUtf8 bytes}
      ∧ Set.InjOn Value.ofBytes {bytes | ¬ IsUtf8 bytes} := by
  have sameContent
      {bytes others : List UInt8}
      (same : Value.ofBytes bytes = Value.ofBytes others) :
      ∃ content, Text.HoldsBytes content bytes ∧ Text.HoldsBytes content others := by
    obtain ⟨content, cell, holds⟩ := Value.exists_ofBytes_eq bytes
    obtain ⟨_, otherCell, holdsOthers⟩ := Value.exists_ofBytes_eq others
    cases cell.symm.trans (same.trans otherCell)
    exact ⟨content, holds, holdsOthers⟩
  refine ⟨Value.exists_ofBytes_eq, fun bytes valid others othersValid same => ?_,
    fun bytes invalid others othersInvalid same => ?_⟩
  · obtain ⟨_, holds, holdsOthers⟩ := sameContent same
    exact holds.eq_of_isUtf8 holdsOthers valid othersValid
  · obtain ⟨_, holds, holdsOthers⟩ := sameContent same
    exact holds.eq_of_not_isUtf8 holdsOthers invalid othersInvalid

/-- A byte order mark of two bytes spells no text and is recovered from its base 64. -/
theorem binary_cells_recovered_mark :
    ¬ IsUtf8 [0xff, 0xfe]
      ∧ ∃ content,
        Value.ofBytes [0xff, 0xfe] = .text content
          ∧ content.length = 4
          ∧ Text.decodeBase64? content.toList = some [0xff, 0xfe] := by
  have invalid : ¬ IsUtf8 [0xff, 0xfe] := by
    rw [Text.isUtf8_iff_exists]
    rintro ⟨characters, decoded⟩
    have refused : (Text.decodeUtf8 [0xff, 0xfe]).toOption = none := by
      decide +kernel
    rw [decoded] at refused
    cases refused
  obtain ⟨content, cell, holds⟩ := binary_cells_recovered.1 [0xff, 0xfe]
  have isBase64 := holds.encoded invalid
  exact ⟨invalid, content, cell, isBase64.length, isBase64.decoded⟩

end QueryAgent

import QueryAgent.Proofs.Json.Tree

namespace QueryAgent.Json

/-!
# Controls in written JSON

Controls are escaped inside of texts, and words and numbers hold none.  The only
control that JSON is written with is the line break of the pretty form.
-/

/-- A text without controls, line breaks apart. -/
def ControlsBreakLines
    (written : List Char) : Prop :=
  ∀ character ∈ written, character.toNat < 32 → character = '\n'

namespace ControlsBreakLines

/-- A text in which no character is a control. -/
theorem of_none
    {written : List Char}
    (none : ∀ character ∈ written, ¬ character.toNat < 32) :
    ControlsBreakLines written :=
  fun character member control => absurd control (none character member)

theorem nil :
    ControlsBreakLines [] :=
  nofun

theorem append
    {first second : List Char}
    (before : ControlsBreakLines first)
    (behind : ControlsBreakLines second) :
    ControlsBreakLines (first ++ second) :=
  fun character member =>
    (List.mem_append.mp member).elim (before character) (behind character)

theorem cons
    {first : Char}
    {rest : List Char}
    (noControl : ¬ first.toNat < 32)
    (behind : ControlsBreakLines rest) :
    ControlsBreakLines (first :: rest) :=
  append (of_none (List.forall_mem_singleton.mpr noControl)) behind

theorem flatMap
    {content : List α}
    {write : α → List Char}
    (parts : ∀ item ∈ content, ControlsBreakLines (write item)) :
    ControlsBreakLines (content.flatMap write) := by
  intro character member control
  obtain ⟨item, inContent, inPart⟩ := List.mem_flatMap.mp member
  exact parts item inContent character inPart control

theorem digits
    {written : List Char}
    (digitsOnly : ∀ character ∈ written, character.isDigit = true) :
    ControlsBreakLines written := by
  refine of_none fun character member => ?_
  have least : 48 ≤ character.toNat := by
    have isDigit := digitsOnly character member
    simp only [Char.isDigit, Bool.and_eq_true, decide_eq_true_eq] at isDigit
    exact isDigit.1
  omega

theorem separated
    {separator : List Char}
    (between : ControlsBreakLines separator)
    {parts : List (List Char)}
    (each : ∀ part ∈ parts, ControlsBreakLines part) :
    ControlsBreakLines (separated separator parts) := by
  fun_induction Json.separated separator parts with
  | case1 =>
      exact nil
  | case2 part =>
      exact each part (by simp)
  | case3 part next rest inductionHypothesis =>
      exact
        ((each part (by simp)).append between).append
          (inductionHypothesis fun other member => each other (by simp [member]))

end ControlsBreakLines

/-! ## Numbers and texts -/

theorem NumberLiteral.controlsBreakLines_text
    {literal : NumberLiteral}
    (wellFormed : literal.WellFormed) :
    ControlsBreakLines literal.text := by
  obtain ⟨negative, whole, fraction, exponent⟩ := literal
  have sign : ControlsBreakLines (if negative then ['-'] else []) := by
    cases negative with
    | true =>
        exact .cons (by decide) .nil
    | false =>
        exact .nil
  have behindPoint : ControlsBreakLines (fractionText fraction) := by
    cases fraction with
    | nil =>
        exact .nil
    | cons digit rest =>
        exact .cons (by decide) (.digits wellFormed.fraction)
  have power : ControlsBreakLines (exponentText exponent) := by
    cases exponent with
    | none =>
        exact .nil
    | some power =>
        refine .cons (by decide) (.cons ?_ (.digits fun _ => Text.isDigit_of_mem_decimalList))
        split <;>
          decide
  exact sign.append ((ControlsBreakLines.digits wellFormed.whole.digitsOnly).append
    (behindPoint.append power))

/-- The digits of a byte are no controls. -/
theorem controlsBreakLines_hexByte
    (byte : UInt8) :
    ControlsBreakLines (Text.hexByte byte) := by
  have small := byte.toNat_lt
  have noControl : ∀ digit < 16, ¬ (Text.hexChar digit).toNat < 32 := by
    decide
  exact .cons (noControl _ (by omega)) (.cons (noControl _ (by omega)) .nil)

/-- A control is not written as itself inside of a text. -/
theorem controlsBreakLines_writeChar
    (character : Char) :
    ControlsBreakLines (writeChar character) := by
  have behindBackslash :
      ∀ {letter : Char}, ¬ letter.toNat < 32 → ControlsBreakLines ['\\', letter] :=
    fun noControl => .cons (by decide) (.cons noControl .nil)
  unfold writeChar
  split
  next special =>
      rw [Bool.or_eq_true, decide_eq_true_eq, decide_eq_true_eq] at special
      rcases special with rfl | rfl <;>
        exact behindBackslash (by decide)
  iterate 5
    split
    · exact behindBackslash (by decide)
  split
  · exact
      .cons (by decide) (.cons (by decide) (.cons (by decide) (.cons (by decide)
        (controlsBreakLines_hexByte _))))
  next noControl =>
      exact .cons noControl .nil

theorem controlsBreakLines_writeText
    (text : String) :
    ControlsBreakLines (writeText text) :=
  .cons (by decide)
    (.append (.flatMap fun character _ => controlsBreakLines_writeChar character)
      (.cons (by decide) .nil))

/-! ## Values -/

theorem controlsBreakLines_writeAtom
    (value : Json) :
    ControlsBreakLines (writeAtom value) := by
  have word :
      ∀ {letters : List Char},
        letters.all (fun letter => !decide (letter.toNat < 32)) = true →
          ControlsBreakLines letters := by
    intro letters noControls
    refine .of_none fun character member => ?_
    simpa using List.all_eq_true.mp noControls character member
  cases value with
  | null =>
      exact word (by decide)
  | boolean value =>
      cases value with
      | true | false =>
          exact word (by decide)
  | integer value =>
      rw [writeAtom, NumberLiteral.text_ofInteger]
      exact NumberLiteral.controlsBreakLines_text (NumberLiteral.wellFormed_ofInteger value)
  | float value =>
      rw [writeAtom, writeFloat]
      split
      · rw [NumberLiteral.text_ofFloat]
        exact NumberLiteral.controlsBreakLines_text (NumberLiteral.wellFormed_ofFloat value)
      · exact word (by decide)
  | text value =>
      exact controlsBreakLines_writeText value
  | list items | object members =>
      exact .nil

theorem controlsBreakLines_lineBreak
    (level : Nat) :
    ControlsBreakLines (lineBreak level) := by
  have breaks : ControlsBreakLines ['\n'] :=
    List.forall_mem_singleton.mpr fun _ => rfl
  refine breaks.append (.of_none fun character member => ?_)
  rw [List.eq_of_mem_replicate member]
  decide

theorem controlsBreakLines_bracketed
    {opening closing : Char}
    (opens : ¬ opening.toNat < 32)
    (closes : ¬ closing.toNat < 32)
    (level : Nat)
    {parts : List (List Char)}
    (each : ∀ part ∈ parts, ControlsBreakLines part) :
    ControlsBreakLines (bracketed opening closing level parts) := by
  unfold bracketed
  split
  · exact .cons opens (.cons closes .nil)
  · exact .cons opens
      (.append
        (.append
          (.append (controlsBreakLines_lineBreak _)
            (.separated (.cons (by decide) (controlsBreakLines_lineBreak _)) each))
          (controlsBreakLines_lineBreak _))
        (.cons closes .nil))

/-- The pretty form of a value breaks lines and holds no other control. -/
theorem controlsBreakLines_writePretty
    (level : Nat)
    (value : Json) :
    ControlsBreakLines (writePretty level value) := by
  induction value using partsInduction generalizing level with
  | null =>
      exact controlsBreakLines_writeAtom .null
  | boolean value =>
      exact controlsBreakLines_writeAtom (.boolean value)
  | integer value =>
      exact controlsBreakLines_writeAtom (.integer value)
  | float value =>
      exact controlsBreakLines_writeAtom (.float value)
  | text value =>
      exact controlsBreakLines_writeAtom (.text value)
  | list items inductionHypothesis =>
      rw [writePretty, writePrettyItems_eq_map]
      refine controlsBreakLines_bracketed (by decide) (by decide) level ?_
      exact List.forall_mem_map.mpr fun item member =>
        inductionHypothesis item member (level + 1)
  | object members inductionHypothesis =>
      rw [writePretty, writePrettyMembers_eq_map]
      refine controlsBreakLines_bracketed (by decide) (by decide) level ?_
      refine List.forall_mem_map.mpr fun member isMember => ?_
      have spelled :
          (writtenMember [] (writeValue (level + 1)) member).text =
            writeText member.1 ++ ':' :: ' ' :: writePretty (level + 1) member.2 := by
        simp [writtenMember, WrittenMember.text, writeText, writeValue]
      rw [spelled]
      exact
        .append (controlsBreakLines_writeText member.1)
          (.cons (by decide)
            (.cons (by decide) (inductionHypothesis member isMember (level + 1))))

end QueryAgent.Json

import QueryAgent.Proofs.Text.Decimal
import QueryAgent.Text.Split

namespace QueryAgent.Text

/-!
# Split texts

A text is cut at its first separator and not at all where the separator does
not occur.  The parts of a text hold its other characters and nothing else.
-/

/-! ## The first separator -/

theorem takeWhile_append_cons
    {inClass : Char → Bool}
    {stop : Char}
    (stops : inClass stop = false)
    (front behind : List Char) :
    (front ++ stop :: behind).takeWhile inClass = front.takeWhile inClass := by
  induction front with
  | nil =>
      simp [stops]
  | cons character rest inductionHypothesis =>
      cases inside : inClass character <;>
        simp [inside, inductionHypothesis]

theorem dropWhile_append_cons
    {inClass : Char → Bool}
    {stop : Char}
    (stops : inClass stop = false)
    (front behind : List Char) :
    (front ++ stop :: behind).dropWhile inClass = front.dropWhile inClass ++ stop :: behind := by
  induction front with
  | nil =>
      simp [stops]
  | cons character rest inductionHypothesis =>
      cases inside : inClass character <;>
        simp [inside, inductionHypothesis]

/-- Where a separator is absent every character is another one. -/
theorem different_of_not_mem
    {separator : Char}
    {characters : List Char}
    (absent : separator ∉ characters) :
    ∀ character ∈ characters, decide (character ≠ separator) = true := by
  intro character member
  have different : character ≠ separator := by
    rintro rfl
    exact absent member
  simpa using different

theorem dropWhile_of_not_mem
    {separator : Char}
    {characters : List Char}
    (absent : separator ∉ characters) :
    characters.dropWhile (fun character => decide (character ≠ separator)) = [] := by
  rw [← List.append_nil characters,
    List.dropWhile_append_of_pos (different_of_not_mem absent), List.dropWhile_nil]

/-- A text without a separator is not split. -/
theorem splitFirst?_of_not_mem
    {separator : Char}
    {characters : List Char}
    (absent : separator ∉ characters) :
    splitFirst? separator characters = none := by
  rw [splitFirst?, dropWhile_of_not_mem absent]

/-- A text is split at its first separator. -/
theorem splitFirst?_append_cons
    {separator : Char}
    {front : List Char}
    (absent : separator ∉ front)
    (behind : List Char) :
    splitFirst? separator (front ++ separator :: behind) = some (front, behind) := by
  have inside := different_of_not_mem absent
  have ends : EndsRun (fun character => decide (character ≠ separator))
      (separator :: behind) := by
    simp [EndsRun]
  rw [splitFirst?, dropWhile_append_of_endsRun inside ends,
    takeWhile_append_of_endsRun inside ends]

/-- What stands behind the first separator goes on with what is written behind it. -/
theorem splitFirst?_append
    {separator : Char}
    {front : List Char}
    (present : separator ∈ front)
    (behind : List Char) :
    splitFirst? separator (front ++ behind) =
      (splitFirst? separator front).map fun parts => (parts.1, parts.2 ++ behind) := by
  obtain ⟨before, after, rfl, absent⟩ := List.eq_append_cons_of_mem present
  rw [List.append_assoc, List.cons_append, splitFirst?_append_cons absent,
    splitFirst?_append_cons absent]
  rfl

/-- What stands in front of the first separator stays in front of it. -/
theorem splitFirst?_append_of_not_mem
    {separator : Char}
    {front : List Char}
    (absent : separator ∉ front)
    (behind : List Char) :
    splitFirst? separator (front ++ behind) =
      (splitFirst? separator behind).map fun parts => (front ++ parts.1, parts.2) := by
  by_cases present : separator ∈ behind
  · obtain ⟨before, after, rfl, absentBefore⟩ := List.eq_append_cons_of_mem present
    have absentAll : separator ∉ front ++ before := by
      simp [absent, absentBefore]
    rw [← List.append_assoc, splitFirst?_append_cons absentAll,
      splitFirst?_append_cons absentBefore]
    rfl
  · have absentAll : separator ∉ front ++ behind := by
      simp [absent, present]
    rw [splitFirst?_of_not_mem absentAll, splitFirst?_of_not_mem present]
    rfl

/-- A text that is split at a separator has the separator between its parts. -/
theorem eq_append_of_splitFirst?
    {separator : Char}
    {characters front behind : List Char}
    (split : splitFirst? separator characters = some (front, behind)) :
    characters = front ++ separator :: behind ∧ separator ∉ front := by
  by_cases present : separator ∈ characters
  · obtain ⟨before, after, rfl, absent⟩ := List.eq_append_cons_of_mem present
    rw [splitFirst?_append_cons absent] at split
    cases split
    exact ⟨rfl, absent⟩
  · rw [splitFirst?_of_not_mem present] at split
    cases split

theorem not_mem_of_splitFirst?
    {separator : Char}
    {characters : List Char}
    (unsplit : splitFirst? separator characters = none) :
    separator ∉ characters := by
  intro present
  obtain ⟨before, after, rfl, absent⟩ := List.eq_append_cons_of_mem present
  rw [splitFirst?_append_cons absent] at unsplit
  cases unsplit

/-! ## All separators -/

/-- A text is split as a list of characters is. -/
theorem splitAll_eq_splitOn
    (separator : Char)
    (characters : List Char) :
    splitAll (· == separator) characters = characters.splitOn separator := by
  induction characters with
  | nil =>
      rfl
  | cons character rest inductionHypothesis =>
      rw [List.splitOn] at inductionHypothesis ⊢
      rw [splitAll, List.splitOnP_cons_eq_if_modifyHead, inductionHypothesis]
      split
      · rfl
      · cases parts : rest.splitOnP (· == separator) with
        | nil =>
            exact absurd parts (List.splitOnP_ne_nil _ _)
        | cons part parts =>
            rfl

/-- Parts with a separator between them are split again, as it stands in none of them. -/
theorem splitAll_intercalate
    {separator : Char}
    {parts : List (List Char)}
    (absent : ∀ part ∈ parts, separator ∉ part)
    (nonempty : parts ≠ []) :
    splitAll (· == separator) ([separator].intercalate parts) = parts := by
  rw [splitAll_eq_splitOn, List.splitOn_intercalate separator absent nonempty]

/-- A character that is in no part and not between them is not in the joined parts. -/
theorem not_mem_intercalate
    {character : Char}
    {between : List Char}
    {parts : List (List Char)}
    (outsideBetween : character ∉ between)
    (outsideParts : ∀ part ∈ parts, character ∉ part) :
    character ∉ between.intercalate parts := by
  induction parts with
  | nil =>
      simp
  | cons part rest inductionHypothesis =>
      rw [List.forall_mem_cons] at outsideParts
      cases rest with
      | nil =>
          simpa using outsideParts.1
      | cons next rest =>
          have further := inductionHypothesis outsideParts.2
          rw [List.intercalate_cons_cons]
          simp only [List.mem_append, not_or]
          exact ⟨⟨outsideParts.1, outsideBetween⟩, further⟩

/-- Characters that separate alike split a text alike. -/
theorem splitAll_congr
    {isSeparator isOther : Char → Bool}
    {characters : List Char}
    (alike : ∀ character ∈ characters, isSeparator character = isOther character) :
    splitAll isSeparator characters = splitAll isOther characters := by
  induction characters with
  | nil =>
      rfl
  | cons character rest inductionHypothesis =>
      rw [splitAll, splitAll, alike character (by simp),
        inductionHypothesis fun other member => alike other (by simp [member])]

/-- A part holds characters of the text, and none of them separates. -/
theorem mem_of_mem_splitAll
    {isSeparator : Char → Bool}
    {characters part : List Char}
    (isPart : part ∈ splitAll isSeparator characters)
    {character : Char}
    (member : character ∈ part) :
    character ∈ characters ∧ isSeparator character = false := by
  induction characters generalizing part with
  | nil =>
      obtain rfl := List.mem_singleton.mp isPart
      cases member
  | cons first rest inductionHypothesis =>
      rw [splitAll] at isPart
      split at isPart
      next separates =>
          rcases List.mem_cons.mp isPart with rfl | further
          · cases member
          · exact (inductionHypothesis further member).imp_left (List.mem_cons_of_mem _)
      next stays =>
          split at isPart
          next head others split =>
              rcases List.mem_cons.mp isPart with rfl | further
              · rcases List.mem_cons.mp member with rfl | inHead
                · exact ⟨by simp, Bool.eq_false_iff.mpr stays⟩
                · exact
                    (inductionHypothesis (split ▸ List.mem_cons_self) inHead).imp_left
                      (List.mem_cons_of_mem _)
              · exact
                  (inductionHypothesis (split ▸ List.mem_cons_of_mem _ further)
                    member).imp_left (List.mem_cons_of_mem _)
          next none =>
              exact absurd none (splitAll_ne_nil _ _)

end QueryAgent.Text

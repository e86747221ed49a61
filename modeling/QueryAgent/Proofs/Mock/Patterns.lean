import Mathlib.Data.List.Forall2
import QueryAgent.Mock.Pattern

namespace QueryAgent.Mock

/-!
# What a pattern matches

A text is like a pattern when it can be cut into consecutive pieces, one for
each character of the pattern in their order: any piece for a percent sign, one
character for an underscore, and the character itself for every other.  So a
pattern behind another matches a text behind another, and percent signs behind
a percent sign add nothing to it.
-/

/-- A character of a pattern stands for a piece of a text. -/
inductive StandsFor : Char → List Char → Prop where
  | percent
      (piece : List Char) :
      StandsFor '%' piece
  | underscore
      (character : Char) :
      StandsFor '_' [character]
  | itself
      {character : Char}
      (notPercent : character ≠ '%')
      (notUnderscore : character ≠ '_') :
      StandsFor character [character]

/-- A text is cut into consecutive pieces along a pattern, one for each character of it. -/
def CutAlong
    (pattern text : List Char) : Prop :=
  ∃ pieces, List.Forall₂ StandsFor pattern pieces ∧ pieces.flatten = text

/-- Every character but the percent sign stands for one character, the underscore for any. -/
theorem standsFor_iff_of_ne
    {wanted : Char}
    (notPercent : wanted ≠ '%')
    {piece : List Char} :
    StandsFor wanted piece ↔
      ∃ character, piece = [character] ∧ (wanted = '_' ∨ wanted = character) := by
  constructor
  · intro stands
    cases stands with
    | percent =>
        exact absurd rfl notPercent
    | underscore character =>
        exact ⟨character, rfl, .inl rfl⟩
    | itself =>
        exact ⟨wanted, rfl, .inr rfl⟩
  · rintro ⟨character, rfl, accepted⟩
    by_cases underscore : wanted = '_'
    · subst underscore
      exact .underscore character
    · obtain rfl := accepted.resolve_left underscore
      exact .itself notPercent underscore

/-! ## Cutting along a pattern -/

theorem cutAlong_nil
    {text : List Char} :
    CutAlong [] text ↔ text = [] := by
  simp [CutAlong, eq_comm]

/-- The first piece is cut off, and the others are cut along the rest of the pattern. -/
theorem cutAlong_cons
    {wanted : Char}
    {pattern text : List Char} :
    CutAlong (wanted :: pattern) text ↔
      ∃ piece rest, piece ++ rest = text ∧ StandsFor wanted piece ∧ CutAlong pattern rest := by
  constructor
  · rintro ⟨_, stand, rfl⟩
    obtain ⟨piece, pieces, stands, others, rfl⟩ := List.forall₂_cons_left_iff.mp stand
    exact ⟨piece, pieces.flatten, rfl, stands, pieces, others, rfl⟩
  · rintro ⟨piece, _, rfl, stands, pieces, others, rfl⟩
    exact ⟨piece :: pieces, .cons stands others, rfl⟩

/-- A percent sign leaves an end of the text to the rest of the pattern. -/
theorem cutAlong_percent_cons
    {pattern text : List Char} :
    CutAlong ('%' :: pattern) text ↔ ∃ rest, rest <:+ text ∧ CutAlong pattern rest := by
  rw [cutAlong_cons]
  constructor
  · rintro ⟨piece, rest, whole, _, cut⟩
    exact ⟨rest, ⟨piece, whole⟩, cut⟩
  · rintro ⟨rest, ⟨piece, whole⟩, cut⟩
    exact ⟨piece, rest, whole, .percent piece, cut⟩

/-- Every other character takes one character off the text. -/
theorem cutAlong_cons_of_ne
    {wanted : Char}
    (notPercent : wanted ≠ '%')
    {pattern text : List Char} :
    CutAlong (wanted :: pattern) text ↔
      ∃ character rest,
        character :: rest = text
          ∧ (wanted = '_' ∨ wanted = character)
          ∧ CutAlong pattern rest := by
  rw [cutAlong_cons]
  constructor
  · rintro ⟨_, rest, rfl, stands, cut⟩
    obtain ⟨character, rfl, accepted⟩ := (standsFor_iff_of_ne notPercent).mp stands
    exact ⟨character, rest, rfl, accepted, cut⟩
  · rintro ⟨character, rest, rfl, accepted, cut⟩
    have stands := (standsFor_iff_of_ne notPercent).mpr ⟨character, rfl, accepted⟩
    exact ⟨[character], rest, rfl, stands, cut⟩

/-- Along two patterns a text is cut where the first one ends. -/
theorem cutAlong_append
    {first second text : List Char} :
    CutAlong (first ++ second) text ↔
      ∃ before after, before ++ after = text ∧ CutAlong first before ∧ CutAlong second after := by
  induction first generalizing text with
  | nil =>
      simp [cutAlong_nil]
  | cons wanted first inductionHypothesis =>
      rw [List.cons_append, cutAlong_cons]
      constructor
      · rintro ⟨piece, _, rfl, stands, cut⟩
        obtain ⟨before, after, rfl, cutFirst, cutSecond⟩ := inductionHypothesis.mp cut
        refine ⟨piece ++ before, after, List.append_assoc _ _ _, ?_, cutSecond⟩
        exact cutAlong_cons.mpr ⟨piece, before, rfl, stands, cutFirst⟩
      · rintro ⟨_, after, rfl, cutFirst, cutSecond⟩
        obtain ⟨piece, before, rfl, stands, cut⟩ := cutAlong_cons.mp cutFirst
        refine ⟨piece, before ++ after, (List.append_assoc _ _ _).symm, stands, ?_⟩
        exact inductionHypothesis.mpr ⟨before, after, rfl, cut, cutSecond⟩

/-- Every text is cut along a run of percent signs, the first of which takes all of it. -/
theorem cutAlong_percents
    (count : Nat)
    (text : List Char) :
    CutAlong (List.replicate (count + 1) '%') text := by
  have others : List.Forall₂ StandsFor (List.replicate count '%') (List.replicate count []) := by
    induction count with
    | zero =>
        exact .nil
    | succ count inductionHypothesis =>
        exact .cons (.percent []) inductionHypothesis
  exact ⟨text :: List.replicate count [], .cons (.percent text) others, by simp⟩

/-- Percent signs behind a percent sign add nothing to it. -/
theorem cutAlong_around_percents
    {first second text : List Char}
    (count : Nat) :
    CutAlong (first ++ List.replicate (count + 1) '%' ++ second) text ↔
      CutAlong (first ++ ['%'] ++ second) text := by
  have alike :
      ∀ between, CutAlong (List.replicate (count + 1) '%') between ↔ CutAlong ['%'] between :=
    fun between => iff_of_true (cutAlong_percents count between) (cutAlong_percents 0 between)
  simp only [cutAlong_append, alike]

/-! ## Matching -/

/-- An end of a text is found just when one passes the test. -/
theorem anySuffix_iff
    {test : List Char → Bool}
    {text : List Char} :
    anySuffix test text = true ↔ ∃ rest, rest <:+ text ∧ test rest = true := by
  induction text with
  | nil =>
      simp [anySuffix]
  | cons character text inductionHypothesis =>
      rw [anySuffix, Bool.or_eq_true, inductionHypothesis]
      simp only [List.suffix_cons_iff, or_and_right, exists_or, exists_eq_left]

/-- A pattern matches the texts that can be cut along it. -/
theorem matchesPattern_iff
    {pattern text : List Char} :
    matchesPattern pattern text = true ↔ CutAlong pattern text := by
  induction pattern generalizing text with
  | nil =>
      rw [matchesPattern, List.isEmpty_iff, cutAlong_nil]
  | cons wanted pattern inductionHypothesis =>
      by_cases percent : wanted = '%'
      · subst percent
        rw [matchesPattern, anySuffix_iff, cutAlong_percent_cons]
        simp only [inductionHypothesis]
      · rw [cutAlong_cons_of_ne percent]
        cases text with
        | nil =>
            simp [matchesPattern]
        | cons character rest =>
            simp [matchesPattern, inductionHypothesis]

theorem like_iff
    {text pattern : String} :
    like text pattern = true ↔ CutAlong pattern.toList text.toList :=
  matchesPattern_iff

/--
A text is like a pattern just when it is cut into consecutive pieces that the
characters of the pattern stand for in their order.  It is like two patterns
behind one another just when it is a text like the first in front of one like
the second, and a run of percent signs does what one of them does.
-/
theorem like_exact :
    (∀ text pattern : String,
      like text pattern = true ↔
        ∃ pieces,
          List.Forall₂ StandsFor pattern.toList pieces ∧ pieces.flatten = text.toList)
      ∧ (∀ text first second : String,
        like text (first ++ second) = true ↔
          ∃ before after,
            text = before ++ after ∧ like before first = true ∧ like after second = true)
      ∧ ∀ (text first second : String) (count : Nat),
        like text (first ++ String.ofList (List.replicate (count + 1) '%') ++ second) =
          like text (first ++ "%" ++ second) := by
  refine ⟨fun _ _ => like_iff, ?append, ?run⟩
  case append =>
      intro text first second
      rw [like_iff, String.toList_append, cutAlong_append]
      constructor
      · rintro ⟨before, after, whole, cutFirst, cutSecond⟩
        refine ⟨String.ofList before, String.ofList after, ?_, ?_, ?_⟩
        · rw [← String.ofList_append, whole, String.ofList_toList]
        · rwa [like_iff, String.toList_ofList]
        · rwa [like_iff, String.toList_ofList]
      · rintro ⟨before, after, rfl, likeFirst, likeSecond⟩
        exact
          ⟨before.toList, after.toList, String.toList_append.symm, like_iff.mp likeFirst,
            like_iff.mp likeSecond⟩
  case run =>
      intro text first second count
      rw [Bool.eq_iff_iff, like_iff, like_iff]
      simp only [String.toList_append, String.toList_ofList]
      exact cutAlong_around_percents count

end QueryAgent.Mock

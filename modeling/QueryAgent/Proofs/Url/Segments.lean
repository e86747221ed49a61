import QueryAgent.Proofs.Url.Joining
import QueryAgent.Proofs.Url.Percent

namespace QueryAgent.Url

/-!
# Segments added to a path

A slash at the end of a text adds an empty segment.  Behind a segment that is
not empty this opens the path that the segments lead to, dots or not.
-/

/-! ## Texts split into segments -/

section
variable {isSeparator : Char → Bool}

/-- A separator at the end leaves an empty part behind it. -/
theorem splitAll_append_separator
    {separator : Char}
    (separates : isSeparator separator = true)
    (characters : List Char) :
    Text.splitAll isSeparator (characters ++ [separator]) =
      Text.splitAll isSeparator characters ++ [[]] := by
  induction characters with
  | nil =>
      simp [Text.splitAll, separates]
  | cons character rest inductionHypothesis =>
      rw [List.cons_append, Text.splitAll, Text.splitAll, inductionHypothesis]
      split
      · rfl
      · cases parts : Text.splitAll isSeparator rest with
        | nil =>
            exact absurd parts (Text.splitAll_ne_nil _ _)
        | cons part parts =>
            rfl

/-- Another character at the end belongs to the last part. -/
theorem exists_splitAll_append
    {last : Char}
    (stays : isSeparator last = false)
    (characters : List Char) :
    ∃ earlier part,
      Text.splitAll isSeparator (characters ++ [last]) = earlier ++ [part ++ [last]] := by
  induction characters with
  | nil =>
      exact ⟨[], [], by simp [Text.splitAll, stays]⟩
  | cons character rest inductionHypothesis =>
      obtain ⟨earlier, part, parts⟩ := inductionHypothesis
      rw [List.cons_append, Text.splitAll, parts]
      split
      · exact ⟨[] :: earlier, part, rfl⟩
      · cases earlier with
        | nil =>
            exact ⟨[], character :: part, rfl⟩
        | cons first earlier =>
            exact ⟨(character :: first) :: earlier, part, rfl⟩

end

/-- Something is written for every character. -/
theorem encode_append_singleton_ne_nil
    (reserved : Reserved)
    (content : List Char)
    (last : Char) :
    encode reserved (content ++ [last]) ≠ [] := by
  have written : encodeChar reserved last ≠ [] := by
    unfold encodeChar
    split
    next escaped =>
        have bytes : Text.encodeChar last ≠ [] := by
          intro none
          have same : Text.encodeUtf8 [last] = Text.encodeUtf8 [] := by
            simpa [Text.encodeUtf8] using none
          exact List.cons_ne_nil _ _ (Text.encodeUtf8_injective same)
        obtain ⟨byte, rest, shape⟩ := List.exists_cons_of_ne_nil bytes
        rw [shape]
        exact List.cons_ne_nil _ _
    next kept =>
        exact List.cons_ne_nil _ _
  simp [encode, written]

/-! ## Open ends -/

/-- Segments that end with an empty one, added where it is missing. -/
def withOpenEnd
    (segments : List (List Char)) : List (List Char) :=
  if segments.getLast? = some [] then
    segments
  else
    segments ++ [[]]

theorem withOpenEnd_append_nil
    (segments : List (List Char)) :
    withOpenEnd (segments ++ [[]]) = segments ++ [[]] := by
  rw [withOpenEnd, if_pos List.getLast?_concat]

theorem exists_withOpenEnd_eq
    (segments : List (List Char)) :
    ∃ place, withOpenEnd segments = place ++ [[]] := by
  unfold withOpenEnd
  split
  next ends =>
      exact List.getLast?_eq_some_iff.mp ends
  next =>
      exact ⟨segments, rfl⟩

/-- What is added in front of other segments, one step. -/
theorem addSegments_cons
    {rest : List (List Char)}
    (further : rest ≠ [])
    (isFile : Bool)
    (before : List (List Char))
    (segment : List Char) :
    addSegments isFile before (segment :: rest) =
      if isDoubleDot segment then
        addSegments isFile (above before) rest
      else if isSingleDot segment then
        addSegments isFile before rest
      else
        addSegments isFile (before ++ [keptSegment isFile before segment]) rest := by
  obtain ⟨next, others, rfl⟩ := List.exists_cons_of_ne_nil further
  rw [addSegments]
  exact further

/-- What the last of the segments adds. -/
theorem addSegments_singleton
    (before : List (List Char))
    (last : List Char) :
    addSegments false before [last] =
      if isDoubleDot last then
        above before ++ [[]]
      else if isSingleDot last then
        before ++ [[]]
      else
        before ++ [last] :=
  rfl

/-- An empty segment opens the path. -/
theorem addSegments_nil
    (before : List (List Char)) :
    addSegments false before [[]] = before ++ [[]] :=
  rfl

/-- An empty segment behind others opens the path that they lead to. -/
theorem addSegments_append_nil
    {last : List Char}
    (nonempty : last ≠ [])
    (before earlier : List (List Char)) :
    addSegments false before (earlier ++ [last] ++ [[]]) =
      withOpenEnd (addSegments false before (earlier ++ [last])) := by
  induction earlier generalizing before with
  | nil =>
      rw [List.nil_append, List.singleton_append, addSegments_cons (List.cons_ne_nil _ _),
        addSegments_singleton before last]
      simp only [addSegments_nil]
      -- Dots leave the path open as it is; any other last segment is kept, and not empty.
      split
      · rw [withOpenEnd_append_nil]
      split
      · rw [withOpenEnd_append_nil]
      · rw [withOpenEnd, if_neg (by simpa using nonempty)]
        rfl
  | cons segment earlier inductionHypothesis =>
      rw [List.cons_append, List.cons_append, addSegments_cons (by simp),
        addSegments_cons (by simp), inductionHypothesis, inductionHypothesis,
        inductionHypothesis]
      simp only [apply_ite withOpenEnd]

/-- Segments whose last one is empty lead to an open path. -/
theorem exists_addSegments_append_nil
    (before earlier : List (List Char)) :
    ∃ place, addSegments false before (earlier ++ [[]]) = place ++ [[]] := by
  induction earlier generalizing before with
  | nil =>
      exact ⟨before, rfl⟩
  | cons segment earlier inductionHypothesis =>
      rw [List.cons_append, addSegments_cons (by simp)]
      split
      · exact inductionHypothesis _
      split <;>
        exact inductionHypothesis _

/-- Only segments that were added, and empty ones, get into a path. -/
theorem mem_of_mem_addSegments
    {before segments : List (List Char)}
    {part : List Char}
    (member : part ∈ addSegments false before segments) :
    part ∈ before ∨ part ∈ segments ∨ part = [] := by
  have inAbove : ∀ {before : List (List Char)}, part ∈ above before → part ∈ before := by
    intro before inAbove
    unfold above at inAbove
    split at inAbove
    · exact inAbove
    · exact (List.dropLast_sublist _).mem inAbove
  fun_induction addSegments false before segments with
  | case1 before =>
      exact .inl member
  | case2 before last dots =>
      rcases List.mem_append.mp member with earlier | opened
      · exact .inl (inAbove earlier)
      · exact .inr (.inr (List.mem_singleton.mp opened))
  | case3 before last _ dot =>
      rcases List.mem_append.mp member with earlier | opened
      · exact .inl earlier
      · exact .inr (.inr (List.mem_singleton.mp opened))
  | case4 before last =>
      rcases List.mem_append.mp member with earlier | added
      · exact .inl earlier
      · exact .inr (.inl added)
  | case5 before segment rest _ dots inductionHypothesis =>
      exact
        (inductionHypothesis member).imp inAbove (Or.imp_left (List.mem_cons_of_mem _))
  | case6 before segment rest _ _ dot inductionHypothesis =>
      exact (inductionHypothesis member).imp_right (Or.imp_left (List.mem_cons_of_mem _))
  | case7 before segment rest _ _ _ inductionHypothesis =>
      rcases inductionHypothesis member with earlier | further | empty
      · rcases List.mem_append.mp earlier with earlier | added
        · exact .inl earlier
        · obtain rfl := List.mem_singleton.mp added
          exact .inr (.inl (by simp))
      · exact .inr (.inl (List.mem_cons_of_mem _ further))
      · exact .inr (.inr empty)

end QueryAgent.Url

import Mathlib.Data.List.TakeWhile
import QueryAgent.Proofs.Text.Split
import QueryAgent.Text.Blank

namespace QueryAgent.Text

/-!
# Trimmed texts

Trimming takes the blanks off both ends of a text and nothing else.  The parts
of a text between separators come out the same whether or not the text was
trimmed before it was split, once they are trimmed themselves.
-/

/-- A text is another one with nothing but blanks around it. -/
def BlanksAround
    (inner outer : List Char) : Prop :=
  ∃ before after,
    outer = before ++ inner ++ after
      ∧ (∀ character ∈ before, isBlank character = true)
      ∧ ∀ character ∈ after, isBlank character = true

/-- A text that neither begins nor ends with a blank. -/
structure IsTrimmed
    (characters : List Char) : Prop where
  first : ∀ character ∈ characters.head?, isBlank character = false
  last : ∀ character ∈ characters.getLast?, isBlank character = false

/-- The blanks at the front of a text are all that is passed over. -/
theorem eq_append_trimStartList
    (characters : List Char) :
    ∃ blanks,
      characters = blanks ++ trimStartList characters ∧
        ∀ character ∈ blanks, isBlank character = true :=
  ⟨characters.takeWhile isBlank, List.takeWhile_append_dropWhile.symm,
    List.all_eq_true.mp List.all_takeWhile⟩

/-- The blanks at the end of a text are all that is cut off. -/
theorem eq_trimEndList_append
    (characters : List Char) :
    ∃ blanks,
      characters = trimEndList characters ++ blanks ∧
        ∀ character ∈ blanks, isBlank character = true := by
  refine ⟨(characters.reverse.takeWhile isBlank).reverse, ?_, ?_⟩
  · rw [trimEndList, ← List.reverse_append, List.takeWhile_append_dropWhile,
      List.reverse_reverse]
  · intro character member
    exact List.mem_takeWhile_imp (List.mem_reverse.mp member)

/-- A text is what is left of it when it is trimmed, with blanks around. -/
theorem blanksAround_trimList
    (characters : List Char) :
    BlanksAround (trimList characters) characters := by
  obtain ⟨before, opened, blankBefore⟩ := eq_append_trimStartList characters
  obtain ⟨after, ended, blankAfter⟩ := eq_trimEndList_append (trimStartList characters)
  refine ⟨before, after, ?_, blankBefore, blankAfter⟩
  rw [trimList, List.append_assoc, ← ended, ← opened]

section
variable {blanks : List Char}

/-- Blanks in front of a text do not count. -/
theorem trimList_blanks_append
    (blank : ∀ character ∈ blanks, isBlank character = true)
    (characters : List Char) :
    trimList (blanks ++ characters) = trimList characters := by
  rw [trimList, trimStartList, List.dropWhile_append_of_pos blank]
  rfl

theorem trimEndList_append_blanks
    (blank : ∀ character ∈ blanks, isBlank character = true)
    (characters : List Char) :
    trimEndList (characters ++ blanks) = trimEndList characters := by
  have blankBackwards : ∀ character ∈ blanks.reverse, isBlank character = true :=
    fun character member => blank character (List.mem_reverse.mp member)
  rw [trimEndList, List.reverse_append, List.dropWhile_append_of_pos blankBackwards]
  rfl

/-- Blanks behind a text do not count. -/
theorem trimList_append_blanks
    (blank : ∀ character ∈ blanks, isBlank character = true)
    (characters : List Char) :
    trimList (characters ++ blanks) = trimList characters := by
  have cutFromFront :
      trimStartList (characters ++ blanks) = trimStartList characters ++ blanks
        ∨ trimStartList characters = [] := by
    rw [trimStartList, List.dropWhile_append]
    cases left : characters.dropWhile isBlank <;>
      simp [trimStartList, left]
  rcases cutFromFront with kept | nothing
  · rw [trimList, kept, trimEndList_append_blanks blank]
    rfl
  · have allBlank : ∀ character ∈ characters ++ blanks, isBlank character = true := by
      intro character member
      rcases List.mem_append.mp member with inFront | behind
      · exact List.dropWhile_eq_nil_iff.mp nothing character inFront
      · exact blank character behind
    rw [trimList, trimStartList, List.dropWhile_eq_nil_iff.mpr allBlank, trimList, nothing]

end

/-- There is nothing to cut off a trimmed text. -/
theorem trimList_of_isTrimmed
    {characters : List Char}
    (trimmed : IsTrimmed characters) :
    trimList characters = characters := by
  have opened : trimStartList characters = characters := by
    cases characters with
    | nil =>
        rfl
    | cons character rest =>
        exact List.dropWhile_cons_of_neg (by simp [trimmed.first character rfl])
  have ended : characters.reverse.dropWhile isBlank = characters.reverse := by
    cases reversed : characters.reverse with
    | nil =>
        rfl
    | cons character rest =>
        have isLast : character ∈ characters.getLast? := by
          rw [← List.head?_reverse, reversed]
          rfl
        exact List.dropWhile_cons_of_neg (by simp [trimmed.last character isLast])
  rw [trimList, opened, trimEndList, ended, List.reverse_reverse]

/-- What is left of a text is trimmed. -/
theorem isTrimmed_trimList
    (characters : List Char) :
    IsTrimmed (trimList characters) := by
  constructor
  case last =>
    intro character isLast
    rw [trimList, trimEndList, List.getLast?_reverse] at isLast
    have stopped := List.head?_dropWhile_not isBlank (trimStartList characters).reverse
    rw [isLast] at stopped
    exact stopped
  case first =>
    intro character isFirst
    obtain ⟨blanks, ended, _⟩ := eq_trimEndList_append (trimStartList characters)
    have stopped := List.head?_dropWhile_not isBlank characters
    have starts : (characters.dropWhile isBlank).head? = some character := by
      rw [trimStartList] at ended
      rw [ended, List.head?_append]
      exact Option.or_eq_some_iff.mpr (.inl isFirst)
    rw [starts] at stopped
    exact stopped

/-- What is left of a text is the one trimmed text that it surrounds with blanks. -/
theorem trimList_eq_iff
    {inner outer : List Char} :
    trimList outer = inner ↔ IsTrimmed inner ∧ BlanksAround inner outer := by
  constructor
  · rintro rfl
    exact ⟨isTrimmed_trimList outer, blanksAround_trimList outer⟩
  · rintro ⟨trimmed, before, after, rfl, blankBefore, blankAfter⟩
    rw [trimList_append_blanks blankAfter, trimList_blanks_append blankBefore,
      trimList_of_isTrimmed trimmed]

/-! ## Parts between separators -/

section
variable {separator : Char}

/-- No part holds the separator. -/
theorem not_mem_of_mem_splitOn
    {characters part : List Char}
    (isPart : part ∈ characters.splitOn separator) :
    separator ∉ part := by
  intro member
  rw [← splitAll_eq_splitOn] at isPart
  obtain ⟨_, stays⟩ := mem_of_mem_splitAll isPart member
  simp at stays

/-- A character that does not separate stands in front of the first part. -/
theorem splitOn_cons_of_ne
    {character : Char}
    (different : character ≠ separator)
    (characters : List Char) :
    (character :: characters).splitOn separator =
      (characters.splitOn separator).modifyHead (character :: ·) := by
  rw [List.splitOn_eq_splitOnP, List.splitOnP_cons_eq_if_modifyHead,
    if_neg (by simpa using different), List.splitOn_eq_splitOnP]

theorem splitOn_cons_self
    (characters : List Char) :
    (separator :: characters).splitOn separator = [] :: characters.splitOn separator := by
  rw [List.splitOn_eq_splitOnP, List.splitOnP_cons_eq_if_modifyHead,
    if_pos (by simp), List.splitOn_eq_splitOnP]

/-- What stands in front of a text and does not separate belongs to its first part. -/
theorem splitOn_append_of_not_mem
    {front : List Char}
    (absent : separator ∉ front)
    (characters : List Char) :
    (front ++ characters).splitOn separator =
      (characters.splitOn separator).modifyHead (front ++ ·) := by
  induction front with
  | nil =>
      rw [List.nil_append]
      cases characters.splitOn separator <;>
        rfl
  | cons character front inductionHypothesis =>
      rw [List.mem_cons, not_or] at absent
      rw [List.cons_append, splitOn_cons_of_ne (Ne.symm absent.1),
        inductionHypothesis absent.2, List.modifyHead_modifyHead]
      rfl

/-- What stands behind a text and does not separate belongs to its last part. -/
theorem exists_splitOn_append
    {behind : List Char}
    (absent : separator ∉ behind)
    (characters : List Char) :
    ∃ earlier last,
      characters.splitOn separator = earlier ++ [last]
        ∧ (characters ++ behind).splitOn separator = earlier ++ [last ++ behind] := by
  induction characters with
  | nil =>
      refine ⟨[], [], by simp, ?_⟩
      have whole : behind = [separator].intercalate [behind] := by
        simp
      rw [List.nil_append, whole, List.splitOn_intercalate separator (by simpa using absent)
        (List.cons_ne_nil _ _)]
      simp
  | cons character characters inductionHypothesis =>
      obtain ⟨earlier, last, parts, further⟩ := inductionHypothesis
      rw [List.cons_append]
      by_cases separates : character = separator
      · subst separates
        refine ⟨[] :: earlier, last, ?_, ?_⟩
        · rw [splitOn_cons_self, parts, List.cons_append]
        · rw [splitOn_cons_self, further, List.cons_append]
      · rw [splitOn_cons_of_ne separates, splitOn_cons_of_ne separates, parts, further]
        cases earlier with
        | nil =>
            exact ⟨[], character :: last, rfl, rfl⟩
        | cons first earlier =>
            exact ⟨(character :: first) :: earlier, last, rfl, rfl⟩

/-- The trimmed parts of a text are those of the trimmed text. -/
theorem map_trimList_splitOn_trimList
    (foreign : isBlank separator = false)
    (characters : List Char) :
    ((trimList characters).splitOn separator).map trimList =
      (characters.splitOn separator).map trimList := by
  have absent {blanks : List Char} (blank : ∀ character ∈ blanks, isBlank character = true) :
      separator ∉ blanks := by
    intro member
    rw [blank separator member] at foreign
    cases foreign
  obtain ⟨before, after, surrounded, blankBefore, blankAfter⟩ := blanksAround_trimList characters
  obtain ⟨earlier, last, parts, partsBehind⟩ :=
    exists_splitOn_append (absent blankAfter) (trimList characters)
  have trimmedBehind :
      ((trimList characters ++ after).splitOn separator).map trimList =
        ((trimList characters).splitOn separator).map trimList := by
    rw [parts, partsBehind]
    simp [trimList_append_blanks blankAfter]
  have partsAround :
      characters.splitOn separator =
        ((trimList characters ++ after).splitOn separator).modifyHead (before ++ ·) := by
    rw [← splitOn_append_of_not_mem (absent blankBefore), ← List.append_assoc, ← surrounded]
  rw [← trimmedBehind, partsAround]
  cases (trimList characters ++ after).splitOn separator with
  | nil =>
      rfl
  | cons first rest =>
      simp [trimList_blanks_append blankBefore]

end

end QueryAgent.Text

import QueryAgent.Proofs.Text.Trimming
import QueryAgent.Text.Ansi

namespace QueryAgent.Text

/-!
# Styled texts without their escape sequences

A styled text is the text with whole escape sequences between its characters.
Their removal gives the text back, as a whole and line by line.
-/

/-- A text that no escape sequence begins in. -/
def EscapeFree
    (text : String) : Prop :=
  escapeChar ∉ text.toList

instance
    (text : String) :
    Decidable (EscapeFree text) :=
  inferInstanceAs (Decidable (escapeChar ∉ text.toList))

/-- A character of the codes between the opening bracket of a sequence and its letter. -/
def isCodeChar
    (character : Char) : Bool :=
  character.isDigit || character = ';'

/-- The first text is the second one with whole escape sequences among its characters. -/
inductive ShowsAs : List Char → List Char → Prop where
  | nil :
      ShowsAs [] []
  | character
      {character : Char}
      {styled shown : List Char}
      (visible : character ≠ escapeChar)
      (rest : ShowsAs styled shown) :
      ShowsAs (character :: styled) (character :: shown)
  | sequence
      {codes styled shown : List Char}
      (codesOnly : ∀ code ∈ codes, isCodeChar code = true)
      (rest : ShowsAs styled shown) :
      ShowsAs (escapeChar :: '[' :: (codes ++ 'm' :: styled)) shown

/-- No code is a letter or a line break. -/
theorem not_mem_codes
    {codes : List Char}
    (codesOnly : ∀ code ∈ codes, isCodeChar code = true)
    {character : Char}
    (noCode : isCodeChar character = false) :
    character ∉ codes := by
  intro member
  cases noCode.symm.trans (codesOnly character member)

/-- A sequence is passed over up to its letter. -/
theorem skipSequence_codes
    {codes : List Char}
    (codesOnly : ∀ code ∈ codes, isCodeChar code = true)
    (after : List Char) :
    skipSequence (codes ++ 'm' :: after) = after := by
  induction codes with
  | nil =>
      simp [skipSequence]
  | cons code codes inductionHypothesis =>
      rw [List.forall_mem_cons] at codesOnly
      have noLetter : code ≠ 'm' := by
        rintro rfl
        cases codesOnly.1
      rw [List.cons_append, skipSequence, if_neg noLetter, inductionHypothesis codesOnly.2]

theorem withoutEscapes_cons
    {character : Char}
    (visible : character ≠ escapeChar)
    (rest : List Char) :
    withoutEscapes (character :: rest) = character :: withoutEscapes rest := by
  rw [withoutEscapes, if_neg visible]

/-- Nothing is left of a whole sequence. -/
theorem withoutEscapes_sequence
    {codes : List Char}
    (codesOnly : ∀ code ∈ codes, isCodeChar code = true)
    (after : List Char) :
    withoutEscapes (escapeChar :: '[' :: (codes ++ 'm' :: after)) = withoutEscapes after := by
  have noLetter : '[' ≠ 'm' := by
    decide
  rw [withoutEscapes, if_pos rfl, skipSequence, if_neg noLetter, skipSequence_codes codesOnly]

namespace ShowsAs

/-- A text without sequences shows as itself. -/
theorem of_not_mem
    {text : List Char}
    (absent : escapeChar ∉ text) :
    ShowsAs text text := by
  induction text with
  | nil =>
      exact .nil
  | cons first rest inductionHypothesis =>
      rw [List.mem_cons, not_or] at absent
      exact .character (Ne.symm absent.1) (inductionHypothesis absent.2)

theorem append
    {styled shown otherStyled otherShown : List Char}
    (first : ShowsAs styled shown)
    (second : ShowsAs otherStyled otherShown) :
    ShowsAs (styled ++ otherStyled) (shown ++ otherShown) := by
  induction first with
  | nil =>
      exact second
  | character visible rest inductionHypothesis =>
      exact .character visible inductionHypothesis
  | sequence codesOnly rest inductionHypothesis =>
      simpa using sequence codesOnly inductionHypothesis

section
variable {styled shown : List Char} (shows : ShowsAs styled shown)
include shows

/-- What is left without the sequences is what the text shows as. -/
theorem withoutEscapes_eq :
    withoutEscapes styled = shown := by
  induction shows with
  | nil =>
      rw [withoutEscapes]
  | character visible rest inductionHypothesis =>
      rw [withoutEscapes_cons visible, inductionHypothesis]
  | sequence codesOnly rest inductionHypothesis =>
      rw [withoutEscapes_sequence codesOnly, inductionHypothesis]

/-- No sequence breaks a line or goes over the end of one. -/
theorem lines_withoutEscapes :
    (styled.splitOn '\n').map withoutEscapes = shown.splitOn '\n' := by
  have mapHead :
      ∀ {change : List Char → List Char} {other : List Char → List Char},
        (∀ line, withoutEscapes (change line) = other (withoutEscapes line)) →
          ∀ lines : List (List Char),
            (lines.modifyHead change).map withoutEscapes =
              (lines.map withoutEscapes).modifyHead other := by
    intro change other commutes lines
    cases lines with
    | nil =>
        rfl
    | cons line lines =>
        simp [commutes]
  induction shows with
  | nil =>
      simp [withoutEscapes]
  | @character character styled shown visible rest inductionHypothesis =>
      by_cases breaks : character = '\n'
      · subst breaks
        rw [splitOn_cons_self, splitOn_cons_self, List.map_cons, inductionHypothesis,
          withoutEscapes]
      · rw [splitOn_cons_of_ne breaks, splitOn_cons_of_ne breaks,
          mapHead (withoutEscapes_cons visible), inductionHypothesis]
  | @sequence codes styled shown codesOnly rest inductionHypothesis =>
      have whole :
          ∀ line,
            (escapeChar :: '[' :: (codes ++ ['m'])) ++ line =
              escapeChar :: '[' :: (codes ++ 'm' :: line) := by
        simp
      have noCode : '\n' ∉ codes := not_mem_codes codesOnly (by decide)
      have unbroken : '\n' ∉ escapeChar :: '[' :: (codes ++ ['m']) := by
        simp [escapeChar, noCode]
      have vanishes :
          ∀ line,
            withoutEscapes ((escapeChar :: '[' :: (codes ++ ['m'])) ++ line) =
              id (withoutEscapes line) := by
        intro line
        rw [whole, withoutEscapes_sequence codesOnly, id]
      -- The sequence stands in the first of the lines, where it vanishes.
      rw [← whole, splitOn_append_of_not_mem unbroken, mapHead vanishes]
      simpa using inductionHypothesis

end

end ShowsAs

/-! ## Styles -/

namespace Style

/-- The codes of a style are digits with semicolons between them. -/
theorem isCodeChar_of_mem_codeList
    (codes : List Nat) :
    ∀ code ∈ codeList codes, isCodeChar code = true := by
  have digits : ∀ number, ∀ code ∈ decimalList number, isCodeChar code = true := by
    intro number code member
    rw [isCodeChar, isDigit_of_mem_decimalList member, Bool.true_or]
  fun_induction codeList codes with
  | case1 =>
      exact nofun
  | case2 code =>
      exact digits code
  | case3 code next rest inductionHypothesis =>
      refine List.forall_mem_append.mpr ⟨digits code, ?_⟩
      exact List.forall_mem_cons.mpr ⟨rfl, inductionHypothesis⟩

/-- What begins a style shows as nothing. -/
theorem showsAs_opening
    (style : Style) :
    ShowsAs style.opening [] :=
  .sequence (isCodeChar_of_mem_codeList style.codes) .nil

theorem showsAs_reset :
    ShowsAs reset [] :=
  .sequence (List.forall_mem_singleton.mpr rfl) .nil

/-- A style is not begun anew where none ends. -/
theorem reopen_of_not_mem
    (opening : List Char)
    {text : List Char}
    (absent : escapeChar ∉ text) :
    reopen opening text = text := by
  fun_induction reopen opening text with
  | case1 =>
      rfl
  | case2 rest =>
      simp at absent
  | case3 first rest _ inductionHypothesis
  | case4 first rest _ inductionHypothesis =>
      rw [inductionHypothesis fun member => absent (List.mem_cons_of_mem _ member)]

/-- A text without sequences shows as itself in every style. -/
theorem showsAs_paint
    (style : Style)
    (colored : Bool)
    {text : String}
    (escapeFree : EscapeFree text) :
    ShowsAs (style.paint colored text).toList text.toList := by
  have plain : ShowsAs text.toList text.toList := .of_not_mem escapeFree
  unfold paint
  split
  · rw [String.toList_ofList, reopen_of_not_mem _ escapeFree]
    simpa using (style.showsAs_opening.append plain).append showsAs_reset
  · exact plain

end Style

end QueryAgent.Text

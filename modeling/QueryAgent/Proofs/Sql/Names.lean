import QueryAgent.Proofs.Text.Decimal
import QueryAgent.Sql.Statement

namespace QueryAgent.Sql

open Text

/-!
# Names in a text

Names that are single words can be read back from a text: a word ends where
something follows that is no part of a word, a point tells a schema from its
table, and no word is a star.
-/

/-- A letter, a digit or an underscore. -/
def isWordCharacter
    (character : Char) : Bool :=
  character.isAlphanum || character == '_'

/-- A name that is one word. -/
structure IsWord
    (name : String) : Prop where
  nonempty : name.toList ≠ []
  characters :
    ∀ character ∈ name.toList, isWordCharacter character = true

/-- Whether a name is one word can be read off its characters. -/
instance (name : String) : Decidable (IsWord name) :=
  decidable_of_iff
    (name.toList ≠ [] ∧ name.toList.all isWordCharacter = true)
    ⟨fun word => ⟨word.1, List.all_eq_true.mp word.2⟩,
      fun word => ⟨word.nonempty, List.all_eq_true.mpr word.characters⟩⟩

/-- A query with names that are single words. -/
structure PlainlyNamed
    (query : Query) : Prop where
  table : IsWord query.table
  schema : ∀ schema ∈ query.schema, IsWord schema
  projection : ∀ projection ∈ query.projection, IsWord projection
  columns :
    ∀ condition ∈ query.conditions ++ query.having,
      IsWord condition.column
  groupBy : ∀ column ∈ query.groupBy, IsWord column

/-- Nothing, or a blank and one of the given initials. -/
def Continues
    (initials : List Char)
    (after : List Char) : Prop :=
  after = [] ∨
    ∃ initial ∈ initials, ∃ rest, after = ' ' :: initial :: rest

/-- What goes on with one of some initials goes on with no other. -/
theorem Continues.ne
    {initials : List Char}
    {after : List Char}
    (continues : Continues initials after)
    {initial : Char}
    (foreign : initial ∉ initials)
    (rest : List Char) :
    after ≠ ' ' :: initial :: rest := by
  intro shape
  rcases continues with empty | ⟨other, member, _, otherShape⟩
  · rw [empty] at shape
    cases shape
  · rw [shape] at otherShape
    cases otherShape
    exact foreign member

/-- What goes on with a clause does not go on with a word, or with anything but a blank. -/
theorem endsRun_of_continues
    {inClass : Char → Bool}
    (noBlank : inClass ' ' = false)
    {initials : List Char}
    {after : List Char}
    (continues : Continues initials after) :
    EndsRun inClass after := by
  rcases continues with empty | ⟨_, _, _, shape⟩
  · rw [empty]
    simp [EndsRun]
  · rw [shape]
    simpa [EndsRun] using noBlank

/-- The initials of what follows go on with the one of a clause that may be missing. -/
theorem continues_append
    {initial : Char}
    {initials : List Char}
    {clause after : List Char}
    (opens :
      clause = [] ∨ ∃ rest, clause = ' ' :: initial :: rest)
    (continues : Continues initials after) :
    Continues (initial :: initials) (clause ++ after) := by
  rcases opens with empty | ⟨rest, shape⟩
  · rw [empty]
    rcases continues with nothing | ⟨other, member, further⟩
    · exact .inl nothing
    · exact .inr ⟨other, List.mem_cons_of_mem _ member, further⟩
  · rw [shape]
    exact .inr ⟨initial, List.mem_cons_self, rest ++ after, rfl⟩

/-- A character of a word is no blank. -/
theorem isBlank_of_isWordCharacter
    {character : Char}
    (inWord : isWordCharacter character = true) :
    isBlank character = false := by
  have range : 48 ≤ character.toNat ∧ character.toNat ≤ 122 := by
    delta isWordCharacter Char.isAlphanum Char.isAlpha Char.isUpper
      Char.isLower Char.isDigit at inWord
    simp [UInt32.le_iff_toNat_le] at inWord
    rcases inWord with ranges | rfl
    · omega
    · decide
  simp [isBlank]
  omega

/-- A word is kept as a name. -/
theorem nonBlank?_of_words
    {name : Option String}
    (word : ∀ kept ∈ name, IsWord kept) :
    nonBlank? name = name := by
  cases name with
  | none =>
      rfl
  | some kept =>
      obtain ⟨nonempty, characters⟩ := word kept rfl
      obtain ⟨first, rest, shape⟩ := List.exists_cons_of_ne_nil nonempty
      have notBlank : isBlank first = false :=
        isBlank_of_isWordCharacter (characters first (by simp [shape]))
      simp [nonBlank?, allBlank, Option.filter, shape, notBlank]

/-- With a word for a projection, what is selected tells whether there is one. -/
theorem selection_inj
    {first second : Query}
    (firstPlain : PlainlyNamed first)
    (secondPlain : PlainlyNamed second)
    (same : selection first = selection second) :
    first.projection = second.projection := by
  have notStar :
      ∀ {name : String}, IsWord name → name ≠ "*" := by
    rintro name ⟨_, characters⟩ rfl
    simpa [isWordCharacter] using characters '*' (by simp)
  rw [selection, selection, nonBlank?_of_words firstPlain.projection,
    nonBlank?_of_words secondPlain.projection] at same
  cases named : first.projection with
  | none =>
      cases otherNamed : second.projection with
      | none =>
          rfl
      | some other =>
          rw [named, otherNamed] at same
          exact
            (notStar (secondPlain.projection other otherNamed)
              same.symm).elim
  | some name =>
      cases otherNamed : second.projection with
      | none =>
          rw [named, otherNamed] at same
          exact (notStar (firstPlain.projection name named) same).elim
      | some other =>
          rw [named, otherNamed] at same
          exact congrArg some same

/-- With words for names, a table tells its schema. -/
theorem source_inj
    {first second : Query}
    (firstPlain : PlainlyNamed first)
    (secondPlain : PlainlyNamed second)
    (same : source first = source second) :
    first.schema = second.schema ∧ first.table = second.table := by
  have noPoint :
      ∀ {table schema other : String}, IsWord table →
        table ≠ schema ++ "." ++ other := by
    rintro _ schema other ⟨_, characters⟩ rfl
    simpa [isWordCharacter] using characters '.' (by simp)
  rw [source, source, nonBlank?_of_words firstPlain.schema,
    nonBlank?_of_words secondPlain.schema] at same
  cases named : first.schema with
  | none =>
      cases otherNamed : second.schema with
      | none =>
          rw [named, otherNamed] at same
          exact ⟨rfl, same⟩
      | some other =>
          rw [named, otherNamed] at same
          exact (noPoint firstPlain.table same).elim
  | some name =>
      cases otherNamed : second.schema with
      | none =>
          rw [named, otherNamed] at same
          exact (noPoint secondPlain.table same.symm).elim
      | some other =>
          rw [named, otherNamed] at same
          have pointEnds :
              ∀ rest : List Char, EndsRun isWordCharacter ('.' :: rest) := by
            simp [EndsRun, isWordCharacter]
          have sameText :
              name.toList ++ '.' :: first.table.toList =
                other.toList ++ '.' :: second.table.toList := by
            simpa using congrArg String.toList same
          obtain ⟨sameName, sameRest⟩ :=
            append_inj_of_endsRun
              (firstPlain.schema name named).characters
              (secondPlain.schema other otherNamed).characters
              (pointEnds _) (pointEnds _) sameText
          exact
            ⟨congrArg some (String.toList_inj.mp sameName),
              String.toList_inj.mp (List.cons.inj sameRest).2⟩

/-- What is selected is a word or a star. -/
theorem selection_characters
    {query : Query}
    (plain : PlainlyNamed query) :
    ∀ character ∈ (selection query).toList,
      (isWordCharacter character || character == '*') = true := by
  rw [selection, nonBlank?_of_words plain.projection]
  cases named : query.projection with
  | none =>
      simp
  | some name =>
      intro character member
      have inWord :=
        (plain.projection name named).characters character member
      simp [inWord]

/-- A source is made of words and a point. -/
theorem source_characters
    {query : Query}
    (plain : PlainlyNamed query) :
    ∀ character ∈ (source query).toList,
      (isWordCharacter character || character == '.') = true := by
  rw [source, nonBlank?_of_words plain.schema]
  have inTable :
      ∀ character ∈ query.table.toList,
        (isWordCharacter character || character == '.') = true :=
    fun character member => by
      simp [plain.table.characters character member]
  cases named : query.schema with
  | none =>
      exact inTable
  | some name =>
      have inSchema :
          ∀ character ∈ name.toList,
            (isWordCharacter character || character == '.') = true :=
        fun character member => by
          simp [(plain.schema name named).characters character member]
      intro character member
      simp only [String.toList_append, List.mem_append] at member
      rcases member with (before | point) | behind
      · exact inSchema character before
      · have isPoint : character = '.' := by
          simpa using point
        simp [isPoint]
      · exact inTable character behind

/-- The text of what is selected and from where tells the names, and where it ends. -/
theorem names_eq_of_text
    {initials : List Char}
    {first second : Query}
    (firstPlain : PlainlyNamed first)
    (secondPlain : PlainlyNamed second)
    {after behind : List Char}
    (continues : Continues initials after)
    (otherContinues : Continues initials behind)
    (same :
      ("SELECT " ++ selection first ++ " FROM "
            ++ source first).toList ++ after =
        ("SELECT " ++ selection second ++ " FROM "
            ++ source second).toList ++ behind) :
    (first.projection = second.projection ∧
        first.schema = second.schema ∧
        first.table = second.table) ∧
      after = behind := by
  have fromEnds :
      ∀ rest : List Char,
        EndsRun (fun character => isWordCharacter character || character == '*')
          (" FROM ".toList ++ rest) := by
    intro rest
    simp [EndsRun, isWordCharacter]
  simp only [String.toList_append, List.append_assoc] at same
  obtain ⟨sameSelection, sameRest⟩ :=
    append_inj_of_endsRun
      (selection_characters firstPlain) (selection_characters secondPlain)
      (fromEnds _) (fromEnds _) (List.append_cancel_left same)
  obtain ⟨sameSource, sameEnd⟩ :=
    append_inj_of_endsRun
      (source_characters firstPlain) (source_characters secondPlain)
      (endsRun_of_continues rfl continues)
      (endsRun_of_continues rfl otherContinues)
      (List.append_cancel_left sameRest)
  exact
    ⟨⟨selection_inj firstPlain secondPlain
        (String.toList_inj.mp sameSelection),
      source_inj firstPlain secondPlain
        (String.toList_inj.mp sameSource)⟩,
      sameEnd⟩

end QueryAgent.Sql

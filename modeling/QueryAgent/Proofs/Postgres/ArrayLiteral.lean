import QueryAgent.Postgres.Literal

namespace QueryAgent.Postgres

/-!
# Array literals read back

How the server reads the text of a one-dimensional array: elements between
braces with commas between them, spaces around them left out, an element in
quotes or without, a backslash before a character that stands for itself, and
the bare word `NULL` for an absent value.  What is sent for a list reads back
as its items, whatever characters they hold.
-/

/-- An element of an array as the server reads it. -/
inductive ArrayElement where
  | null
  | text (content : List Char)
deriving Repr, DecidableEq

/-- A character that may stand around an element. -/
def isArraySpace
    (character : Char) : Bool :=
  character = ' ' || (9 ≤ character.toNat && character.toNat ≤ 13)

/-- Where in an array literal a reader stands, with what it has read of an element. -/
inductive ArrayPhase where
  | opening
  | first
  | next
  | quoted (read : List Char)
  | quotedEscape (read : List Char)
  | bare (read : List (Char × Bool))
  | bareEscape (read : List (Char × Bool))
  | after
  | closed

/-- The phase that the first character of an element leads to. -/
def elementPhase? : Char → Option ArrayPhase
  | '"' => some (.quoted [])
  | '\\' => some (.bareEscape [])
  | ',' => none
  | '\x7b' => none
  | '\x7d' => none
  | character => some (.bare [(character, false)])

/-- The phase that the character behind an element leads to. -/
def separatorPhase? : Char → Option ArrayPhase
  | ',' => some .next
  | '\x7d' => some .closed
  | _ => none

/--
An element without quotes, its characters marked where a backslash stood before
them: spaces at its end are left out, and the word `null` in any case is the
absent value, but only where nothing in it was escaped.
-/
def bareElement
    (read : List (Char × Bool)) : ArrayElement :=
  let trimmed :=
    (read.reverse.dropWhile fun marked => isArraySpace marked.1 && !marked.2).reverse
  let content := trimmed.map (·.1)
  if trimmed.all (fun marked => !marked.2)
      && content.map Char.toLower = "null".toList then
    .null
  else
    .text content

/-- Reads on from a phase: the elements that end after it, none for a malformed literal. -/
def readArrayFrom : ArrayPhase → List Char → Option (List ArrayElement)
  | .closed, [] =>
      some []
  | _, [] =>
      none
  | .opening, character :: rest =>
      if isArraySpace character then
        readArrayFrom .opening rest
      else if character = '\x7b' then
        readArrayFrom .first rest
      else
        none
  | .first, character :: rest =>
      if isArraySpace character then
        readArrayFrom .first rest
      else if character = '\x7d' then
        readArrayFrom .closed rest
      else
        (elementPhase? character).bind fun phase => readArrayFrom phase rest
  | .next, character :: rest =>
      if isArraySpace character then
        readArrayFrom .next rest
      else
        (elementPhase? character).bind fun phase => readArrayFrom phase rest
  | .quoted read, character :: rest =>
      if character = '"' then
        (readArrayFrom .after rest).map (.text read :: ·)
      else if character = '\\' then
        readArrayFrom (.quotedEscape read) rest
      else
        readArrayFrom (.quoted (read ++ [character])) rest
  | .quotedEscape read, character :: rest =>
      readArrayFrom (.quoted (read ++ [character])) rest
  | .bare read, character :: rest =>
      if character = '\\' then
        readArrayFrom (.bareEscape read) rest
      else if character = '"' || character = '\x7b' then
        none
      else
        match separatorPhase? character with
        | some phase =>
            (readArrayFrom phase rest).map (bareElement read :: ·)
        | none =>
            readArrayFrom (.bare (read ++ [(character, false)])) rest
  | .bareEscape read, character :: rest =>
      readArrayFrom (.bare (read ++ [(character, true)])) rest
  | .after, character :: rest =>
      if isArraySpace character then
        readArrayFrom .after rest
      else
        (separatorPhase? character).bind fun phase => readArrayFrom phase rest
  | .closed, character :: rest =>
      if isArraySpace character then
        readArrayFrom .closed rest
      else
        none

/-- The elements of an array literal, none when it is malformed. -/
def readArray?
    (source : List Char) : Option (List ArrayElement) :=
  readArrayFrom .opening source

/-- An escaped text reads back up to the quote that closes it. -/
theorem readArrayFrom_escaped
    (read content after : List Char) :
    readArrayFrom (.quoted read)
        (content.flatMap escapeElementChar ++ '"' :: after) =
      (readArrayFrom .after after).map (.text (read ++ content) :: ·) := by
  induction content generalizing read with
  | nil =>
      simp [readArrayFrom]
  | cons character rest inductionHypothesis =>
      rw [List.flatMap_cons, List.append_assoc, escapeElementChar]
      split
      next special =>
          simp only [List.cons_append, List.nil_append, readArrayFrom]
          simp [inductionHypothesis]
      next ordinary =>
          have notSpecial : character ≠ '"' ∧ character ≠ '\\' := by
            simpa using ordinary
          simp only [List.cons_append, List.nil_append, readArrayFrom,
            notSpecial.1, notSpecial.2, if_false]
          simp [inductionHypothesis]

/-- A place at which an element may stand. -/
def ArrayPhase.AwaitsElement
    (phase : ArrayPhase) : Prop :=
  phase = .first ∨ phase = .next

/-- What is written for one item of a list. -/
def elementText : Param → List Char
  | .null =>
      "NULL".toList
  | item =>
      quoteElement (paramText item)

/-- What an item of a list reads as: nothing for an absent value, its text for all others. -/
def elementOf : Param → ArrayElement
  | .null =>
      .null
  | item =>
      .text (paramText item)

/-- The elements of a literal are those of its items. -/
theorem elementTexts_eq_map
    (items : List Param) :
    elementTexts items = items.map elementText := by
  induction items with
  | nil =>
      rfl
  | cons item rest inductionHypothesis =>
      cases item <;>
        simp [elementTexts, elementText, inductionHypothesis]

/-- An element in quotes is read up to the separator behind it. -/
theorem readArrayFrom_quoteElement
    {phase following : ArrayPhase}
    (awaits : phase.AwaitsElement)
    {separator : Char}
    (separates : separatorPhase? separator = some following)
    (notSpace : isArraySpace separator = false)
    (content after : List Char) :
    readArrayFrom phase (quoteElement content ++ separator :: after) =
      (readArrayFrom following after).map (.text content :: ·) := by
  have opened :
      readArrayFrom phase (quoteElement content ++ separator :: after) =
        readArrayFrom (.quoted [])
          (content.flatMap escapeElementChar ++ '"' :: separator :: after) := by
    rcases awaits with rfl | rfl <;>
      simp [quoteElement, readArrayFrom, elementPhase?, isArraySpace]
  have behind :
      readArrayFrom .after (separator :: after) = readArrayFrom following after := by
    simp [readArrayFrom, notSpace, separates]
  rw [opened, readArrayFrom_escaped, behind, List.nil_append]

/-- An element without quotes ends at the separator behind it. -/
theorem readArrayFrom_bare_separator
    {following : ArrayPhase}
    {separator : Char}
    (separates : separatorPhase? separator = some following)
    (read : List (Char × Bool))
    (after : List Char) :
    readArrayFrom (.bare read) (separator :: after) =
      (readArrayFrom following after).map (bareElement read :: ·) := by
  have notSpecial : separator ≠ '\\' ∧ separator ≠ '"' ∧ separator ≠ '\x7b' := by
    refine ⟨?_, ?_, ?_⟩ <;>
      · rintro rfl
        cases separates
  simp [readArrayFrom, separates, notSpecial]

/-- The bare word for an absent value is read up to the separator behind it. -/
theorem readArrayFrom_null
    {phase following : ArrayPhase}
    (awaits : phase.AwaitsElement)
    {separator : Char}
    (separates : separatorPhase? separator = some following)
    (after : List Char) :
    readArrayFrom phase ("NULL".toList ++ separator :: after) =
      (readArrayFrom following after).map (.null :: ·) := by
  let word : List (Char × Bool) :=
    [('N', false), ('U', false), ('L', false), ('L', false)]
  have spelled :
      readArrayFrom phase ("NULL".toList ++ separator :: after) =
        readArrayFrom (.bare word) (separator :: after) := by
    rcases awaits with rfl | rfl <;> rfl
  have absent : bareElement word = .null := by
    decide
  rw [spelled, readArrayFrom_bare_separator separates, absent]

/-- Every item is read as its element, up to the separator behind it. -/
theorem readArrayFrom_elementText
    {phase following : ArrayPhase}
    (awaits : phase.AwaitsElement)
    {separator : Char}
    (separates : separatorPhase? separator = some following)
    (notSpace : isArraySpace separator = false)
    (item : Param)
    (after : List Char) :
    readArrayFrom phase (elementText item ++ separator :: after) =
      (readArrayFrom following after).map (elementOf item :: ·) := by
  cases item with
  | null =>
      exact readArrayFrom_null awaits separates after
  | _ =>
      exact readArrayFrom_quoteElement awaits separates notSpace _ after

/-- The items of a list that is not empty are read up to the closing brace. -/
theorem readArrayFrom_items
    {phase : ArrayPhase}
    (awaits : phase.AwaitsElement)
    (item : Param)
    (rest : List Param) :
    readArrayFrom phase
        ([','].intercalate ((item :: rest).map elementText) ++ ['\x7d']) =
      some ((item :: rest).map elementOf) := by
  induction rest generalizing phase item with
  | nil =>
      have closes : separatorPhase? '\x7d' = some .closed := rfl
      rw [List.map_singleton, List.intercalate_singleton,
        readArrayFrom_elementText awaits closes rfl]
      rfl
  | cons next others inductionHypothesis =>
      have separates : separatorPhase? ',' = some .next := rfl
      rw [List.map_cons, List.map_cons, List.intercalate_cons_cons,
        List.append_assoc, List.append_assoc, List.singleton_append,
        readArrayFrom_elementText awaits separates rfl,
        ← List.map_cons, inductionHypothesis (.inr rfl)]
      rfl

/-- The text of a list reads back as the elements of its items. -/
theorem readArray?_paramText
    (items : List Param) :
    readArray? (paramText (.list items)) = some (items.map elementOf) := by
  have opened :
      readArray? (paramText (.list items)) =
        readArrayFrom .first
          ([','].intercalate (items.map elementText) ++ ['\x7d']) := by
    rw [paramText, elementTexts_eq_map, readArray?, readArrayFrom]
    rfl
  rw [opened]
  cases items with
  | nil =>
      rfl
  | cons item rest =>
      exact readArrayFrom_items (.inl rfl) item rest

/--
What is sent for a list reads back as one element for each item, in their order:
an absent item, and only such an item, reads as null, and every other item reads
as its text.
-/
theorem sent_list_reads_back
    (items : List Param) :
    ∃ sent elements,
      sentText? (.list items) = some sent ∧
        readArray? sent.toList = some elements ∧
        elements.length = items.length ∧
        elements = items.map elementOf ∧
        ∀ item : Param,
          (elementOf item = .null ↔ item = .null) ∧
            (item = .null ∨ elementOf item = .text (paramText item)) := by
  refine
    ⟨String.ofList (paramText (.list items)), items.map elementOf, rfl, ?_,
      List.length_map _, rfl, ?_⟩
  · rw [String.toList_ofList]
    exact readArray?_paramText items
  · intro item
    cases item <;> simp [elementOf]

/-- The word for an absent value is told from the absent value. -/
example :
    readArray? (paramText (.list [.text "NULL", .null, .list [.text "a,\"\\"]])) =
      some
        [.text "NULL".toList, .null,
          .text (paramText (.list [.text "a,\"\\"]))] := by
  decide

end QueryAgent.Postgres

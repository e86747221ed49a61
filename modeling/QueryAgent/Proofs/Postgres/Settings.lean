import QueryAgent.Postgres.ConnectionString
import QueryAgent.Proofs.Text.Decimal

namespace QueryAgent.Postgres.ConnectionString

/-!
# Settings of the form `key=value`

How settings are written one behind the other, and that they are read as they
are written.  What is written behind settings is read behind them, provided a
blank stands before it: a value without quotes goes on up to a blank.
-/

/-- A value without quotes; a backslash stands before what would end it. -/
inductive BareText : List Char → List Char → Prop where
  | nil :
      BareText [] []
  | escaped
      {text value : List Char}
      (character : Char)
      (rest : BareText text value) :
      BareText ('\\' :: character :: text) (character :: value)
  | plain
      {text value : List Char}
      {character : Char}
      (notBlank : Text.isBlank character = false)
      (notEscape : character ≠ '\\')
      (rest : BareText text value) :
      BareText (character :: text) (character :: value)

/-- A value between quotes; a backslash stands before what would end it. -/
inductive QuotedText : List Char → List Char → Prop where
  | nil :
      QuotedText [] []
  | escaped
      {text value : List Char}
      (character : Char)
      (rest : QuotedText text value) :
      QuotedText ('\\' :: character :: text) (character :: value)
  | plain
      {text value : List Char}
      {character : Char}
      (notQuote : character ≠ '\'')
      (notEscape : character ≠ '\\')
      (rest : QuotedText text value) :
      QuotedText (character :: text) (character :: value)

/-- The text is empty or goes on with a blank. -/
def StartsBlank
    (text : List Char) : Prop :=
  ∀ character ∈ text.head?, Text.isBlank character = true

theorem StartsBlank.nil :
    StartsBlank [] := by
  simp [StartsBlank]

theorem StartsBlank.cons
    {character : Char}
    (blank : Text.isBlank character = true)
    (rest : List Char) :
    StartsBlank (character :: rest) := by
  simpa [StartsBlank] using blank

/-- A value as it stands in front of some text. -/
inductive ValueText (after : List Char) : List Char → List Char → Prop where
  | bare
      {text value : List Char}
      (written : BareText text value)
      (nonempty : value ≠ [])
      (unquoted : text.head? ≠ some '\'')
      (ends : StartsBlank after) :
      ValueText after text value
  | quoted
      {text value : List Char}
      (written : QuotedText text value) :
      ValueText after ('\'' :: (text ++ ['\''])) value

/-- Settings one behind the other, each with its key and its value. -/
inductive SettingsText : List Char → List (String × String) → Prop where
  | done
      {blanks : List Char}
      (blank : ∀ character ∈ blanks, Text.isBlank character = true) :
      SettingsText blanks []
  | setting
      {before key gap space text value rest : List Char}
      {others : List (String × String)}
      (beforeBlank : ∀ character ∈ before, Text.isBlank character = true)
      (keyed : ∀ character ∈ key, isKeyChar character = true)
      (nonempty : key ≠ [])
      (gapBlank : ∀ character ∈ gap, Text.isBlank character = true)
      (spaceBlank : ∀ character ∈ space, Text.isBlank character = true)
      (written : ValueText rest text value)
      (further : SettingsText rest others) :
      SettingsText
        (before ++ (key ++ (gap ++ '=' :: (space ++ (text ++ rest)))))
        ((String.ofList key, String.ofList value) :: others)

/-! ## Values -/

theorem readBare_escaped
    (character : Char)
    (rest : List Char) :
    readBare ('\\' :: character :: rest) =
      (character :: (readBare rest).1, (readBare rest).2) :=
  rfl

theorem readQuoted?_escaped
    (character : Char)
    (rest : List Char) :
    readQuoted? ('\\' :: character :: rest) =
      (readQuoted? rest).map fun parts => (character :: parts.1, parts.2) :=
  rfl

/-- A character that is no backslash is read for itself, unless it is a blank. -/
theorem readBare_plain
    {character : Char}
    (notEscape : character ≠ '\\')
    (rest : List Char) :
    readBare (character :: rest) =
      if Text.isBlank character then ([], character :: rest)
      else (character :: (readBare rest).1, (readBare rest).2) := by
  conv =>
    lhs
    unfold readBare
  split <;> simp_all

theorem readQuoted?_plain
    {character : Char}
    (notQuote : character ≠ '\'')
    (notEscape : character ≠ '\\')
    (rest : List Char) :
    readQuoted? (character :: rest) =
      (readQuoted? rest).map fun parts => (character :: parts.1, parts.2) := by
  conv =>
    lhs
    unfold readQuoted?
  split <;> simp_all

/-- A value without quotes is read up to the blank behind it. -/
theorem readBare_append
    {text value after : List Char}
    (written : BareText text value)
    (ends : StartsBlank after) :
    readBare (text ++ after) = (value, after) := by
  induction written with
  | nil =>
      cases after with
      | nil =>
          rfl
      | cons character rest =>
          have blank : Text.isBlank character = true :=
            ends character (by simp)
          have notEscape : character ≠ '\\' := by
            rintro rfl
            cases blank
          rw [List.nil_append, readBare_plain notEscape, if_pos blank]
  | escaped character rest inductionHypothesis =>
      rw [List.cons_append, List.cons_append, readBare_escaped, inductionHypothesis]
  | plain notBlank notEscape rest inductionHypothesis =>
      rw [List.cons_append, readBare_plain notEscape, notBlank, inductionHypothesis]
      rfl

/-- A value in quotes is read up to the quote that closes it. -/
theorem readQuoted?_append
    {text value : List Char}
    (written : QuotedText text value)
    (after : List Char) :
    readQuoted? (text ++ '\'' :: after) = some (value, after) := by
  induction written with
  | nil =>
      rfl
  | escaped character rest inductionHypothesis =>
      rw [List.cons_append, List.cons_append, readQuoted?_escaped, inductionHypothesis]
      rfl
  | plain notQuote notEscape rest inductionHypothesis =>
      rw [List.cons_append, readQuoted?_plain notQuote notEscape, inductionHypothesis]
      rfl

/-- A value without quotes opens with no blank. -/
theorem BareText.opens
    {text value : List Char}
    (written : BareText text value)
    (nonempty : value ≠ []) :
    ∃ first rest, text = first :: rest ∧ Text.isBlank first = false := by
  cases written with
  | nil =>
      exact absurd rfl nonempty
  | escaped character rest =>
      exact ⟨'\\', _, rfl, by decide⟩
  | plain notBlank notEscape rest =>
      exact ⟨_, _, rfl, notBlank⟩

/-- A value opens with no blank. -/
theorem ValueText.opens
    {text value after : List Char}
    (written : ValueText after text value) :
    Text.EndsRun Text.isBlank (text ++ after) := by
  cases written with
  | bare written nonempty =>
      obtain ⟨first, rest, rfl, notBlank⟩ := written.opens nonempty
      simpa [Text.EndsRun] using notBlank
  | quoted written =>
      simp only [Text.EndsRun, List.cons_append, List.head?_cons, Option.mem_some_iff,
        forall_eq']
      decide

/-- A value is read in front of what follows it. -/
theorem readValue?_append
    {text value after : List Char}
    (written : ValueText after text value) :
    readValue? (text ++ after) = some (value, after) := by
  cases written with
  | bare written nonempty unquoted ends =>
      have reads := readBare_append written ends
      unfold readValue?
      split
      next rest same =>
          obtain ⟨first, others, rfl, _⟩ := written.opens nonempty
          cases same
          exact absurd rfl unquoted
      next =>
          rw [reads]
          simp [nonempty]
  | quoted written =>
      simp [readValue?, readQuoted?_append written]

/-! ## Settings -/

/-- Blanks in front of what is no blank are passed over. -/
theorem trimStartList_append
    {blanks after : List Char}
    (blank : ∀ character ∈ blanks, Text.isBlank character = true)
    (opens : Text.EndsRun Text.isBlank after) :
    Text.trimStartList (blanks ++ after) = after :=
  Text.dropWhile_append_of_endsRun blank opens

theorem isBlank_of_isKeyChar
    {character : Char}
    (keyed : isKeyChar character = true) :
    Text.isBlank character = false := by
  simp only [isKeyChar, Bool.and_eq_true, Bool.not_eq_true'] at keyed
  exact keyed.1

/-- A setting is read in front of what is read behind it. -/
theorem readPairs?_setting
    {before key gap space text value rest : List Char}
    (beforeBlank : ∀ character ∈ before, Text.isBlank character = true)
    (keyed : ∀ character ∈ key, isKeyChar character = true)
    (nonempty : key ≠ [])
    (gapBlank : ∀ character ∈ gap, Text.isBlank character = true)
    (spaceBlank : ∀ character ∈ space, Text.isBlank character = true)
    (written : ValueText rest text value)
    (more : Nat) :
    readPairs? (more + 1) (before ++ (key ++ (gap ++ '=' :: (space ++ (text ++ rest))))) =
      (readPairs? more rest).map
        (fun others => (String.ofList key, String.ofList value) :: others) := by
  have keyEnds : Text.EndsRun isKeyChar (gap ++ '=' :: (space ++ (text ++ rest))) := by
    cases gap with
    | nil =>
        simp [Text.EndsRun, isKeyChar]
    | cons character others =>
        have blank := gapBlank character (by simp)
        simp [Text.EndsRun, isKeyChar, blank]
  have keyOpens :
      Text.EndsRun Text.isBlank (key ++ (gap ++ '=' :: (space ++ (text ++ rest)))) := by
    cases key with
    | nil =>
        exact absurd rfl nonempty
    | cons character others =>
        have notBlank := isBlank_of_isKeyChar (keyed character (by simp))
        simpa [Text.EndsRun] using notBlank
  have signOpens : Text.EndsRun Text.isBlank ('=' :: (space ++ (text ++ rest))) := by
    simp only [Text.EndsRun, List.head?_cons, Option.mem_some_iff, forall_eq']
    decide
  have sign :
      afterEquals? (gap ++ '=' :: (space ++ (text ++ rest))) = some (text ++ rest) := by
    rw [afterEquals?, trimStartList_append gapBlank signOpens]
    simp only [trimStartList_append spaceBlank written.opens]
  rw [readPairs?]
  simp only [trimStartList_append beforeBlank keyOpens,
    Text.takeWhile_append_of_endsRun keyed keyEnds,
    Text.dropWhile_append_of_endsRun keyed keyEnds, List.isEmpty_iff, nonempty, if_false, sign,
    readValue?_append written, Option.bind_eq_bind, Option.bind_some]
  cases readPairs? more rest <;>
    rfl

/-- Settings are read as they are written, with a step for each character at most. -/
theorem readPairs?_of_settingsText
    {text : List Char}
    {pairs : List (String × String)}
    (written : SettingsText text pairs)
    {more : Nat}
    (enough : text.length < more) :
    readPairs? more text = some pairs := by
  induction written generalizing more with
  | done blank =>
      obtain ⟨more, rfl⟩ : ∃ less, more = less + 1 :=
        ⟨more - 1, by omega⟩
      have ends : Text.EndsRun Text.isBlank [] := by
        simp [Text.EndsRun]
      have nothing := trimStartList_append blank ends
      rw [List.append_nil] at nothing
      rw [readPairs?]
      simp [nothing]
  | setting beforeBlank keyed nonempty gapBlank spaceBlank written further
      inductionHypothesis =>
      obtain ⟨more, rfl⟩ : ∃ less, more = less + 1 :=
        ⟨more - 1, by omega⟩
      simp only [List.length_append, List.length_cons] at enough
      rw [readPairs?_setting beforeBlank keyed nonempty gapBlank spaceBlank written,
        inductionHypothesis (by omega)]
      rfl

theorem StartsBlank.append
    {text behind : List Char}
    (starts : StartsBlank text)
    (behindStarts : StartsBlank behind) :
    StartsBlank (text ++ behind) := by
  cases text with
  | nil =>
      exact behindStarts
  | cons character rest =>
      exact starts

theorem ValueText.append
    {text value after behind : List Char}
    (written : ValueText after text value)
    (starts : StartsBlank behind) :
    ValueText (after ++ behind) text value := by
  cases written with
  | bare written nonempty unquoted ends =>
      exact .bare written nonempty unquoted (ends.append starts)
  | quoted written =>
      exact .quoted written

theorem SettingsText.blanks_append
    {blanks text : List Char}
    {pairs : List (String × String)}
    (blank : ∀ character ∈ blanks, Text.isBlank character = true)
    (written : SettingsText text pairs) :
    SettingsText (blanks ++ text) pairs := by
  have together :
      ∀ {others : List Char}, (∀ character ∈ others, Text.isBlank character = true) →
        ∀ character ∈ blanks ++ others, Text.isBlank character = true := by
    intro others othersBlank character member
    rcases List.mem_append.mp member with inFirst | inSecond
    · exact blank character inFirst
    · exact othersBlank character inSecond
  cases written with
  | done othersBlank =>
      exact .done (together othersBlank)
  | setting beforeBlank keyed nonempty gapBlank spaceBlank written further =>
      rw [← List.append_assoc]
      exact .setting (together beforeBlank) keyed nonempty gapBlank spaceBlank written further

/-- Settings behind a blank go on where settings end. -/
theorem SettingsText.append
    {text behind : List Char}
    {pairs others : List (String × String)}
    (written : SettingsText text pairs)
    (starts : StartsBlank behind)
    (writtenBehind : SettingsText behind others) :
    SettingsText (text ++ behind) (pairs ++ others) := by
  induction written with
  | done blank =>
      exact writtenBehind.blanks_append blank
  | setting beforeBlank keyed nonempty gapBlank spaceBlank written further
      inductionHypothesis =>
      have extended :=
        SettingsText.setting beforeBlank keyed nonempty gapBlank spaceBlank
          (written.append starts) inductionHypothesis
      simpa only [List.append_assoc, List.cons_append] using extended

/-- Settings are made one behind the other. -/
theorem setAll?_append
    (settings : ConnectionString)
    (pairs others : List (String × String)) :
    settings.setAll? (pairs ++ others) =
      (settings.setAll? pairs).bind fun settings => settings.setAll? others := by
  induction pairs generalizing settings with
  | nil =>
      rfl
  | cons pair rest inductionHypothesis =>
      obtain ⟨key, value⟩ := pair
      rw [List.cons_append, setAll?, setAll?]
      cases settings.set? key value with
      | none =>
          rfl
      | some next =>
          exact inductionHypothesis next

/-- Settings as they are written make the settings that they name. -/
theorem ofPairs?_of_settingsText
    {text : List Char}
    {pairs : List (String × String)}
    (written : SettingsText text pairs) :
    ofPairs? text = standard.setAll? pairs := by
  rw [ofPairs?, readPairs?_of_settingsText written (Nat.lt_succ_self _)]
  rfl

end QueryAgent.Postgres.ConnectionString

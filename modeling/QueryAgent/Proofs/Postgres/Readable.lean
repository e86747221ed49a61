import QueryAgent.Proofs.Postgres.Queries
import QueryAgent.Proofs.Postgres.Settings
import QueryAgent.Proofs.Text.Trimming

namespace QueryAgent.Postgres.ConnectionString

/-!
# What is readable was written

The forms in which settings are written are all that the driver reads, up to a
few texts that break off: settings that end in a backslash or at a sign without
a key, of which the driver passes over the rest, and a query that is empty or
ends in a separator.
-/

/-! ## Values -/

/-- What is read for a value without quotes was written as one, unless the text breaks off. -/
theorem bareText_of_readBare :
    ∀ characters : List Char,
      characters.getLast? = some '\\' ∨
        ∃ text,
          characters = text ++ (readBare characters).2 ∧
            BareText text (readBare characters).1 ∧
            StartsBlank (readBare characters).2
  | [] =>
      .inr ⟨[], rfl, .nil, .nil⟩
  | character :: rest => by
      by_cases escape : character = '\\'
      · subst escape
        cases rest with
        | nil =>
            exact .inl rfl
        | cons next rest =>
            rw [readBare_escaped]
            rcases bareText_of_readBare rest with breaks | ⟨text, shape, written, starts⟩
            · refine .inl ?_
              rw [List.getLast?_cons, List.getLast?_cons, breaks]
              rfl
            · refine .inr ⟨'\\' :: next :: text, ?_, .escaped next written, starts⟩
              rw [List.cons_append, List.cons_append, ← shape]
      · rw [readBare_plain escape]
        cases blank : Text.isBlank character with
        | true =>
            exact .inr ⟨[], rfl, .nil, .cons blank rest⟩
        | false =>
            rcases bareText_of_readBare rest with breaks | ⟨text, shape, written, starts⟩
            · refine .inl ?_
              rw [List.getLast?_cons, breaks]
              rfl
            · refine .inr ⟨character :: text, ?_, .plain blank escape written, starts⟩
              rw [List.cons_append]
              exact congrArg (character :: ·) shape
termination_by characters => characters.length

/-- What is read for a value in quotes was written as one. -/
theorem quotedText_of_readQuoted? :
    ∀ {characters value after : List Char},
      readQuoted? characters = some (value, after) →
        ∃ text, characters = text ++ '\'' :: after ∧ QuotedText text value
  | [], _, _, reads => by
      cases reads
  | character :: rest, value, after, reads => by
      by_cases quote : character = '\''
      · subst quote
        cases reads
        exact ⟨[], rfl, .nil⟩
      · by_cases escape : character = '\\'
        · subst escape
          cases rest with
          | nil =>
              cases reads
          | cons next rest =>
              rw [readQuoted?_escaped, Option.map_eq_some_iff] at reads
              obtain ⟨⟨part, behind⟩, readsRest, same⟩ := reads
              cases same
              obtain ⟨text, rfl, written⟩ := quotedText_of_readQuoted? readsRest
              exact ⟨'\\' :: next :: text, rfl, .escaped next written⟩
        · rw [readQuoted?_plain quote escape, Option.map_eq_some_iff] at reads
          obtain ⟨⟨part, behind⟩, readsRest, same⟩ := reads
          cases same
          obtain ⟨text, rfl, written⟩ := quotedText_of_readQuoted? readsRest
          exact ⟨character :: text, rfl, .plain quote escape written⟩
termination_by characters => characters.length

/-- What is read for a value was written as one, unless the text breaks off. -/
theorem valueText_of_readValue?
    {characters value after : List Char}
    (reads : readValue? characters = some (value, after)) :
    characters.getLast? = some '\\' ∨
      ∃ text, characters = text ++ after ∧ ValueText after text value := by
  unfold readValue? at reads
  split at reads
  next rest =>
      obtain ⟨text, rfl, written⟩ := quotedText_of_readQuoted? reads
      exact .inr ⟨'\'' :: (text ++ ['\'']), by simp, .quoted written⟩
  next unquoted =>
      refine (bareText_of_readBare characters).imp_right ?_
      rintro ⟨text, shape, written, starts⟩
      simp only at reads
      split at reads
      · cases reads
      next nonempty =>
          cases reads
          have notEmpty : (readBare characters).1 ≠ [] := by
            simpa using nonempty
          refine ⟨text, shape, .bare written notEmpty ?_ starts⟩
          obtain ⟨first, rest, rfl, _⟩ := written.opens notEmpty
          rintro quote
          rw [List.head?_cons, Option.some_inj] at quote
          subst quote
          exact unquoted _ shape

/-- A blank that ends a value without quotes stands behind a backslash. -/
theorem BareText.escapes_blank
    {text value front : List Char}
    (written : BareText text value)
    {last : Char}
    (blank : Text.isBlank last = true)
    (shape : text = front ++ [last]) :
    ∃ further, front = further ++ ['\\'] := by
  induction written generalizing front with
  | nil =>
      simp at shape
  | escaped character rest inductionHypothesis =>
      match front, shape with
      | [], shape =>
          simp at shape
      | [first], shape =>
          cases shape
          exact ⟨[], rfl⟩
      | first :: second :: front, shape =>
          simp only [List.cons_append, List.cons.injEq] at shape
          obtain ⟨rfl, rfl, same⟩ := shape
          obtain ⟨further, rfl⟩ := inductionHypothesis same
          exact ⟨'\\' :: character :: further, rfl⟩
  | @plain text value character notBlank notEscape rest inductionHypothesis =>
      cases front with
      | nil =>
          cases shape
          rw [blank] at notBlank
          cases notBlank
      | cons first front =>
          simp only [List.cons_append, List.cons.injEq] at shape
          obtain ⟨rfl, same⟩ := shape
          obtain ⟨further, rfl⟩ := inductionHypothesis same
          exact ⟨character :: further, rfl⟩

theorem ValueText.escapes_blank
    {text value after front : List Char}
    (written : ValueText after text value)
    {last : Char}
    (blank : Text.isBlank last = true)
    (shape : text = front ++ [last]) :
    ∃ further, front = further ++ ['\\'] := by
  cases written with
  | bare written =>
      exact written.escapes_blank blank shape
  | @quoted text value written =>
      rw [← List.cons_append] at shape
      obtain ⟨_, same⟩ := List.append_inj' shape rfl
      cases same
      cases blank

theorem ValueText.ne_nil
    {text value after : List Char}
    (written : ValueText after text value) :
    text ≠ [] := by
  cases written with
  | bare written nonempty =>
      obtain ⟨first, rest, rfl, _⟩ := written.opens nonempty
      simp
  | quoted written =>
      simp

/-! ## Settings -/

/-- Settings that break off: behind a backslash, or at a sign that no key stands before. -/
inductive BreaksOff : List Char → Prop where
  | escape
      {text : List Char}
      (last : text.getLast? = some '\\') :
      BreaksOff text
  | keyless
      {front rest : List Char}
      {pairs : List (String × String)}
      (written : SettingsText front pairs) :
      BreaksOff (front ++ '=' :: rest)

theorem StartsBlank.of_append
    {text behind : List Char}
    (starts : StartsBlank (text ++ behind)) :
    StartsBlank text := by
  cases text with
  | nil =>
      exact .nil
  | cons character rest =>
      exact starts

theorem ValueText.of_append
    {text value after behind : List Char}
    (written : ValueText (after ++ behind) text value) :
    ValueText after text value := by
  cases written with
  | bare written nonempty unquoted ends =>
      exact .bare written nonempty unquoted ends.of_append
  | quoted written =>
      exact .quoted written

section
variable {before key gap space text value rest : List Char}
  (beforeBlank : ∀ character ∈ before, Text.isBlank character = true)
  (keyed : ∀ character ∈ key, isKeyChar character = true)
  (nonempty : key ≠ [])
  (gapBlank : ∀ character ∈ gap, Text.isBlank character = true)
  (spaceBlank : ∀ character ∈ space, Text.isBlank character = true)
  (written : ValueText rest text value)
include beforeBlank keyed nonempty gapBlank spaceBlank written

/-- Settings that break off also do so behind another setting. -/
theorem BreaksOff.behind
    (breaks : BreaksOff rest) :
    BreaksOff (before ++ (key ++ (gap ++ '=' :: (space ++ (text ++ rest))))) := by
  cases breaks with
  | escape last =>
      refine .escape ?_
      simp [List.getLast?_append, List.getLast?_cons, last]
  | keyless writtenRest =>
      have whole :=
        SettingsText.setting beforeBlank keyed nonempty gapBlank spaceBlank written.of_append
          writtenRest
      simpa only [List.append_assoc, List.cons_append] using BreaksOff.keyless whole

end

theorem eq_append_of_afterEquals?
    {characters opened : List Char}
    (after : afterEquals? characters = some opened) :
    ∃ gap space,
      characters = gap ++ '=' :: (space ++ opened) ∧
        (∀ character ∈ gap, Text.isBlank character = true) ∧
        ∀ character ∈ space, Text.isBlank character = true := by
  unfold afterEquals? at after
  split at after
  next rest signed =>
      cases after
      obtain ⟨gap, shape, gapBlank⟩ := Text.eq_append_trimStartList characters
      obtain ⟨space, restShape, spaceBlank⟩ := Text.eq_append_trimStartList rest
      rw [signed] at shape
      exact ⟨gap, space, by rw [← restShape]; exact shape, gapBlank, spaceBlank⟩
  · cases after

/-- Without a key in front, only blanks are left or a sign. -/
theorem blank_or_sign_of_no_key
    {characters : List Char}
    (noKey : (Text.trimStartList characters).takeWhile isKeyChar = []) :
    (∀ character ∈ characters, Text.isBlank character = true) ∨
      ∃ blanks rest,
        characters = blanks ++ '=' :: rest ∧
          ∀ character ∈ blanks, Text.isBlank character = true := by
  obtain ⟨blanks, shape, blank⟩ := Text.eq_append_trimStartList characters
  cases started : Text.trimStartList characters with
  | nil =>
      rw [started, List.append_nil] at shape
      exact .inl (shape ▸ blank)
  | cons character rest =>
      have notBlank : Text.isBlank character = false := by
        have stops := List.head?_dropWhile_not Text.isBlank characters
        rw [← Text.trimStartList, started] at stops
        simpa using stops
      have notKey : isKeyChar character = false := by
        rw [started, List.takeWhile_cons] at noKey
        split at noKey
        · cases noKey
        next other =>
            exact Bool.eq_false_iff.mpr other
      have sign : character = '=' := by
        simpa [isKeyChar, notBlank] using notKey
      subst sign
      rw [started] at shape
      exact .inr ⟨blanks, rest, shape, blank⟩

/-- The front of a text in two parts ends within the first part, or within the second. -/
theorem append_cuts
    {first second front rest : List α}
    (same : first ++ second = front ++ rest) :
    (∃ further, first = front ++ further ∧ rest = further ++ second) ∨
      ∃ beyond, beyond ≠ [] ∧ front = first ++ beyond ∧ second = beyond ++ rest := by
  rcases List.append_eq_append_iff.mp same with ⟨beyond, frontIs, secondIs⟩ | within
  · cases beyond with
    | nil =>
        refine .inl ⟨[], ?_, ?_⟩
        · simpa using frontIs.symm
        · simpa using secondIs.symm
    | cons character others =>
        exact .inr ⟨_, List.cons_ne_nil _ _, frontIs, secondIs⟩
  · exact .inl within

section
variable {text blanks : List Char}
  (blank : ∀ character ∈ blanks, Text.isBlank character = true)
include blank

/-- What ends a text in front of blanks, unless it is a blank itself, ends the text. -/
theorem getLast?_of_append_blanks
    {last : Char}
    (notBlank : Text.isBlank last = false)
    (ends : (text ++ blanks).getLast? = some last) :
    text.getLast? = some last := by
  rw [List.getLast?_append] at ends
  cases lastBlank : blanks.getLast? with
  | none =>
      rwa [lastBlank, Option.none_or] at ends
  | some other =>
      rw [lastBlank, Option.some_or] at ends
      cases ends
      rw [blank last (List.mem_of_getLast? lastBlank)] at notBlank
      cases notBlank

/-- Behind a text in front of blanks, a character that is none stands in the text. -/
theorem eq_append_cons_of_append_blanks
    {front rest : List Char}
    {character : Char}
    (notBlank : Text.isBlank character = false)
    (same : text ++ blanks = front ++ character :: rest) :
    ∃ further, text = front ++ character :: further := by
  have notInBlanks : character ∉ blanks := by
    intro member
    rw [blank character member] at notBlank
    cases notBlank
  rcases List.append_eq_append_iff.mp same with ⟨middle, _, blanksAre⟩ | ⟨further, textIs, restIs⟩
  · exact absurd (by simp [blanksAre]) notInBlanks
  · cases further with
    | nil =>
        rw [List.nil_append] at restIs
        exact absurd (by simp [← restIs]) notInBlanks
    | cons first further =>
        cases restIs
        exact ⟨further, textIs⟩

/-- A value that takes in blanks behind the text does so behind a backslash. -/
theorem ValueText.getLast?_of_takes_blanks
    {front written value after : List Char}
    (valueText : ValueText after written value)
    (someBlank : blanks ≠ [])
    (takes : front ++ written = text ++ blanks) :
    text.getLast? = some '\\' := by
  obtain ⟨earlier, last, rfl⟩ : ∃ earlier last, written = earlier ++ [last] :=
    ⟨_, _, (List.dropLast_concat_getLast valueText.ne_nil).symm⟩
  obtain ⟨others, lastBlank, rfl⟩ : ∃ others last, blanks = others ++ [last] :=
    ⟨_, _, (List.dropLast_concat_getLast someBlank).symm⟩
  rw [← List.append_assoc, ← List.append_assoc] at takes
  obtain ⟨same, sameLast⟩ := List.append_inj' takes rfl
  cases sameLast
  obtain ⟨further, rfl⟩ := valueText.escapes_blank (blank last (by simp)) rfl
  have othersBlank : ∀ character ∈ others, Text.isBlank character = true :=
    fun character member => blank character (by simp [member])
  refine getLast?_of_append_blanks othersBlank (by decide) ?_
  rw [← same]
  simp

end

/-- What a step of reading does: it ends, breaks off, or reads a setting in front of others. -/
inductive StepRead (more : Nat) : List Char → List (String × String) → Prop where
  | ended
      {characters : List Char}
      (blank : ∀ character ∈ characters, Text.isBlank character = true) :
      StepRead more characters []
  | keyless
      {blanks rest : List Char}
      (blank : ∀ character ∈ blanks, Text.isBlank character = true) :
      StepRead more (blanks ++ '=' :: rest) []
  | escape
      {characters : List Char}
      {pairs : List (String × String)}
      (last : characters.getLast? = some '\\') :
      StepRead more characters pairs
  | setting
      {before key gap space text value rest : List Char}
      {others : List (String × String)}
      (beforeBlank : ∀ character ∈ before, Text.isBlank character = true)
      (keyed : ∀ character ∈ key, isKeyChar character = true)
      (nonempty : key ≠ [])
      (gapBlank : ∀ character ∈ gap, Text.isBlank character = true)
      (spaceBlank : ∀ character ∈ space, Text.isBlank character = true)
      (written : ValueText rest text value)
      (readsOthers : readPairs? more rest = some others) :
      StepRead more
        (before ++ (key ++ (gap ++ '=' :: (space ++ (text ++ rest)))))
        ((String.ofList key, String.ofList value) :: others)

theorem stepRead_of_readPairs?
    {more : Nat}
    {characters : List Char}
    {pairs : List (String × String)}
    (reads : readPairs? (more + 1) characters = some pairs) :
    StepRead more characters pairs := by
  rw [readPairs?] at reads
  simp only at reads
  split at reads
  next noKey =>
      cases reads
      rcases blank_or_sign_of_no_key (List.isEmpty_iff.mp noKey) with
        allBlank | ⟨before, rest, rfl, beforeBlank⟩
      · exact .ended allBlank
      · exact .keyless beforeBlank
  next someKey =>
      simp only [Option.bind_eq_bind, Option.bind_eq_some_iff] at reads
      obtain ⟨opened, equals, ⟨value, rest⟩, readsValue, others, readsOthers, same⟩ := reads
      cases same
      obtain ⟨before, shape, beforeBlank⟩ := Text.eq_append_trimStartList characters
      obtain ⟨gap, space, signed, gapBlank, spaceBlank⟩ := eq_append_of_afterEquals? equals
      rw [← List.takeWhile_append_dropWhile (p := isKeyChar)
        (l := Text.trimStartList characters), signed] at shape
      rcases valueText_of_readValue? readsValue with last | ⟨written, rfl, valueText⟩
      · refine .escape ?_
        rw [shape]
        simp [List.getLast?_append, List.getLast?_cons, last]
      · conv =>
          arg 2
          rw [shape]
        exact
          .setting beforeBlank (List.all_eq_true.mp List.all_takeWhile) (by simpa using someKey)
            gapBlank spaceBlank valueText readsOthers

/--
What is read for settings was written as settings, unless the text breaks off;
blanks behind the text make no difference.
-/
theorem settingsText_of_readPairs?
    {text blanks : List Char}
    (blank : ∀ character ∈ blanks, Text.isBlank character = true)
    {more : Nat}
    {pairs : List (String × String)}
    (reads : readPairs? more (text ++ blanks) = some pairs)
    (enough : text.length < more) :
    SettingsText text pairs ∨ BreaksOff text := by
  induction more generalizing text pairs with
  | zero =>
      cases enough
  | succ more inductionHypothesis =>
      have step := stepRead_of_readPairs? reads
      generalize whole : text ++ blanks = characters at step
      cases step with
      | ended allBlank =>
          subst whole
          exact .inl (.done fun character member => allBlank character (by simp [member]))
      | keyless beforeBlank =>
          obtain ⟨further, rfl⟩ := eq_append_cons_of_append_blanks blank (by decide) whole
          exact .inr (.keyless (.done beforeBlank))
      | escape last =>
          subst whole
          exact .inr (.escape (getLast?_of_append_blanks blank (by decide) last))
      | @setting before key gap space written value rest others beforeBlank keyed nonempty gapBlank
          spaceBlank valueText readsOthers =>
          have cut :
              text ++ blanks =
                (before ++ (key ++ (gap ++ '=' :: space))) ++ written ++ rest := by
            rw [whole]
            simp
          rcases append_cuts cut with ⟨further, rfl, rfl⟩ | ⟨beyond, someBlank, takes, rfl⟩
          · have shape :
                (before ++ (key ++ (gap ++ '=' :: space))) ++ written ++ further =
                  before ++ (key ++ (gap ++ '=' :: (space ++ (written ++ further)))) := by
              simp
            rw [shape] at enough ⊢
            simp only [List.length_append, List.length_cons] at enough
            rcases inductionHypothesis readsOthers (by omega) with settings | breaks
            · exact .inl
                (.setting beforeBlank keyed nonempty gapBlank spaceBlank valueText.of_append
                  settings)
            · exact .inr
                (breaks.behind beforeBlank keyed nonempty gapBlank spaceBlank
                  valueText.of_append)
          · have beyondBlank : ∀ character ∈ beyond, Text.isBlank character = true :=
              fun character member => blank character (by simp [member])
            exact .inr (.escape (valueText.getLast?_of_takes_blanks beyondBlank someBlank takes))

/-! ## Queries -/

/-- A setting in percent form is made only under a key that can be decoded. -/
theorem decoded?_of_setEncoded?
    {settings made : ConnectionString}
    {key value : List Char}
    (makes : settings.setEncoded? key value = some made) :
    ∃ name, decoded? key = some name := by
  rw [setEncoded?, Option.bind_eq_bind, Option.bind_eq_some_iff] at makes
  obtain ⟨name, named, _⟩ := makes
  exact ⟨name, named⟩

/-- A query that waits for another setting. -/
def AwaitsSetting
    (query : List Char) : Prop :=
  query = [] ∨ query.getLast? = some '&'

/-- What is read for a query was written as one, unless it waits for another setting. -/
theorem queryText_of_setQuery?
    {settings made : ConnectionString}
    {more : Nat}
    {query : List Char}
    (makes : settings.setQuery? more query = some made)
    (enough : query.length < more) :
    (∃ names, QueryText query names) ∨ AwaitsSetting query := by
  induction more generalizing settings query with
  | zero =>
      cases enough
  | succ more inductionHypothesis =>
      rw [setQuery?] at makes
      split at makes
      next nothing =>
          exact .inr (.inl (List.isEmpty_iff.mp nothing))
      next =>
          rw [Option.bind_eq_bind, Option.bind_eq_some_iff] at makes
          obtain ⟨⟨key, rest⟩, signed, makes⟩ := makes
          obtain ⟨rfl, noSign⟩ := Text.eq_append_of_splitFirst? signed
          simp only at makes
          split at makes
          next value rest separated =>
              obtain ⟨rfl, noSeparator⟩ := Text.eq_append_of_splitFirst? separated
              rw [Option.bind_eq_bind, Option.bind_eq_some_iff] at makes
              obtain ⟨next, makesFirst, makesRest⟩ := makes
              obtain ⟨name, named⟩ := decoded?_of_setEncoded? makesFirst
              simp only [List.length_append, List.length_cons] at enough
              rcases inductionHypothesis makesRest (by omega) with ⟨names, written⟩ | rfl | last
              · exact .inl ⟨name :: names, .further noSign noSeparator named written⟩
              · exact .inr (.inr (by simp [List.getLast?_append, List.getLast?_cons]))
              · exact .inr (.inr (by simp [List.getLast?_append, List.getLast?_cons, last]))
          next unseparated =>
              obtain ⟨name, named⟩ := decoded?_of_setEncoded? makes
              exact .inl ⟨[name], .last noSign (Text.not_mem_of_splitFirst? unseparated) named⟩

end QueryAgent.Postgres.ConnectionString

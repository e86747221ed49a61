import QueryAgent.Proofs.Postgres.Forms
import QueryAgent.Proofs.Query.Conditions

namespace QueryAgent.Postgres

/-!
# The mode that is added to a connection string

A mode is added where the text `sslmode=` does not occur, whatever that text
means where it does.  In a well-written connection string an added mode is read
as the last setting of its key, so it overrides a mode that was written with
blanks around the sign or in percent form, and none is added where the text
stands inside a value.
-/

namespace ConnectionString

/-! ## Settings with a mode behind them -/

/-- The text of a mode. -/
theorem eq_of_sslModeOf?
    {name : String}
    {sslMode : SslMode}
    (accepted : sslModeOf? name = some sslMode) :
    name = "disable" ∨ name = "prefer" ∨ name = "require" := by
  unfold sslModeOf? at accepted
  split at accepted
  · exact .inl rfl
  · exact .inr (.inl rfl)
  · exact .inr (.inr rfl)
  · cases accepted

theorem set?_sslMode
    {name : String}
    {sslMode : SslMode}
    (accepted : sslModeOf? name = some sslMode)
    (settings : ConnectionString) :
    settings.set? "sslmode" name = some { settings with sslMode := sslMode } := by
  have made :
      settings.set? "sslmode" name =
        (sslModeOf? name).map fun mode => { settings with sslMode := mode } :=
    rfl
  rw [made, accepted]
  rfl

/-- A character that stands for itself in a value without quotes. -/
def isPlain
    (character : Char) : Bool :=
  !Text.isBlank character && character ≠ '\\'

theorem BareText.of_plain
    {text : List Char}
    (plain : text.all isPlain = true) :
    BareText text text := by
  induction text with
  | nil =>
      exact .nil
  | cons character rest inductionHypothesis =>
      rw [List.all_cons, Bool.and_eq_true] at plain
      have stands : Text.isBlank character = false ∧ character ≠ '\\' := by
        simpa [isPlain] using plain.1
      exact .plain stands.1 stands.2 (inductionHypothesis plain.2)

/-- A mode as a setting behind a blank. -/
theorem settingsText_sslMode
    {name : String}
    {sslMode : SslMode}
    (accepted : sslModeOf? name = some sslMode) :
    SettingsText (' ' :: ("sslmode=".toList ++ name.toList)) [("sslmode", name)] := by
  have value : ValueText [] name.toList name.toList := by
    rcases eq_of_sslModeOf? accepted with rfl | rfl | rfl <;>
      exact
        .bare (.of_plain (by decide)) (by decide) (by decide) .nil
  have setting :
      SettingsText
        ([' '] ++ ("sslmode".toList ++ ([] ++ '=' :: ([] ++ (name.toList ++ [])))))
        [(String.ofList "sslmode".toList, String.ofList name.toList)] :=
    .setting (List.all_eq_true.mp (by decide)) (List.all_eq_true.mp (by decide)) (by decide)
      (by simp) (by simp) value (.done (by simp))
  simpa using setting

/-- A scheme in front of a blank stands in front of what the blank ends. -/
theorem eq_append_of_scheme
    {scheme rest front behind : List Char}
    (isScheme : IsScheme scheme)
    (same : front ++ ' ' :: behind = scheme ++ rest) :
    ∃ further, front = scheme ++ further := by
  have noBlank : ' ' ∉ scheme := by
    rcases isScheme with rfl | rfl <;>
      decide
  rcases List.append_eq_append_iff.mp same with ⟨middle, schemeIs, _⟩ | ⟨further, frontIs, _⟩
  · cases middle with
    | nil =>
        exact ⟨[], by rw [schemeIs]; simp⟩
    | cons character others =>
        rename_i blankIs
        cases blankIs
        exact absurd (by rw [schemeIs]; simp) noBlank
  · exact ⟨further, frontIs⟩

/-- Settings behind a blank do not make a URL of a text that is none. -/
theorem afterScheme?_append_of_noUrl
    {content : List Char}
    (noUrl : Text.occursIn "://".toList content = false)
    (behind : List Char) :
    afterScheme? (Text.trimEndList content ++ ' ' :: behind) = none := by
  cases after : afterScheme? (Text.trimEndList content ++ ' ' :: behind) with
  | none =>
      rfl
  | some rest =>
      obtain ⟨scheme, isScheme, same⟩ := eq_append_of_afterScheme? after
      obtain ⟨further, trimmed⟩ := eq_append_of_scheme isScheme same
      obtain ⟨blanks, contentIs, _⟩ := Text.eq_trimEndList_append content
      rw [contentIs, trimmed, List.append_assoc, occursIn_of_isScheme isScheme] at noUrl
      cases noUrl

/-- A mode behind settings is the last setting that is made. -/
theorem parse?_of_settings
    {content : List Char}
    {pairs : List (String × String)}
    (noUrl : Text.occursIn "://".toList content = false)
    (written : SettingsText (Text.trimEndList content) pairs)
    {settings : ConnectionString}
    (readable : parse? (String.ofList content) = some settings)
    {name : String}
    {sslMode : SslMode}
    (accepted : sslModeOf? name = some sslMode) :
    parse?
        (String.ofList
          (Text.trimEndList content ++ ' ' :: ("sslmode=".toList ++ name.toList))) =
      some { settings with sslMode := sslMode } := by
  obtain ⟨blanks, contentIs, blank⟩ := Text.eq_trimEndList_append content
  have startsBlank : StartsBlank blanks := fun character first =>
    blank character (List.mem_of_mem_head? first)
  have whole : SettingsText content pairs := by
    have appended := written.append startsBlank (.done blank)
    rwa [← contentIs, List.append_nil] at appended
  have made : standard.setAll? pairs = some settings := by
    rw [parse?, String.toList_ofList, afterScheme?_of_noUrl noUrl] at readable
    rwa [← ofPairs?_of_settingsText whole]
  have extended :=
    written.append (.cons rfl _) (settingsText_sslMode accepted)
  rw [parse?, String.toList_ofList, afterScheme?_append_of_noUrl noUrl]
  simp only
  rw [ofPairs?_of_settingsText extended, setAll?_append, made, Option.bind_some, setAll?,
    set?_sslMode accepted]
  rfl

/-! ## URLs with a mode behind them -/

theorem setEncoded?_sslMode
    {name : String}
    {sslMode : SslMode}
    (accepted : sslModeOf? name = some sslMode)
    (settings : ConnectionString) :
    settings.setEncoded? "sslmode".toList name.toList =
      some { settings with sslMode := sslMode } := by
  have key : decoded? "sslmode".toList = some "sslmode" := by
    decide +kernel
  have value : decoded? name.toList = some name := by
    rcases eq_of_sslModeOf? accepted with rfl | rfl | rfl <;>
      decide +kernel
  have noHost : "sslmode" ≠ "host" := by
    decide
  simp only [setEncoded?, key, value, Option.bind_eq_bind, Option.bind_some, if_neg noHost]
  exact set?_sslMode accepted settings

/-- A mode behind a question mark is made last. -/
theorem parse?_of_url
    {scheme front : List Char}
    (isScheme : IsScheme scheme)
    (plain : '?' ∉ front)
    {settings : ConnectionString}
    (readable : parse? (String.ofList (scheme ++ front)) = some settings)
    {name : String}
    {sslMode : SslMode}
    (accepted : sslModeOf? name = some sslMode) :
    parse?
        (String.ofList (scheme ++ front ++ '?' :: ("sslmode".toList ++ '=' :: name.toList))) =
      some { settings with sslMode := sslMode } := by
  rw [parse?, String.toList_ofList, afterScheme?_append isScheme] at readable
  have made : ofUrl? front = some settings := readable
  have noAt : '@' ∉ "sslmode".toList ++ '=' :: name.toList := by
    rcases eq_of_sslModeOf? accepted with rfl | rfl | rfl <;>
      decide
  have noSeparator : '&' ∉ name.toList := by
    rcases eq_of_sslModeOf? accepted with rfl | rfl | rfl <;>
      decide
  rw [parse?, String.toList_ofList, List.append_assoc, afterScheme?_append isScheme]
  simp only
  rw [ofUrl?_append plain (.inr noAt), made, Option.bind_some,
    setQuery?_last (by decide) noSeparator, setEncoded?_sslMode accepted]

/-- A mode behind a query is made last. -/
theorem parse?_of_query
    {scheme front query : List Char}
    {names : List String}
    (isScheme : IsScheme scheme)
    (plain : '?' ∉ front)
    (reached : '@' ∈ front ∨ '@' ∉ query)
    (written : QueryText query names)
    {settings : ConnectionString}
    (readable : parse? (String.ofList (scheme ++ (front ++ '?' :: query))) = some settings)
    {name : String}
    {sslMode : SslMode}
    (accepted : sslModeOf? name = some sslMode) :
    parse?
        (String.ofList
          (scheme ++ (front ++ '?' :: query) ++ '&' :: ("sslmode".toList ++ '=' :: name.toList))) =
      some { settings with sslMode := sslMode } := by
  rw [parse?, String.toList_ofList, afterScheme?_append isScheme] at readable
  have noAt : '@' ∉ '&' :: ("sslmode".toList ++ '=' :: name.toList) := by
    rcases eq_of_sslModeOf? accepted with rfl | rfl | rfl <;>
      decide
  have noSeparator : '&' ∉ name.toList := by
    rcases eq_of_sslModeOf? accepted with rfl | rfl | rfl <;>
      decide
  have reachedFurther :
      '@' ∈ front ∨ '@' ∉ query ++ '&' :: ("sslmode".toList ++ '=' :: name.toList) :=
    reached.imp_right fun absent member =>
      (List.mem_append.mp member).elim absent noAt
  simp only at readable
  rw [ofUrl?_append plain reached] at readable
  obtain ⟨base, made, makesQuery⟩ := Option.bind_eq_some_iff.mp readable
  rw [parse?, String.toList_ofList, List.append_assoc, List.append_assoc, List.cons_append,
    afterScheme?_append isScheme]
  simp only
  rw [ofUrl?_append plain reachedFurther, made, Option.bind_some,
    setQuery?_append written (by decide) noSeparator base (Nat.lt_succ_self query.length)
      (by simp only [List.length_append, List.length_cons]; omega),
    makesQuery, Option.bind_some, setEncoded?_sslMode accepted]

end ConnectionString

/-! ## The connection string that is used -/

open ConnectionString

/-- A scheme holds no question mark. -/
theorem not_mem_of_isScheme
    {scheme : List Char}
    (isScheme : IsScheme scheme) :
    '?' ∉ scheme := by
  rcases isScheme with rfl | rfl <;>
    decide

section
variable {content : List Char} {mode : String} {sslMode : SslMode}
  (accepted : sslModeOf? (Text.trim mode) = some sslMode)
include accepted

/-- An accepted mode is added where the text `sslmode=` does not occur. -/
theorem withSslMode_of_accepted :
    withSslMode (String.ofList content) (some mode) =
      String.ofList
        (if Text.occursIn "sslmode=".toList content then
          content
        else if Text.occursIn "://".toList content then
          content
            ++ (if content.contains '?' then '&' else '?')
            :: ("sslmode".toList ++ '=' :: (Text.trim mode).toList)
        else
          Text.trimEndList content
            ++ ' ' :: ("sslmode=".toList ++ (Text.trim mode).toList)) := by
  have notBlank : Text.allBlank mode = false := by
    rw [← Text.isEmpty_trim]
    rcases eq_of_sslModeOf? accepted with same | same | same <;>
      rw [same] <;>
      decide
  have given : Text.nonBlank? (some mode) = some mode := by
    simp [Text.nonBlank?, notBlank]
  rw [withSslMode, given]
  refine String.toList_inj.mp ?_
  simp only [String.toList_ofList]
  split
  · exact String.toList_ofList
  · split
    · split <;>
        simp
    · simp

/-- A well-written connection string takes on a mode where the text `sslmode=` is absent. -/
theorem parse?_withSslMode
    {names : List String}
    (written : WellWritten content names)
    {settings : ConnectionString}
    (readable : parse? (String.ofList content) = some settings) :
    parse? (withSslMode (String.ofList content) (some mode)) =
      some (if Text.occursIn "sslmode=".toList content then settings
        else { settings with sslMode := sslMode }) := by
  rw [withSslMode_of_accepted accepted]
  by_cases occurs : Text.occursIn "sslmode=".toList content = true
  · rw [if_pos occurs, if_pos occurs]
    exact readable
  · rw [if_neg occurs, if_neg occurs]
    cases written with
    | pairs noUrl written =>
        rw [if_neg (Bool.eq_false_iff.mp noUrl)]
        exact parse?_of_settings noUrl written readable accepted
    | @url scheme front isScheme plain =>
        have noMark : (scheme ++ front).contains '?' = false := by
          simp [plain, not_mem_of_isScheme isScheme]
        rw [if_pos (occursIn_of_isScheme isScheme _), noMark]
        exact parse?_of_url isScheme plain readable accepted
    | @query scheme front query _ isScheme plain reached written =>
        have mark : (scheme ++ (front ++ '?' :: query)).contains '?' = true := by
          simp
        rw [if_pos (occursIn_of_isScheme isScheme _), mark]
        exact parse?_of_query isScheme plain reached written readable accepted

end

/-- Two choices between the same values agree when they are made alike, or make no difference. -/
theorem ite_eq_ite_iff
    {first second : α}
    {choice other : Prop}
    [Decidable choice]
    [Decidable other] :
    (if choice then first else second) = (if other then first else second) ↔
      (choice ↔ other) ∨ first = second := by
  by_cases choice <;> by_cases other <;>
    simp_all [eq_comm]

/--
A well-written connection string is readable with an accepted mode, and its
settings are those it had, with this mode where the text `sslmode=` is absent.
So a mode it sets itself is kept, and the given one is taken where it sets none,
exactly when the text occurs just where the key is set, or when both modes are
one.
-/
theorem withSslMode_respects_iff
    {url : String}
    {names : List String}
    (written : WellWritten url.toList names)
    {settings : ConnectionString}
    (readable : parse? url = some settings)
    {mode : String}
    {sslMode : SslMode}
    (accepted : sslModeOf? (Text.trim mode) = some sslMode) :
    parse? (withSslMode url (some mode)) =
        some (if Text.occursIn "sslmode=".toList url.toList then settings
          else { settings with sslMode := sslMode }) ∧
      (parse? (withSslMode url (some mode)) =
          some (if "sslmode" ∈ names then settings
            else { settings with sslMode := sslMode }) ↔
        (Text.occursIn "sslmode=".toList url.toList = true ↔ "sslmode" ∈ names) ∨
          settings.sslMode = sslMode) := by
  have readableText : parse? (String.ofList url.toList) = some settings := by
    rwa [String.ofList_toList]
  have read := parse?_withSslMode accepted written readableText
  rw [String.ofList_toList] at read
  have same_iff :
      settings = { settings with sslMode := sslMode } ↔ settings.sslMode = sslMode := by
    constructor
    · intro same
      exact congrArg ConnectionString.sslMode same
    · rintro rfl
      rfl
  refine ⟨read, ?_⟩
  rw [read, Option.some_inj, ite_eq_ite_iff, same_iff]

/-- Settings with a mode that has blanks around its sign. -/
def spacedUrl : String :=
  "host=localhost sslmode = disable"

theorem wellWritten_spacedUrl :
    WellWritten spacedUrl.toList ["host", "sslmode"] := by
  have mode : ValueText [] "disable".toList "disable".toList :=
    .bare (.of_plain (by decide)) (by decide) (by decide) .nil
  have host :
      ValueText " sslmode = disable".toList "localhost".toList "localhost".toList :=
    .bare (.of_plain (by decide)) (by decide) (by decide) (.cons rfl _)
  have spacedMode :
      SettingsText
        ([' '] ++ ("sslmode".toList ++ ([' '] ++ '=' :: ([' '] ++ ("disable".toList ++ [])))))
        [(String.ofList "sslmode".toList, String.ofList "disable".toList)] :=
    .setting (List.all_eq_true.mp (by decide)) (List.all_eq_true.mp (by decide)) (by decide)
      (List.all_eq_true.mp (by decide)) (List.all_eq_true.mp (by decide)) mode (.done (by simp))
  have settings :
      SettingsText
        ([] ++ ("host".toList
          ++ ([] ++ '=' :: ([] ++ ("localhost".toList ++ " sslmode = disable".toList)))))
        [(String.ofList "host".toList, String.ofList "localhost".toList),
          (String.ofList "sslmode".toList, String.ofList "disable".toList)] :=
    .setting (by simp) (List.all_eq_true.mp (by decide)) (by decide) (by simp) (by simp) host
      spacedMode
  have trimmed : Text.trimEndList spacedUrl.toList = spacedUrl.toList := by
    decide
  have whole :
      SettingsText (Text.trimEndList spacedUrl.toList)
        [("host", "localhost"), ("sslmode", "disable")] := by
    rw [trimmed]
    exact settings
  have noUrl : Text.occursIn "://".toList spacedUrl.toList = false := by
    decide
  exact .pairs noUrl whole

/-- The mode of these settings is overridden by another one. -/
theorem withSslMode_respects_iff_spacedUrl :
    ∃ settings,
      parse? spacedUrl = some settings ∧
        settings.sslMode = .disable ∧
        parse? (withSslMode spacedUrl (some " require ")) ≠ some settings := by
  have readable :
      parse? spacedUrl =
        some { standard with hosts := [.name "localhost"], sslMode := .disable } := by
    decide +kernel
  have respects :=
    (withSslMode_respects_iff wellWritten_spacedUrl readable
      (show sslModeOf? (Text.trim " require ") = some .require by decide)).2
  refine ⟨_, readable, rfl, fun same => ?_⟩
  have kept := respects.mp (by rw [if_pos (by decide)]; exact same)
  revert kept
  decide

/-- A mode with blanks around its sign is named, and the one that is added overrides it. -/
theorem withSslMode_overrides_spaced_mode :
    ∃ settings,
      parse? spacedUrl = some settings ∧
        readPairs? (spacedUrl.toList.length + 1) spacedUrl.toList =
          some [("host", "localhost"), ("sslmode", "disable")] ∧
        settings.sslMode = .disable ∧
        sslModeOf? (Text.trim "require") = some .require ∧
        parse? (withSslMode spacedUrl (some "require")) =
          some { settings with sslMode := .require } :=
  ⟨{ standard with hosts := [.name "localhost"], sslMode := .disable },
    by decide +kernel, by decide +kernel, rfl, by decide, by decide +kernel⟩

end QueryAgent.Postgres

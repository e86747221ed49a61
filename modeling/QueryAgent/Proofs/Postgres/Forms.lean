import QueryAgent.Proofs.Postgres.Readable

namespace QueryAgent.Postgres.ConnectionString

/-!
# The forms of connection strings

Settings one behind the other, and URLs with settings behind a question mark.
Every readable connection string has one of these forms, up to a few fragile
ones: what is written behind those would not be read as another setting.
-/

/-- One of the two schemes of URLs. -/
def IsScheme
    (scheme : List Char) : Prop :=
  scheme = "postgres://".toList ∨ scheme = "postgresql://".toList

/--
A connection string with the keys it sets, in one of its forms: settings alone,
that do not look like a URL, or a URL without or with a query, which is not
empty and whose question mark is the only one before it.
-/
inductive WellWritten : List Char → List String → Prop where
  | pairs
      {content : List Char}
      {pairs : List (String × String)}
      (noUrl : Text.occursIn "://".toList content = false)
      (written : SettingsText (Text.trimEndList content) pairs) :
      WellWritten content (pairs.map Prod.fst)
  | url
      {scheme front : List Char}
      (isScheme : IsScheme scheme)
      (plain : '?' ∉ front) :
      WellWritten (scheme ++ front) []
  | query
      {scheme front query : List Char}
      {names : List String}
      (isScheme : IsScheme scheme)
      (plain : '?' ∉ front)
      (reached : '@' ∈ front ∨ '@' ∉ query)
      (written : QueryText query names) :
      WellWritten (scheme ++ (front ++ '?' :: query)) names

/--
A connection string that is readable without being well-written: settings that
look like a URL or break off, or a URL whose query waits for another setting or
is reached over by the credentials.
-/
inductive Fragile : List Char → Prop where
  | urlInside
      {content : List Char}
      (noScheme : afterScheme? content = none)
      (inside : Text.occursIn "://".toList content = true) :
      Fragile content
  | breaksOff
      {content : List Char}
      (noScheme : afterScheme? content = none)
      (breaks : BreaksOff (Text.trimEndList content)) :
      Fragile content
  | awaitsSetting
      {scheme front query : List Char}
      (isScheme : IsScheme scheme)
      (plain : '?' ∉ front)
      (awaits : AwaitsSetting query) :
      Fragile (scheme ++ (front ++ '?' :: query))
  | reachedOver
      {scheme front query : List Char}
      (isScheme : IsScheme scheme)
      (plain : '?' ∉ front)
      (late : '@' ∉ front)
      (reached : '@' ∈ query) :
      Fragile (scheme ++ (front ++ '?' :: query))

/-! ## Schemes -/

theorem afterFront?_append
    (part rest : List Char) :
    Text.afterFront? part (part ++ rest) = some rest := by
  induction part with
  | nil =>
      cases rest <;> rfl
  | cons character others inductionHypothesis =>
      simp [Text.afterFront?, inductionHypothesis]

theorem eq_append_of_afterFront?
    {part characters rest : List Char}
    (after : Text.afterFront? part characters = some rest) :
    characters = part ++ rest := by
  induction part generalizing characters with
  | nil =>
      cases characters <;> cases after <;> rfl
  | cons character others inductionHypothesis =>
      cases characters with
      | nil =>
          cases after
      | cons first further =>
          rw [Text.afterFront?] at after
          split at after
          next same =>
              rw [same, inductionHypothesis after, List.cons_append]
          next =>
              cases after

theorem afterScheme?_append
    {scheme : List Char}
    (isScheme : IsScheme scheme)
    (rest : List Char) :
    afterScheme? (scheme ++ rest) = some rest := by
  rcases isScheme with rfl | rfl
  · rw [afterScheme?, afterFront?_append]
    rfl
  · have other :
        Text.afterFront? "postgres://".toList ("postgresql://".toList ++ rest) = none :=
      rfl
    rw [afterScheme?, other, afterFront?_append]
    rfl

/-- What is read as a URL opens with a scheme. -/
theorem eq_append_of_afterScheme?
    {content rest : List Char}
    (after : afterScheme? content = some rest) :
    ∃ scheme, IsScheme scheme ∧ content = scheme ++ rest := by
  rw [afterScheme?] at after
  cases short : Text.afterFront? "postgres://".toList content with
  | some found =>
      rw [short] at after
      cases after
      exact ⟨_, .inl rfl, eq_append_of_afterFront? short⟩
  | none =>
      rw [short] at after
      exact ⟨_, .inr rfl, eq_append_of_afterFront? after⟩

/-- Every scheme holds the text that tells a URL. -/
theorem occursIn_of_isScheme
    {scheme : List Char}
    (isScheme : IsScheme scheme)
    (rest : List Char) :
    Text.occursIn "://".toList (scheme ++ rest) = true := by
  rcases isScheme with rfl | rfl <;>
    rfl

/-- A text without what tells a URL is not read as one. -/
theorem afterScheme?_of_noUrl
    {content : List Char}
    (noUrl : Text.occursIn "://".toList content = false) :
    afterScheme? content = none := by
  cases after : afterScheme? content with
  | none =>
      rfl
  | some rest =>
      obtain ⟨scheme, isScheme, rfl⟩ := eq_append_of_afterScheme? after
      rw [occursIn_of_isScheme isScheme] at noUrl
      cases noUrl

/-! ## Readable connection strings -/

/-- A readable connection string is well-written, or it is fragile. -/
theorem wellWritten_or_fragile
    {content : List Char}
    {settings : ConnectionString}
    (readable : parse? (String.ofList content) = some settings) :
    (∃ names, WellWritten content names) ∨ Fragile content := by
  rw [parse?, String.toList_ofList] at readable
  cases after : afterScheme? content with
  | some rest =>
      rw [after] at readable
      obtain ⟨scheme, isScheme, rfl⟩ := eq_append_of_afterScheme? after
      by_cases plain : '?' ∉ rest
      · exact .inl ⟨[], .url isScheme plain⟩
      · obtain ⟨front, query, rfl, plainFront⟩ :=
          List.eq_append_cons_of_mem (Decidable.not_not.mp plain)
        by_cases reached : '@' ∈ front ∨ '@' ∉ query
        · have made : ofUrl? (front ++ '?' :: query) = some settings := readable
          rw [ofUrl?_append plainFront reached, Option.bind_eq_some_iff] at made
          obtain ⟨base, _, makesQuery⟩ := made
          rcases queryText_of_setQuery? makesQuery (Nat.lt_succ_self _) with
            ⟨names, written⟩ | awaits
          · exact .inl ⟨names, .query isScheme plainFront reached written⟩
          · exact .inr (.awaitsSetting isScheme plainFront awaits)
        · rw [not_or, Decidable.not_not] at reached
          exact .inr (.reachedOver isScheme plainFront reached.1 reached.2)
  | none =>
      rw [after] at readable
      cases inside : Text.occursIn "://".toList content with
      | true =>
          exact .inr (.urlInside after inside)
      | false =>
          obtain ⟨blanks, shape, blank⟩ := Text.eq_trimEndList_append content
          have made : ofPairs? content = some settings := readable
          rw [ofPairs?, Option.bind_eq_bind, Option.bind_eq_some_iff] at made
          obtain ⟨pairs, reads, _⟩ := made
          rw [shape] at reads
          rcases settingsText_of_readPairs? blank reads
              (by rw [List.length_append]; omega) with
            written | breaks
          · exact .inl ⟨_, .pairs inside written⟩
          · exact .inr (.breaksOff after breaks)

end QueryAgent.Postgres.ConnectionString

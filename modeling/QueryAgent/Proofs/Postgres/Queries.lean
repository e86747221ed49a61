import QueryAgent.Postgres.ConnectionString
import QueryAgent.Proofs.Text.Split

namespace QueryAgent.Postgres.ConnectionString

/-!
# Settings in the query of a URL

What stands behind the question mark of a URL is read on its own, behind the
credentials, the servers and the database: an at sign behind the question mark
would move it into the credentials, and nothing else can reach across it.
-/

/-! ## The parts of a URL -/

/-- Credentials end at an at sign in front of the question mark, or there are none. -/
theorem takeCredentials?_append
    {front behind : List Char}
    (reached : '@' ∈ front ∨ '@' ∉ behind) :
    takeCredentials? (front ++ behind) =
      (takeCredentials? front).map fun parts => (parts.1, parts.2 ++ behind) := by
  by_cases present : '@' ∈ front
  · rw [takeCredentials?, takeCredentials?, Text.splitFirst?_append present]
    cases Text.splitFirst? '@' front with
    | none =>
        rfl
    | some parts =>
        obtain ⟨credentials, rest⟩ := parts
        simp only [Option.map_some]
        cases Text.splitFirst? ':' credentials with
        | none =>
            simp [Option.map_map, Function.comp_def]
        | some names =>
            obtain ⟨user, password⟩ := names
            simp [Option.map_map, Function.comp_def]
  · have absent : '@' ∉ behind :=
      reached.resolve_left present
    have nowhere : '@' ∉ front ++ behind := by
      simp [present, absent]
    rw [takeCredentials?, takeCredentials?, Text.splitFirst?_of_not_mem nowhere,
      Text.splitFirst?_of_not_mem present]
    rfl

/-- What stands behind the credentials stood in the text before. -/
theorem mem_of_takeCredentials?
    {front content : List Char}
    {settings : ConnectionString}
    (credentials : takeCredentials? front = some (settings, content))
    {character : Char}
    (member : character ∈ content) :
    character ∈ front := by
  rw [takeCredentials?] at credentials
  by_cases present : '@' ∈ front
  · obtain ⟨before, after, rfl, absent⟩ := List.eq_append_cons_of_mem present
    rw [Text.splitFirst?_append_cons absent] at credentials
    have contentIs : after = content := by
      simp only at credentials
      split at credentials <;>
        obtain ⟨_, _, same⟩ := Option.map_eq_some_iff.mp credentials <;>
        cases same <;>
        rfl
    simp [contentIs, member]
  · rw [Text.splitFirst?_of_not_mem present] at credentials
    cases credentials
    exact member

section
variable (settings : ConnectionString) (front query : List Char)

theorem takeServers?_append :
    settings.takeServers? (front ++ '?' :: query) =
      (settings.takeServers? front).map fun parts => (parts.1, parts.2 ++ '?' :: query) := by
  have servers :
      (front ++ '?' :: query).takeWhile (fun character => !endsServers character) =
        front.takeWhile (fun character => !endsServers character) :=
    Text.takeWhile_append_cons rfl front query
  have rest :
      (front ++ '?' :: query).dropWhile (fun character => !endsServers character) =
        front.dropWhile (fun character => !endsServers character) ++ '?' :: query :=
    Text.dropWhile_append_cons rfl front query
  rw [takeServers?, takeServers?]
  simp only [servers, rest]
  split
  · rfl
  · simp [Option.map_map, Function.comp_def]

theorem takeDatabase?_of_ne
    {character : Char}
    (noSlash : character ≠ '/')
    (rest : List Char) :
    settings.takeDatabase? (character :: rest) = some (settings, character :: rest) := by
  unfold takeDatabase?
  split
  next same =>
      cases same
      exact absurd rfl noSlash
  next =>
      rfl

theorem takeDatabase?_append :
    settings.takeDatabase? (front ++ '?' :: query) =
      (settings.takeDatabase? front).map fun parts => (parts.1, parts.2 ++ '?' :: query) := by
  have database (path : List Char) :
      (path ++ '?' :: query).takeWhile (fun character => decide (character ≠ '?')) =
        path.takeWhile (fun character => decide (character ≠ '?')) :=
    Text.takeWhile_append_cons rfl path query
  have rest (path : List Char) :
      (path ++ '?' :: query).dropWhile (fun character => decide (character ≠ '?')) =
        path.dropWhile (fun character => decide (character ≠ '?')) ++ '?' :: query :=
    Text.dropWhile_append_cons rfl path query
  cases front with
  | nil =>
      rfl
  | cons character others =>
      by_cases slash : character = '/'
      · subst slash
        simp only [List.cons_append, takeDatabase?, database, rest]
        split
        · rfl
        · simp [Option.map_map, Function.comp_def]
      · rw [List.cons_append, takeDatabase?_of_ne settings slash,
          takeDatabase?_of_ne settings slash]
        rfl

end

/-- Without a question mark nothing is left behind the servers and the database. -/
theorem nothing_left
    {settings next last : ConnectionString}
    {front rest final : List Char}
    (plain : '?' ∉ front)
    (servers : settings.takeServers? front = some (next, rest))
    (database : next.takeDatabase? rest = some (last, final)) :
    final = [] := by
  have restIs : rest = front.dropWhile (fun character => !endsServers character) := by
    rw [takeServers?] at servers
    split at servers
    · cases servers
      rfl
    · obtain ⟨_, _, same⟩ := Option.map_eq_some_iff.mp servers
      cases same
      rfl
  have plainRest : '?' ∉ rest := by
    rw [restIs]
    exact fun member => plain ((List.dropWhile_sublist _).mem member)
  cases rest with
  | nil =>
      cases database
      rfl
  | cons character path =>
      have ends : endsServers character = true := by
        have stops := List.head?_dropWhile_not (fun character => !endsServers character) front
        rw [← restIs] at stops
        simpa using stops
      have slash : character = '/' := by
        have different : character ≠ '?' := by
          rintro rfl
          exact plainRest (by simp)
        simpa [endsServers, different] using ends
      subst slash
      have nothing : path.dropWhile (fun character => decide (character ≠ '?')) = [] :=
        Text.dropWhile_of_not_mem fun member => plainRest (by simp [member])
      simp only [takeDatabase?, nothing] at database
      split at database
      · cases database
        rfl
      · obtain ⟨_, _, same⟩ := Option.map_eq_some_iff.mp database
        cases same
        rfl

/-- A URL makes what stands in front of the question mark, then the settings behind it. -/
theorem ofUrl?_append
    {front query : List Char}
    (plain : '?' ∉ front)
    (reached : '@' ∈ front ∨ '@' ∉ query) :
    ofUrl? (front ++ '?' :: query) =
      (ofUrl? front).bind fun settings => settings.setQuery? (query.length + 1) query := by
  have behind : '@' ∈ front ∨ '@' ∉ '?' :: query := by
    simpa using reached
  rw [ofUrl?, ofUrl?, takeCredentials?_append behind]
  cases credentials : takeCredentials? front with
  | none =>
      rfl
  | some parts =>
      obtain ⟨settings, content⟩ := parts
      have plainContent : '?' ∉ content := fun member =>
        plain (mem_of_takeCredentials? credentials member)
      simp only [Option.map_some, Option.bind_eq_bind, Option.bind_some, takeServers?_append]
      cases servers : settings.takeServers? content with
      | none =>
          rfl
      | some parts =>
          obtain ⟨settings, content⟩ := parts
          simp only [Option.map_some, Option.bind_some, takeDatabase?_append]
          cases database : settings.takeDatabase? content with
          | none =>
              rfl
          | some parts =>
              obtain ⟨settings, content⟩ := parts
              obtain rfl := nothing_left plainContent servers database
              simp

/-! ## Settings behind the question mark -/

/-- Settings in percent form, with the keys that they stand for. -/
inductive QueryText : List Char → List String → Prop where
  | last
      {key value : List Char}
      {name : String}
      (noSign : '=' ∉ key)
      (noSeparator : '&' ∉ value)
      (named : decoded? key = some name) :
      QueryText (key ++ '=' :: value) [name]
  | further
      {key value rest : List Char}
      {name : String}
      {names : List String}
      (noSign : '=' ∉ key)
      (noSeparator : '&' ∉ value)
      (named : decoded? key = some name)
      (others : QueryText rest names) :
      QueryText (key ++ '=' :: (value ++ '&' :: rest)) (name :: names)

section
variable {key value : List Char} (noSign : '=' ∉ key) (noSeparator : '&' ∉ value)
include noSign noSeparator

theorem setQuery?_last
    (settings : ConnectionString)
    (more : Nat) :
    settings.setQuery? (more + 1) (key ++ '=' :: value) = settings.setEncoded? key value := by
  rw [setQuery?, Text.splitFirst?_append_cons noSign]
  simp [Text.splitFirst?_of_not_mem noSeparator]

theorem setQuery?_further
    (settings : ConnectionString)
    (more : Nat)
    (rest : List Char) :
    settings.setQuery? (more + 1) (key ++ '=' :: (value ++ '&' :: rest)) =
      (settings.setEncoded? key value).bind fun settings => settings.setQuery? more rest := by
  rw [setQuery?, Text.splitFirst?_append_cons noSign]
  simp [Text.splitFirst?_append_cons noSeparator]

end

/-- A setting behind others is made behind them. -/
theorem setQuery?_append
    {query : List Char}
    {names : List String}
    (written : QueryText query names)
    {key value : List Char}
    (noSign : '=' ∉ key)
    (noSeparator : '&' ∉ value)
    (settings : ConnectionString)
    {more less : Nat}
    (enough : query.length < less)
    (enoughMore : query.length + 1 < more) :
    settings.setQuery? more (query ++ '&' :: (key ++ '=' :: value)) =
      (settings.setQuery? less query).bind fun settings => settings.setEncoded? key value := by
  induction written generalizing settings more less with
  | last earlierSign earlierSeparator named =>
      obtain ⟨more, rfl⟩ : ∃ fewer, more = fewer + 2 :=
        ⟨more - 2, by omega⟩
      obtain ⟨less, rfl⟩ : ∃ fewer, less = fewer + 1 :=
        ⟨less - 1, by omega⟩
      rw [List.append_assoc, List.cons_append, setQuery?_further earlierSign earlierSeparator,
        setQuery?_last earlierSign earlierSeparator]
      congr 1
      funext settings
      exact setQuery?_last noSign noSeparator settings more
  | further earlierSign earlierSeparator named others inductionHypothesis =>
      simp only [List.length_append, List.length_cons] at enough enoughMore
      obtain ⟨more, rfl⟩ : ∃ fewer, more = fewer + 1 :=
        ⟨more - 1, by omega⟩
      obtain ⟨less, rfl⟩ : ∃ fewer, less = fewer + 1 :=
        ⟨less - 1, by omega⟩
      rw [List.append_assoc, List.cons_append, List.append_assoc, List.cons_append,
        setQuery?_further earlierSign earlierSeparator,
        setQuery?_further earlierSign earlierSeparator, Option.bind_assoc]
      congr 1
      funext settings
      exact inductionHypothesis settings (by omega) (by omega)

end QueryAgent.Postgres.ConnectionString

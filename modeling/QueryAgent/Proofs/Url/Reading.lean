import QueryAgent.Proofs.Json.Records
import QueryAgent.Url.Parser

namespace QueryAgent.Url

/-!
# Addresses as they are read

An address that was read without a base keeps credentials and a port beside a
host only.  That of a file has a host and nothing beside it, and its path does
not begin with empty segments.  Opening such an address keeps all of this.
-/

/-! ## Fronts of paths -/

/-- Segments that do not begin with an empty one, unless it is all there is. -/
def NoEmptyFront
    (segments : List (List Char)) : Prop :=
  ∀ next rest, segments ≠ [] :: next :: rest

theorem noEmptyFront_cons
    {first : List Char}
    (nonempty : first ≠ [])
    (rest : List (List Char)) :
    NoEmptyFront (first :: rest) :=
  fun _ _ same => nonempty (List.cons.inj same).1

theorem noEmptyFront_dropEmptyFront
    (segments : List (List Char)) :
    NoEmptyFront (dropEmptyFront segments) := by
  fun_induction dropEmptyFront segments with
  | case1 next rest inductionHypothesis =>
      exact inductionHypothesis
  | case2 segments different =>
      exact different

theorem dropEmptyFront_of_noEmptyFront
    {segments : List (List Char)}
    (noEmptyFront : NoEmptyFront segments) :
    dropEmptyFront segments = segments := by
  rw [dropEmptyFront]
  exact noEmptyFront

/-- A drive that gets its colon stays a segment. -/
theorem keptSegment_ne_nil
    {segment : List Char}
    (nonempty : segment ≠ [])
    (isFile : Bool)
    (before : List (List Char)) :
    keptSegment isFile before segment ≠ [] := by
  unfold keptSegment
  split
  · simp
  · exact nonempty

/-! ## What reading leaves -/

/-- Nothing stands where a host would be needed, and a file has a host alone. -/
structure Settled
    (url : Url) : Prop where
  hostless :
    url.host = none → url.username = [] ∧ url.password = [] ∧ url.port = none
  file :
    isFileScheme url.scheme = true →
      ∃ host, url.authority? = some { Authority.empty with host := host }
  front :
    isFileScheme url.scheme = true →
      ∀ parts, url.path = .segments parts → NoEmptyFront parts

section
variable {scheme : List Char} {reference : Reference} {url : Url}

theorem settled_assemble
    (notFile : isFileScheme scheme = false)
    (authority : Option Authority)
    (path : Path) :
    (assemble scheme authority path reference).Settled := by
  have otherwise :
      isFileScheme (assemble scheme authority path reference).scheme ≠ true :=
    Bool.eq_false_iff.mp notFile
  refine ⟨?hostless, fun isFile => absurd isFile otherwise,
    fun isFile => absurd isFile otherwise⟩
  intro noHost
  cases authority with
  | none =>
      exact ⟨rfl, rfl, rfl⟩
  | some authority =>
      cases noHost

theorem settled_fileUrl
    (host : Host)
    (before : List (List Char))
    (content : List Char) :
    (fileUrl scheme host before content reference).Settled := by
  refine ⟨nofun, fun _ => ⟨host, rfl⟩, ?front⟩
  intro isFile parts isPath
  have resolved : resolve scheme before content = parts := Path.segments.inj isPath
  have isFile : isFileScheme scheme = true := isFile
  rw [← resolved, resolve, if_pos isFile]
  exact noEmptyFront_dropEmptyFront _

theorem settled_of_readAfterSlashes
    (notFile : isFileScheme scheme = false)
    {content : List Char}
    (reads : readAfterSlashes scheme content reference = .ok url) :
    url.Settled := by
  unfold readAfterSlashes at reads
  dsimp only at reads
  split at reads
  · cases reads
  · obtain ⟨⟨authority, left⟩, _, assembled⟩ := Json.bind_eq_ok.mp reads
    cases assembled
    exact settled_assemble notFile _ _

theorem settled_of_readPlain
    (notFile : isFileScheme scheme = false)
    {content : List Char}
    (reads : readPlain scheme content reference = .ok url) :
    url.Settled := by
  unfold readPlain at reads
  split at reads
  · exact settled_of_readAfterSlashes notFile reads
  all_goals
    cases reads
    exact settled_assemble notFile _ _

theorem settled_of_readFileAfterSlashes
    {content : List Char}
    (reads : readFileAfterSlashes scheme content reference = .ok url) :
    url.Settled := by
  unfold readFileAfterSlashes at reads
  dsimp only at reads
  split at reads
  · cases reads
    exact settled_fileUrl _ _ _
  · obtain ⟨host, _, settled⟩ := Json.bind_eq_ok.mp reads
    split at settled <;>
      cases settled <;>
      exact settled_fileUrl _ _ _

theorem settled_of_readFile
    (reads : readFile scheme none reference = .ok url) :
    url.Settled := by
  unfold readFile at reads
  split at reads
  · cases reads
    exact settled_fileUrl _ _ _
  · split at reads
    · split at reads
      · split at reads
        · exact settled_of_readFileAfterSlashes reads
        · split at reads <;>
            cases reads <;>
            exact settled_fileUrl _ _ _
      · cases reads
        exact settled_fileUrl _ _ _
    · split at reads <;>
        cases reads <;>
        exact settled_fileUrl _ _ _

end

/-- An address that was read without a base is settled. -/
theorem settled_of_parse
    {content : String}
    {url : Url}
    (parsed : parse content = .ok url) :
    url.Settled := by
  unfold parse read at parsed
  dsimp only at parsed
  split at parsed
  · cases parsed
  · split at parsed
    · exact settled_of_readFile parsed
    next notFile =>
        have notFile := Bool.eq_false_iff.mpr notFile
        split at parsed
        · exact settled_of_readAfterSlashes notFile parsed
        · exact settled_of_readPlain notFile parsed

/-- A settled address with another path, put together from its own parts. -/
theorem Settled.assemble
    {url : Url}
    (settled : url.Settled)
    (path : Path)
    (body : List Char) :
    assemble url.scheme url.authority? path ⟨body, none, none⟩ =
      { url with
        path := path
        query := none
        fragment := none } := by
  obtain ⟨scheme, username, password, host, port, _, _, _⟩ := url
  cases host with
  | none =>
      obtain ⟨rfl, rfl, rfl⟩ := settled.hostless rfl
      rfl
  | some host =>
      rfl

/-! ## Open addresses -/

/-- An address whose path goes on behind its last slash. -/
def OpenAt
    (url : Url)
    (place : List (List Char)) : Prop :=
  url.path = .segments (place ++ [[]])

/-- Opening an address with segments leaves it open. -/
theorem openAt_opened
    {url : Url}
    {parts : List (List Char)}
    (splits : url.opened.path = .segments parts) :
    ∃ place, url.opened.OpenAt place := by
  unfold opened at splits ⊢
  cases isPath : url.path with
  | plain content =>
      cases content with
      | nil =>
          simp [isPath] at splits
      | cons first rest =>
          simp only [isPath] at splits
          split at splits <;>
            simp [isPath] at splits
  | segments segments =>
      simp only
      split
      next ends =>
          obtain ⟨place, rfl⟩ := List.getLast?_eq_some_iff.mp ends
          exact ⟨place, isPath⟩
      next =>
          exact ⟨_, rfl⟩

/-- An address stays settled when it is opened. -/
theorem Settled.opened
    {url : Url}
    (settled : url.Settled) :
    url.opened.Settled := by
  unfold Url.opened
  split
  · exact ⟨settled.hostless, settled.file, nofun⟩
  · split
    · exact settled
    · exact ⟨settled.hostless, settled.file, nofun⟩
  next parts isPath =>
      split
      · exact settled
      next notOpen =>
          refine ⟨settled.hostless, settled.file, ?front⟩
          intro isFile opened same
          cases same
          cases parts with
          | nil =>
              exact fun _ _ same => nomatch (List.cons.inj same).2
          | cons first rest =>
              have nonempty : first ≠ [] := by
                rintro rfl
                cases rest with
                | nil =>
                    exact notOpen rfl
                | cons next rest =>
                    exact settled.front isFile _ isPath next rest rfl
              exact noEmptyFront_cons (keptSegment_ne_nil nonempty _ _) _

end QueryAgent.Url

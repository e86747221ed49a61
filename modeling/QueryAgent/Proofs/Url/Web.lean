import QueryAgent.Proofs.Text.Split
import QueryAgent.Proofs.Url.Reading

namespace QueryAgent.Url

/-!
# Addresses for the web

An address for the web is read as its authority, which goes up to the first
slash of either kind, and the path behind it.  Only a text that begins with the
scheme is read as such an address.
-/

/-! ## Schemes -/

/-- A scheme is a letter and what schemes hold, up to a colon. -/
theorem takeScheme?_eq_some_iff
    {content scheme rest : List Char} :
    takeScheme? content = some (scheme, rest) ↔
      ∃ first others,
        content = first :: others ++ ':' :: rest
          ∧ first.isAlpha = true
          ∧ (∀ character ∈ others, isSchemeChar character = true)
          ∧ scheme = (first :: others).map Char.toLower := by
  constructor
  · intro takes
    unfold takeScheme? at takes
    split at takes
    next first others =>
        split at takes
        next after found =>
            split at takes
            next alpha =>
                cases takes
                refine
                  ⟨first, others.takeWhile isSchemeChar, ?_, alpha,
                    List.all_eq_true.mp List.all_takeWhile, rfl⟩
                rw [List.cons_append, ← found, List.takeWhile_append_dropWhile]
            next =>
                cases takes
        next =>
            cases takes
    next =>
        cases takes
  · rintro ⟨first, others, rfl, alpha, inside, rfl⟩
    have ends : Text.EndsRun isSchemeChar (':' :: rest) := by
      simp [Text.EndsRun, isSchemeChar]
    rw [List.cons_append, takeScheme?, Text.dropWhile_append_of_endsRun inside ends,
      Text.takeWhile_append_of_endsRun inside ends]
    exact if_pos alpha

/-- A text whose scheme is cut off goes on with what is written behind it. -/
theorem takeScheme?_append
    {content scheme rest : List Char}
    (takes : takeScheme? content = some (scheme, rest))
    (behind : List Char) :
    takeScheme? (content ++ behind) = some (scheme, rest ++ behind) := by
  obtain ⟨first, others, rfl, alpha, inside, same⟩ := takeScheme?_eq_some_iff.mp takes
  exact takeScheme?_eq_some_iff.mpr ⟨first, others, by simp, alpha, inside, same⟩

/-! ## Authorities -/

/-- A port holds no mark that is not in the text it is cut from. -/
theorem not_mem_splitPort
    {mark : Char}
    {bracketed : Bool}
    {content : List Char}
    (absent : mark ∉ content) :
    ∀ port ∈ (splitPort bracketed content).2, mark ∉ port := by
  fun_induction splitPort bracketed content with
  | case1 =>
      exact nofun
  | case2 bracketed character rest isPort =>
      intro port same
      obtain rfl := Option.some.inj same
      exact fun member => absent (List.mem_cons_of_mem _ member)
  | case3 bracketed character rest isHost host port split inductionHypothesis =>
      rw [split] at inductionHypothesis
      exact inductionHypothesis fun member => absent (List.mem_cons_of_mem _ member)

/-- What stands behind credentials holds no mark that is not in the whole text. -/
theorem not_mem_takeCredentials
    {mark : Char}
    {content : List Char}
    (absent : mark ∉ content) :
    mark ∉ (takeCredentials content).2 := by
  unfold takeCredentials Text.splitLast?
  cases split : Text.splitFirst? '@' content.reverse with
  | none =>
      exact absent
  | some parts =>
      have whole := (Text.eq_append_of_splitFirst? split).1
      intro member
      apply absent
      rw [← List.mem_reverse, whole]
      exact List.mem_append_left _ (List.mem_reverse.mp member)

/-- Without a backslash a port is read to its end. -/
theorem left_eq_nil_of_readPort
    {scheme content left : List Char}
    {port : Option Nat}
    (absent : '\\' ∉ content)
    (reads : readPort scheme content = .ok (port, left)) :
    left = [] := by
  unfold readPort at reads
  dsimp only at reads
  split at reads
  · cases reads
  next fits =>
      have behind : left = content.dropWhile Char.isDigit := by
        split at reads <;>
          exact (congrArg Prod.snd (Except.ok.inj reads)).symm
      -- Digits may be followed by a backslash only, and the text holds none.
      rw [Bool.or_eq_true, not_or, ← behind] at fits
      cases left with
      | nil =>
          rfl
      | cons first rest =>
          have isBackslash : first = '\\' := by
            simpa using fits.2
          have member : first ∈ content :=
            (List.dropWhile_sublist _).mem (behind ▸ List.mem_cons_self)
          exact absurd (isBackslash ▸ member) absent

/-- A place holds nothing behind its port when the text has no backslash. -/
theorem left_eq_nil_of_readPlace
    {scheme content : List Char}
    {place : Place}
    (absent : '\\' ∉ content)
    (reads : readPlace scheme content = .ok place) :
    place.left = [] := by
  have inPort : ∀ port ∈ (splitPort false content).2, '\\' ∉ port :=
    not_mem_splitPort absent
  unfold readPlace at reads
  cases split : splitPort false content with
  | mk hostText portText =>
      rw [split] at reads inPort
      dsimp only at reads
      split at reads
      · cases reads
      · split at reads <;>
          obtain ⟨host, _, further⟩ := Json.bind_eq_ok.mp reads <;>
          cases portText with
          | none =>
              obtain ⟨port, readsPort, same⟩ := Json.bind_eq_ok.mp further
              cases same
              cases readsPort
              rfl
          | some digits =>
              obtain ⟨port, readsPort, same⟩ := Json.bind_eq_ok.mp further
              cases same
              exact left_eq_nil_of_readPort (inPort digits rfl) readsPort

theorem left_eq_nil_of_readAuthority
    {scheme content left : List Char}
    {authority : Authority}
    (absent : '\\' ∉ content)
    (reads : readAuthority scheme content = .ok (authority, left)) :
    left = [] := by
  unfold readAuthority at reads
  dsimp only at reads
  obtain ⟨place, readsPlace, further⟩ := Json.bind_eq_ok.mp reads
  split at further
  · cases further
  · cases further
    exact left_eq_nil_of_readPlace (not_mem_takeCredentials absent) readsPlace

/-! ## Addresses for the web -/

/-- The schemes of addresses for the web. -/
def IsWeb
    (scheme : List Char) : Prop :=
  scheme = "http".toList ∨ scheme = "https".toList

theorem IsWeb.special
    {scheme : List Char}
    (web : IsWeb scheme) :
    isSpecialScheme scheme = true := by
  rcases web with rfl | rfl <;>
    decide

theorem IsWeb.notFile
    {scheme : List Char}
    (web : IsWeb scheme) :
    isFileScheme scheme = false := by
  rcases web with rfl | rfl <;>
    decide

/-- What stands between the slashes behind a scheme and the path. -/
def authorityPart
    (scheme rest : List Char) : List Char :=
  (rest.dropWhile isEitherSlash).takeWhile fun c => !isSlash scheme c

/-- What stands behind the authority. -/
def pathPart
    (scheme rest : List Char) : List Char :=
  (rest.dropWhile isEitherSlash).dropWhile fun c => !isSlash scheme c

section
variable {scheme : List Char} (web : IsWeb scheme)
include web

theorem IsWeb.backslash_not_mem_authorityPart
    (rest : List Char) :
    '\\' ∉ authorityPart scheme rest := by
  intro member
  have stays := List.all_eq_true.mp List.all_takeWhile _ member
  simp [isSlash, web.special] at stays

/-- An address for the web needs a host. -/
theorem IsWeb.ne_of_readAuthority
    {content : List Char}
    {result : Authority × List Char}
    (reads : readAuthority scheme content = .ok result) :
    content ≠ [] ∧ content ≠ ['@'] := by
  have noHost : readPlace scheme [] = .error .emptyHost := by
    simp [readPlace, splitPort, web.special]
  have noCredentials : (takeCredentials ['@']).2 = [] := by
    decide
  unfold readAuthority at reads
  dsimp only at reads
  obtain ⟨place, readsPlace, _⟩ := Json.bind_eq_ok.mp reads
  constructor
  · rintro rfl
    exact nomatch noHost.symm.trans readsPlace
  · rintro rfl
    rw [noCredentials] at readsPlace
    exact nomatch noHost.symm.trans readsPlace

/-- Behind its slashes such an address is an authority, to its end, and a path. -/
theorem IsWeb.readAfterSlashes_eq_ok_iff
    {rest : List Char}
    {reference : Reference}
    {url : Url} :
    readAfterSlashes scheme (rest.dropWhile isEitherSlash) reference = .ok url ↔
      ∃ authority,
        readAuthority scheme (authorityPart scheme rest) = .ok (authority, [])
          ∧ url =
            assemble scheme (some authority) (pathAfterHost scheme (pathPart scheme rest))
              reference := by
  have noBackslash := web.backslash_not_mem_authorityPart rest
  unfold readAfterSlashes
  dsimp only
  constructor
  · intro reads
    split at reads
    · cases reads
    · obtain ⟨⟨authority, left⟩, readsAuthority, same⟩ := Json.bind_eq_ok.mp reads
      obtain rfl := left_eq_nil_of_readAuthority noBackslash readsAuthority
      cases same
      exact ⟨authority, readsAuthority, rfl⟩
  · rintro ⟨authority, readsAuthority, rfl⟩
    split
    next alone =>
        rw [Bool.and_eq_true, decide_eq_true_eq] at alone
        exact absurd alone.1 (web.ne_of_readAuthority readsAuthority).2
    next =>
        exact Json.bind_eq_ok.mpr ⟨(authority, []), readsAuthority, rfl⟩

end

/-- The address of a file has the scheme under which it is read. -/
theorem scheme_of_readFile
    {scheme : List Char}
    {reference : Reference}
    {url : Url}
    (reads : readFile scheme none reference = .ok url) :
    url.scheme = scheme := by
  have behindSlashes :
      ∀ {content : List Char},
        readFileAfterSlashes scheme content reference = .ok url → url.scheme = scheme := by
    intro content reads
    unfold readFileAfterSlashes at reads
    dsimp only at reads
    split at reads
    · cases reads
      rfl
    · obtain ⟨host, _, further⟩ := Json.bind_eq_ok.mp reads
      split at further <;>
        cases further <;>
        rfl
  unfold readFile at reads
  split at reads
  · cases reads
    rfl
  split at reads
  · split at reads
    · split at reads
      · exact behindSlashes reads
      split at reads <;>
        cases reads <;>
        rfl
    · cases reads
      rfl
  · split at reads <;>
      cases reads <;>
      rfl

theorem scheme_of_readAfterSlashes
    {scheme content : List Char}
    {reference : Reference}
    {url : Url}
    (reads : readAfterSlashes scheme content reference = .ok url) :
    url.scheme = scheme := by
  unfold readAfterSlashes at reads
  dsimp only at reads
  split at reads
  · cases reads
  · obtain ⟨⟨authority, left⟩, _, same⟩ := Json.bind_eq_ok.mp reads
    cases same
    rfl

/-- An address has the scheme that its text begins with. -/
theorem takeScheme?_of_read
    {content : List Char}
    {url : Url}
    (reads : read none content = .ok url) :
    ∃ rest, takeScheme? (Reference.ofText (cleaned content)).body = some (url.scheme, rest) := by
  unfold read at reads
  dsimp only at reads
  split at reads
  · cases reads
  next scheme rest takes =>
      suffices same : url.scheme = scheme from ⟨rest, same ▸ takes⟩
      split at reads
      · exact scheme_of_readFile reads
      split at reads
      · exact scheme_of_readAfterSlashes reads
      unfold readPlain at reads
      split at reads
      · exact scheme_of_readAfterSlashes reads
      all_goals
        cases reads
        rfl

/-- An address for the web is what its text spells behind the scheme. -/
theorem read_eq_ok_iff_of_web
    {content : List Char}
    {url : Url}
    (web : IsWeb url.scheme) :
    read none content = .ok url ↔
      ∃ rest authority,
        takeScheme? (Reference.ofText (cleaned content)).body = some (url.scheme, rest)
          ∧ readAuthority url.scheme (authorityPart url.scheme rest) = .ok (authority, [])
          ∧ url =
            assemble url.scheme (some authority)
              (pathAfterHost url.scheme (pathPart url.scheme rest))
              (Reference.ofText (cleaned content)) := by
  have afterScheme :
      ∀ {rest},
        takeScheme? (Reference.ofText (cleaned content)).body = some (url.scheme, rest) →
          read none content =
            readAfterSlashes url.scheme (rest.dropWhile isEitherSlash)
              (Reference.ofText (cleaned content)) := by
    intro rest takes
    unfold read
    simp only [takes, web.notFile, web.special, Bool.false_eq_true, if_false, if_true]
    rfl
  constructor
  · intro reads
    obtain ⟨rest, takes⟩ := takeScheme?_of_read reads
    rw [afterScheme takes, web.readAfterSlashes_eq_ok_iff] at reads
    obtain ⟨authority, readsAuthority, same⟩ := reads
    exact ⟨rest, authority, takes, readsAuthority, same⟩
  · rintro ⟨rest, authority, takes, readsAuthority, same⟩
    rw [afterScheme takes, web.readAfterSlashes_eq_ok_iff]
    exact ⟨authority, readsAuthority, same⟩

end QueryAgent.Url

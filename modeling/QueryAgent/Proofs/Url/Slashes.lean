import QueryAgent.Proofs.Url.Segments
import QueryAgent.Proofs.Url.Web

namespace QueryAgent.Url

/-!
# Slashes at the end of a path

A slash behind the text of a path opens the path when none is there, and leaves
the rest of the address as it is; so the text is read as the opened address.
-/

/-! ## Paths and their texts -/

/-- What follows a scheme is slashes, an authority and a path. -/
theorem exists_eq_append_pathPart
    (scheme rest : List Char) :
    ∃ slashes, rest = slashes ++ (authorityPart scheme rest ++ pathPart scheme rest) := by
  refine ⟨rest.takeWhile isEitherSlash, ?_⟩
  rw [authorityPart, pathPart, List.takeWhile_append_dropWhile, List.takeWhile_append_dropWhile]

/-- A slash at the end belongs to the path where there is an authority. -/
theorem parts_append_slash
    {scheme rest : List Char}
    (nonempty : authorityPart scheme rest ≠ []) :
    authorityPart scheme (rest ++ ['/']) = authorityPart scheme rest
      ∧ pathPart scheme (rest ++ ['/']) = pathPart scheme rest ++ ['/'] := by
  have stops : (fun c => !isSlash scheme c) '/' = false := by
    simp [isSlash]
  -- The authority ends the run of slashes behind the scheme, which the new one is not part of.
  have starts : (rest.dropWhile isEitherSlash).isEmpty = false := by
    refine Bool.eq_false_iff.mpr fun empty => nonempty ?_
    rw [authorityPart, List.isEmpty_iff.mp empty, List.takeWhile_nil]
  have goesOn :
      (rest ++ ['/']).dropWhile isEitherSlash = rest.dropWhile isEitherSlash ++ ['/'] := by
    rw [List.dropWhile_append, starts]
    rfl
  rw [authorityPart, pathPart, goesOn]
  exact ⟨Text.takeWhile_append_cons stops _ [], Text.dropWhile_append_cons stops _ []⟩

/-- The text of a path behind the slash that it begins with. -/
def behindFirstSlash : List Char → List Char
  | [] =>
      []
  | first :: rest =>
      if isEitherSlash first then rest else first :: rest

theorem behindFirstSlash_append
    {content : List Char}
    (nonempty : content ≠ [])
    (behind : List Char) :
    behindFirstSlash (content ++ behind) = behindFirstSlash content ++ behind := by
  cases content with
  | nil =>
      exact absurd rfl nonempty
  | cons first rest =>
      rw [List.cons_append, behindFirstSlash, behindFirstSlash, ← List.cons_append]
      split <;>
        rfl

section
variable {scheme : List Char} (web : IsWeb scheme)
include web

/-- In addresses for the web both slashes end a segment. -/
theorem IsWeb.isSlash
    (character : Char) :
    isSlash scheme character = isEitherSlash character := by
  rw [Url.isSlash, web.special, Bool.and_true, isEitherSlash]

/-- The segments of a path are those that its text adds to none. -/
theorem IsWeb.resolve_eq
    (content : List Char) :
    resolve scheme [] content =
      addSegments false [] ((Text.splitAll (Url.isSlash scheme) content).map
        (encode reservedInPath)) := by
  simp only [resolve, extended, web.notFile, Bool.false_eq_true, if_false]

/-- A path that ends in a slash is open. -/
theorem IsWeb.resolve_append_slash
    {slash : Char}
    (isSlash : isEitherSlash slash = true)
    (content : List Char) :
    ∃ place, resolve scheme [] (content ++ [slash]) = place ++ [[]] := by
  rw [web.resolve_eq, splitAll_append_separator ((web.isSlash slash).trans isSlash),
    List.map_append]
  exact exists_addSegments_append_nil _ _

/-- A slash behind a path that does not end in one opens it. -/
theorem IsWeb.resolve_append_singleton_append_slash
    {last : Char}
    (noSlash : isEitherSlash last = false)
    (content : List Char) :
    resolve scheme [] (content ++ [last] ++ ['/']) =
      withOpenEnd (resolve scheme [] (content ++ [last])) := by
  obtain ⟨earlier, part, parts⟩ :=
    exists_splitAll_append ((web.isSlash last).trans noSlash) content
  rw [web.resolve_eq, web.resolve_eq,
    splitAll_append_separator ((web.isSlash '/').trans (by decide)), parts]
  simp only [List.map_append, List.map_cons, List.map_nil]
  exact addSegments_append_nil (encode_append_singleton_ne_nil _ _ _) _ _

/-- Behind a host comes the path, as segments. -/
theorem IsWeb.pathAfterHost_eq
    (content : List Char) :
    pathAfterHost scheme content = .segments (resolve scheme [] (behindFirstSlash content)) := by
  cases content with
  | nil =>
      rw [pathAfterHost, if_pos web.special, behindFirstSlash, web.resolve_eq]
      rfl
  | cons first rest =>
      rw [pathAfterHost, behindFirstSlash, web.isSlash]

/-- No segment of a path holds a slash. -/
theorem IsWeb.slash_not_mem_resolve
    {content part : List Char}
    (isPart : part ∈ resolve scheme [] content) :
    '/' ∉ part := by
  intro member
  rw [web.resolve_eq] at isPart
  rcases mem_of_mem_addSegments isPart with none | spelled | rfl
  · cases none
  · obtain ⟨text, isText, rfl⟩ := List.mem_map.mp spelled
    have stays := (Text.mem_of_mem_splitAll isText (slash_mem_of_mem_encode member).1).2
    simp [Url.isSlash] at stays
  · cases member

/-- A path that is empty or ends in a slash is open. -/
theorem IsWeb.exists_resolve_eq_of_open
    {content : List Char}
    (ends : ∀ last ∈ content.getLast?, isEitherSlash last = true) :
    ∃ place, resolve scheme [] (behindFirstSlash content) = place ++ [[]] := by
  have noSegments : resolve scheme [] [] = [[]] := by
    rw [web.resolve_eq]
    rfl
  rcases List.eq_nil_or_concat content with rfl | ⟨init, last, rfl⟩
  · exact ⟨[], noSegments⟩
  · have isSlash : isEitherSlash last = true := ends last (by simp)
    cases init with
    | nil =>
        rw [List.concat_eq_append, List.nil_append, behindFirstSlash, if_pos isSlash]
        exact ⟨[], noSegments⟩
    | cons first init =>
        rw [List.concat_eq_append, behindFirstSlash_append (List.cons_ne_nil _ _)]
        exact web.resolve_append_slash isSlash _

/-- A slash behind a path that does not end in one opens it. -/
theorem IsWeb.resolve_append_of_closed
    {content : List Char}
    (ends : ∀ last ∈ content.getLast?, isEitherSlash last = false) :
    resolve scheme [] (behindFirstSlash (content ++ ['/'])) =
      withOpenEnd (resolve scheme [] (behindFirstSlash content)) := by
  rcases List.eq_nil_or_concat content with rfl | ⟨init, last, rfl⟩
  · have noSegments : resolve scheme [] [] = [[]] := by
      rw [web.resolve_eq]
      rfl
    exact noSegments.trans (congrArg withOpenEnd noSegments).symm
  · have noSlash : isEitherSlash last = false := ends last (by simp)
    rw [List.concat_eq_append, behindFirstSlash_append (by simp)]
    cases init with
    | nil =>
        rw [List.nil_append, behindFirstSlash, if_neg (Bool.eq_false_iff.mp noSlash)]
        exact web.resolve_append_singleton_append_slash noSlash []
    | cons first init =>
        rw [behindFirstSlash_append (List.cons_ne_nil _ _)]
        exact web.resolve_append_singleton_append_slash noSlash _

end

/-! ## Opened addresses -/

/-- A path with a slash at its end, the one that it has or one more. -/
def endingInSlash
    (path : String) : String :=
  if path.toList.getLast? = some '/' then path else path ++ "/"

/-- The path of an address for the web is opened at its end and nowhere else. -/
theorem IsWeb.opened_eq
    {url : Url}
    {parts : List (List Char)}
    (web : IsWeb url.scheme)
    (isPath : url.path = .segments parts) :
    url.opened = { url with path := .segments (withOpenEnd parts) } := by
  have noDrive : withKeptDrive false parts = parts := by
    cases parts <;>
      rfl
  unfold opened withOpenEnd
  simp only [isPath, web.notFile, noDrive]
  split
  · rw [← isPath]
  · rfl

/-- An opened address is open already. -/
theorem IsWeb.opened_opened
    {url : Url}
    {parts : List (List Char)}
    (web : IsWeb url.scheme)
    (isPath : url.path = .segments parts) :
    url.opened.opened = url.opened := by
  obtain ⟨place, isOpen⟩ := exists_withOpenEnd_eq parts
  rw [web.opened_eq isPath, isOpen]
  refine (IsWeb.opened_eq (by exact web) rfl).trans ?_
  rw [withOpenEnd_append_nil]

/-- An address whose path has no segments gets none when it is opened. -/
theorem exists_path_opened_of_plain
    {url : Url}
    {content : List Char}
    (isPath : url.path = .plain content) :
    ∃ other, url.opened.path = .plain other := by
  unfold opened
  cases content with
  | nil =>
      simp [isPath]
  | cons first rest =>
      simp only [isPath]
      split
      · exact ⟨_, isPath⟩
      · exact ⟨_, rfl⟩

/-- Where no segment holds a slash, a path ends in one when its last segment is empty. -/
theorem getLast?_written_eq_iff
    {parts : List (List Char)}
    (noSlash : ∀ part ∈ parts, '/' ∉ part) :
    (Path.segments parts).written.getLast? = some '/' ↔ parts.getLast? = some [] := by
  rcases List.eq_nil_or_concat parts with rfl | ⟨init, last, rfl⟩
  · simp [Path.written]
  · have absent : '/' ∉ last := noSlash last (by simp)
    rcases List.eq_nil_or_concat last with rfl | ⟨front, final, rfl⟩
    · simp [Path.written]
    · have different : final ≠ '/' := by
        rintro rfl
        exact absent (by simp)
      have ends : ('/' :: (front ++ [final])).getLast? = some final := by
        rw [← List.cons_append, List.getLast?_concat]
      simp [Path.written, ends, different]

/-- Opened segments are written with a slash at their end. -/
theorem written_withOpenEnd
    {parts : List (List Char)}
    (noSlash : ∀ part ∈ parts, '/' ∉ part) :
    String.ofList (Path.segments (withOpenEnd parts)).written =
      endingInSlash (String.ofList (Path.segments parts).written) := by
  rw [endingInSlash, String.toList_ofList, withOpenEnd]
  simp only [getLast?_written_eq_iff noSlash]
  split
  · rfl
  · rw [← String.toList_inj]
    simp [Path.written]

/-- An address that was read for the web has segments, and no slash is in them. -/
theorem exists_path_of_read
    {content : List Char}
    {url : Url}
    (web : IsWeb url.scheme)
    (reads : read none content = .ok url) :
    ∃ parts, url.path = .segments parts ∧ ∀ part ∈ parts, '/' ∉ part := by
  obtain ⟨rest, authority, _, _, same⟩ := (read_eq_ok_iff_of_web web).mp reads
  exact
    ⟨_, (congrArg Url.path same).trans (web.pathAfterHost_eq _),
      fun _ isPart => web.slash_not_mem_resolve isPart⟩

/-- Opening an address for the web puts a slash behind its path where none is. -/
theorem pathText_opened_of_read
    {content : List Char}
    {url : Url}
    (web : IsWeb url.scheme)
    (reads : read none content = .ok url) :
    url.opened.pathText = endingInSlash url.pathText := by
  obtain ⟨parts, isPath, noSlash⟩ := exists_path_of_read web reads
  rw [web.opened_eq isPath, pathText, pathText, isPath]
  exact written_withOpenEnd noSlash

/-- Where no segment holds a slash, a path is written in a way of its own. -/
theorem written_inj
    {parts others : List (List Char)}
    (noSlash : ∀ part ∈ parts, '/' ∉ part)
    (otherNoSlash : ∀ part ∈ others, '/' ∉ part)
    (same : (Path.segments parts).written = (Path.segments others).written) :
    parts = others := by
  have joined :
      ∀ {first : List Char} {rest : List (List Char)},
        (Path.segments (first :: rest)).written = '/' :: ['/'].intercalate (first :: rest) := by
    intro first rest
    induction rest generalizing first with
    | nil =>
        simp [Path.written]
    | cons next rest inductionHypothesis =>
        rw [List.intercalate_cons_cons, List.append_assoc, List.singleton_append,
          ← inductionHypothesis]
        rfl
  cases parts with
  | nil =>
      cases others with
      | nil =>
          rfl
      | cons first rest =>
          rw [joined] at same
          cases same
  | cons first rest =>
      cases others with
      | nil =>
          rw [joined] at same
          cases same
      | cons other others =>
          rw [joined, joined] at same
          rw [← Text.splitAll_intercalate noSlash (List.cons_ne_nil _ _), (List.cons.inj same).2,
            Text.splitAll_intercalate otherNoSlash (List.cons_ne_nil _ _)]

/-- An address with one more slash at the end of its path is opened as that without is. -/
theorem opened_eq_of_pathText
    {content slashed : List Char}
    {url other : Url}
    (web : IsWeb url.scheme)
    (reads : read none content = .ok url)
    (readsOther : read none slashed = .ok other)
    (noSlash : url.pathText.toList.getLast? ≠ some '/')
    (alike : other = { url with path := other.path })
    (spelled : other.pathText = url.pathText ++ "/") :
    other.opened = url.opened := by
  have otherWeb : IsWeb other.scheme := by
    rw [alike]
    exact web
  obtain ⟨parts, isPath, partsNoSlash⟩ := exists_path_of_read web reads
  obtain ⟨others, isOtherPath, othersNoSlash⟩ := exists_path_of_read otherWeb readsOther
  have closed : parts.getLast? ≠ some [] := by
    rw [pathText, isPath, String.toList_ofList] at noSlash
    exact mt (getLast?_written_eq_iff partsNoSlash).mpr noSlash
  have opens : others = parts ++ [[]] := by
    refine written_inj othersNoSlash ?_ ?_
    · intro part member
      rcases List.mem_append.mp member with inParts | empty
      · exact partsNoSlash part inParts
      · rw [List.mem_singleton.mp empty]
        exact List.not_mem_nil
    · rw [pathText, pathText, isPath, isOtherPath, ← String.toList_inj] at spelled
      simpa [Path.written] using spelled
  rw [web.opened_eq isPath, otherWeb.opened_eq isOtherPath, opens, withOpenEnd_append_nil,
    withOpenEnd, if_neg closed, alike]

/-- A text without its query and its fragment. -/
def bodyOf
    (content : List Char) : List Char :=
  (Reference.ofText (cleaned content)).body

/-- Two texts that differ in a slash at the end of what stands before query and fragment. -/
def SlashAdded
    (content slashed : List Char) : Prop :=
  Reference.ofText (cleaned slashed) =
    { Reference.ofText (cleaned content) with body := bodyOf content ++ ['/'] }

/-- A text that does not end in a slash of either kind before its query and its fragment. -/
def Closed
    (content : List Char) : Prop :=
  ∀ last ∈ (bodyOf content).getLast?, isEitherSlash last = false

/-- A mark that ends the path of an address. -/
def EndsPath
    (character : Char) : Prop :=
  character = '?' ∨ character = '#'

/-- What stands before all marks that end a path belongs to the body. -/
theorem ofText_append
    {front : List Char}
    (noQuestion : '?' ∉ front)
    (noNumber : '#' ∉ front)
    (behind : List Char) :
    Reference.ofText (front ++ behind) =
      { Reference.ofText behind with body := front ++ (Reference.ofText behind).body } := by
  unfold Reference.ofText
  rw [Text.splitFirst?_append_of_not_mem noNumber]
  cases Text.splitFirst? '#' behind with
  | none =>
      simp only [Option.map_none, Text.splitFirst?_append_of_not_mem noQuestion]
      cases Text.splitFirst? '?' behind <;>
        rfl
  | some parts =>
      simp only [Option.map_some, Text.splitFirst?_append_of_not_mem noQuestion]
      cases Text.splitFirst? '?' parts.1 <;>
        rfl

/-- What begins with a mark that ends a path has no body. -/
theorem ofText_body_of_endsPath
    {behind : List Char}
    (ends : ∀ first ∈ behind.head?, EndsPath first) :
    (Reference.ofText behind).body = [] := by
  cases behind with
  | nil =>
      rfl
  | cons first rest =>
      have marks : ∀ rest, Text.splitFirst? first (first :: rest) = some ([], rest) :=
        Text.splitFirst?_append_cons (List.not_mem_nil)
      rcases ends first rfl with rfl | rfl
      case inl =>
          have noNumber : '#' ∉ ['?'] := by
            decide
          unfold Reference.ofText
          rw [← List.singleton_append, Text.splitFirst?_append_of_not_mem noNumber]
          cases Text.splitFirst? '#' rest <;>
            simp [marks]
      case inr =>
          unfold Reference.ofText
          rw [marks]
          rfl

/-- What is kept of a text that something else follows. -/
def keptFront
    (content : List Char) : List Char :=
  (content.dropWhile isMargin).filter fun character => !isDropped character

/-- What is kept of a text that stands behind something else. -/
def keptEnd
    (content : List Char) : List Char :=
  (content.reverse.dropWhile isMargin).reverse.filter fun character => !isDropped character

theorem isDropped_eq_false_of_isMargin
    {character : Char}
    (noMargin : isMargin character = false) :
    isDropped character = false := by
  rw [isMargin, decide_eq_false_iff_not] at noMargin
  simp only [isDropped, Bool.or_eq_false_iff, decide_eq_false_iff_not]
  refine ⟨⟨?tab, ?newline⟩, ?carriageReturn⟩ <;>
    rintro rfl <;>
    exact noMargin (by decide)

/-- A character that is no margin is kept, and margins behind it are left out at the end only. -/
theorem keptEnd_cons
    {character : Char}
    (noMargin : isMargin character = false)
    (behind : List Char) :
    keptEnd (character :: behind) = character :: keptEnd behind := by
  rw [keptEnd, List.reverse_cons, Text.dropWhile_append_cons noMargin, List.reverse_append]
  simp [isDropped_eq_false_of_isMargin noMargin, keptEnd]

/-- A character that is no margin is kept between what is kept on both sides of it. -/
theorem cleaned_append_cons
    {character : Char}
    (noMargin : isMargin character = false)
    (front behind : List Char) :
    cleaned (front ++ character :: behind) = keptFront front ++ character :: keptEnd behind := by
  rw [cleaned, Text.dropWhile_append_cons noMargin, List.reverse_append, List.reverse_cons,
    List.append_assoc, List.singleton_append, Text.dropWhile_append_cons noMargin]
  simp [isDropped_eq_false_of_isMargin noMargin, keptFront, keptEnd]

/-- A slash is added by writing it behind a path, in front of the query and the fragment. -/
theorem slashAdded_insert
    {front behind : List Char}
    {last : Char}
    (noMargin : isMargin last = false)
    (noQuestion : '?' ∉ front ++ [last])
    (noNumber : '#' ∉ front ++ [last])
    (ends : ∀ first ∈ behind.head?, EndsPath first) :
    SlashAdded (front ++ last :: behind) (front ++ last :: '/' :: behind) := by
  have kept : keptFront front ++ [last] ⊆ front ++ [last] := by
    have front : (keptFront front).Sublist front :=
      List.filter_sublist.trans (List.dropWhile_sublist _)
    exact (front.append_right [last]).subset
  have marked : ∀ first ∈ (keptEnd behind).head?, EndsPath first := by
    cases behind with
    | nil =>
        exact nofun
    | cons mark rest =>
        have isMark : EndsPath mark := ends mark rfl
        have noMargin : isMargin mark = false := by
          rcases isMark with rfl | rfl <;>
            decide
        rw [keptEnd_cons noMargin]
        intro first same
        cases same
        exact isMark
  have noBody := ofText_body_of_endsPath marked
  have cut :
      ∀ between,
        '?' ∉ between → '#' ∉ between →
          Reference.ofText (keptFront front ++ last :: (between ++ keptEnd behind)) =
            { Reference.ofText (keptEnd behind) with
              body := keptFront front ++ [last] ++ between } := by
    intro between questionAbsent numberAbsent
    have question : '?' ∉ keptFront front ++ [last] ++ between := by
      rw [List.mem_append, not_or]
      exact ⟨fun member => noQuestion (kept member), questionAbsent⟩
    have number : '#' ∉ keptFront front ++ [last] ++ between := by
      rw [List.mem_append, not_or]
      exact ⟨fun member => noNumber (kept member), numberAbsent⟩
    have grouped :
        keptFront front ++ last :: (between ++ keptEnd behind) =
          keptFront front ++ [last] ++ between ++ keptEnd behind := by
      simp
    rw [grouped, ofText_append question number, noBody, List.append_nil]
  have whole := cut [] (by simp) (by simp)
  have slashed := cut ['/'] (by decide) (by decide)
  rw [SlashAdded, bodyOf, cleaned_append_cons noMargin, cleaned_append_cons noMargin,
    keptEnd_cons (by decide)]
  rw [List.nil_append, List.append_nil] at whole
  rw [List.singleton_append] at slashed
  rw [slashed, whole]

/-- The text of an address ends with that of its path. -/
theorem exists_bodyOf_eq
    {content scheme rest : List Char}
    (takes : takeScheme? (bodyOf content) = some (scheme, rest)) :
    ∃ front, bodyOf content = front ++ pathPart scheme rest := by
  obtain ⟨first, others, whole, -⟩ := takeScheme?_eq_some_iff.mp takes
  obtain ⟨slashes, parts⟩ := exists_eq_append_pathPart scheme rest
  refine ⟨first :: others ++ ':' :: (slashes ++ authorityPart scheme rest), ?_⟩
  rw [whole]
  nth_rewrite 1 [parts]
  simp

/-- An address whose path does not end in a slash has no slash at the end of its text. -/
theorem closed_of_read
    {content : List Char}
    {url : Url}
    (web : IsWeb url.scheme)
    (reads : read none content = .ok url)
    (noSlash : url.pathText.toList.getLast? ≠ some '/') :
    Closed content := by
  obtain ⟨rest, authority, takes, _, same⟩ := (read_eq_ok_iff_of_web web).mp reads
  obtain ⟨front, whole⟩ := exists_bodyOf_eq takes
  have isPath := (congrArg Url.path same).trans (web.pathAfterHost_eq _)
  intro last member
  rw [← Bool.not_eq_true]
  intro isSlash
  have ends : ∀ other ∈ (pathPart url.scheme rest).getLast?, isEitherSlash other = true := by
    intro other isLast
    rw [whole, List.getLast?_append, Option.mem_def.mp isLast] at member
    cases member
    exact isSlash
  obtain ⟨place, isOpen⟩ := web.exists_resolve_eq_of_open ends
  rw [pathText, isPath, isOpen] at noSlash
  exact noSlash (by simp [Path.written])

/-- With a slash behind its path the text of an address is read as the opened address. -/
theorem read_slashed
    {content slashed : List Char}
    {url : Url}
    (web : IsWeb url.scheme)
    (reads : read none content = .ok url)
    (added : SlashAdded content slashed)
    (closed : Closed content) :
    read none slashed = .ok url.opened := by
  obtain ⟨rest, authority, takes, readsAuthority, same⟩ := (read_eq_ok_iff_of_web web).mp reads
  obtain ⟨front, whole⟩ := exists_bodyOf_eq takes
  obtain ⟨sameAuthority, samePath⟩ :=
    parts_append_slash (web.ne_of_readAuthority readsAuthority).1
  have ends : ∀ last ∈ (pathPart url.scheme rest).getLast?, isEitherSlash last = false := by
    intro last isLast
    refine closed last ?_
    rw [whole, List.getLast?_append, Option.mem_def.mp isLast]
    rfl
  have isPath := (congrArg Url.path same).trans (web.pathAfterHost_eq _)
  rw [web.opened_eq isPath, ← web.resolve_append_of_closed ends, ← samePath,
    ← web.pathAfterHost_eq]
  refine
    (read_eq_ok_iff_of_web (by exact web)).mpr
      ⟨rest ++ ['/'], authority, ?takes, ?authority, ?same⟩
  case takes =>
      rw [added]
      exact takeScheme?_append takes _
  case authority =>
      rw [sameAuthority]
      exact readsAuthority
  case same =>
      rw [added]
      exact
        congrArg
          (fun read : Url =>
            { read with path := pathAfterHost url.scheme (pathPart url.scheme (rest ++ ['/'])) })
          same

end QueryAgent.Url

import QueryAgent.Proofs.Text.Split
import QueryAgent.Proofs.Url.Reading

namespace QueryAgent.Url

/-!
# Paths joined to a base

A relative path of letters, digits and slashes is joined to an open base
segment by segment: no segment of it is a dot, a drive or in percent form, so
the whole path of the base stays in front and all of the relative path follows.
-/

/-! ## Plain paths -/

/-- A path of letters, digits and slashes that does not begin with a slash. -/
structure PlainPath
    (content : List Char) : Prop where
  characters : ∀ character ∈ content, character = '/' ∨ character.isAlphanum = true
  opens : ∃ first rest, content = first :: rest ∧ first.isAlphanum = true

/-- A segment of letters and digits, perhaps of none. -/
def PlainSegment
    (segment : List Char) : Prop :=
  ∀ character ∈ segment, character.isAlphanum = true

theorem PlainPath.of_all
    {content : List Char}
    (characters :
      content.all (fun character => decide (character = '/') || character.isAlphanum) = true)
    (opens : content.head?.any Char.isAlphanum = true) :
    PlainPath content := by
  refine ⟨fun character member => ?_, ?_⟩
  · simpa using List.all_eq_true.mp characters character member
  · cases content with
    | nil =>
        cases opens
    | cons first rest =>
        exact ⟨first, rest, rfl, opens⟩

theorem PlainSegment.of_all
    {segment : List Char}
    (characters : segment.all Char.isAlphanum = true) :
    PlainSegment segment :=
  List.all_eq_true.mp characters

/-- What stands between the slashes of a path. -/
def pathSegments
    (content : List Char) : List (List Char) :=
  Text.splitAll (fun character => decide (character = '/')) content

/-- A path is its segments with slashes between them. -/
theorem append_flatMap_of_pathSegments
    {content first : List Char}
    {rest : List (List Char)}
    (split : pathSegments content = first :: rest) :
    first ++ rest.flatMap (fun part => '/' :: part) = content := by
  induction content generalizing first rest with
  | nil =>
      cases split
      rfl
  | cons character content inductionHypothesis =>
      rw [pathSegments, Text.splitAll, ← pathSegments] at split
      cases further : pathSegments content with
      | nil =>
          exact absurd further (Text.splitAll_ne_nil _ _)
      | cons next others =>
          have joined := inductionHypothesis further
          rw [further] at split
          split at split
          next isSlash =>
              cases split
              obtain rfl := of_decide_eq_true isSlash
              rw [List.nil_append, List.flatMap_cons, List.cons_append, joined]
          next =>
              cases split
              rw [List.cons_append, joined]

/-- The address with further segments behind the place where its path is open. -/
def below
    (base : Url)
    (place segments : List (List Char)) : Url :=
  { base with
    path := .segments (place ++ segments)
    query := none
    fragment := none }

/-- Letters and digits lie between two codes of ASCII. -/
theorem bounds_of_isAlphanum
    {character : Char}
    (alphanum : character.isAlphanum = true) :
    0x20 < character.toNat ∧ character.toNat < 0x7f := by
  have between :
      ∀ least greatest : UInt32,
        character.val ≥ least ∧ character.val ≤ greatest →
          least.toNat ≤ character.toNat ∧ character.toNat ≤ greatest.toNat := by
    intro least greatest inside
    exact ⟨UInt32.le_iff_toNat_le.mp inside.1, UInt32.le_iff_toNat_le.mp inside.2⟩
  rcases Bool.or_eq_true_iff.mp alphanum with alpha | digit
  · rcases Bool.or_eq_true_iff.mp alpha with upper | lower
    · have bounds : 65 ≤ character.toNat ∧ character.toNat ≤ 90 :=
        between 65 90 (of_decide_eq_true upper)
      omega
    · obtain ⟨above, below⟩ := Bool.and_eq_true_iff.mp lower
      have bounds : 97 ≤ character.toNat ∧ character.toNat ≤ 122 :=
        between 97 122 ⟨of_decide_eq_true above, of_decide_eq_true below⟩
      omega
  · obtain ⟨above, below⟩ := Bool.and_eq_true_iff.mp digit
    have bounds : 48 ≤ character.toNat ∧ character.toNat ≤ 57 :=
      between 48 57 ⟨of_decide_eq_true above, of_decide_eq_true below⟩
    omega

/-- A character of a plain path is none that has a meaning of its own. -/
theorem PlainPath.not_mem
    {content : List Char}
    (plain : PlainPath content)
    {mark : Char}
    (noSlash : mark ≠ '/')
    (noAlphanum : mark.isAlphanum = false) :
    mark ∉ content := by
  intro member
  rcases plain.characters mark member with slash | alphanum
  · exact noSlash slash
  · rw [noAlphanum] at alphanum
    cases alphanum

theorem PlainSegment.not_mem
    {segment : List Char}
    (plain : PlainSegment segment)
    {mark : Char}
    (noAlphanum : mark.isAlphanum = false) :
    mark ∉ segment := by
  intro member
  rw [plain mark member] at noAlphanum
  cases noAlphanum

theorem PlainPath.plainSegment
    {content segment : List Char}
    (plain : PlainPath content)
    (member : segment ∈ pathSegments content) :
    PlainSegment segment := by
  intro character inside
  obtain ⟨inContent, stays⟩ := Text.mem_of_mem_splitAll member inside
  exact (plain.characters character inContent).resolve_left (by simpa using stays)

/-- The first segment of a plain path is not empty. -/
theorem PlainPath.pathSegments_eq_cons
    {content : List Char}
    (plain : PlainPath content) :
    ∃ first rest, pathSegments content = first :: rest ∧ first ≠ [] := by
  obtain ⟨first, rest, rfl, alphanum⟩ := plain.opens
  have stays : ¬ decide (first = '/') = true := by
    rw [decide_eq_true_eq]
    rintro rfl
    cases alphanum
  rw [pathSegments, Text.splitAll, if_neg stays]
  split
  · exact ⟨_, _, rfl, List.cons_ne_nil _ _⟩
  next none =>
      exact absurd none (Text.splitAll_ne_nil _ _)

/-! ## Plain segments -/

/-- A plain segment is written as it is where no letter or digit is reserved. -/
theorem PlainSegment.encode
    {segment : List Char}
    (plain : PlainSegment segment)
    {reserved : Reserved}
    (noAlphanum : reserved.all (fun mark => !mark.isAlphanum) = true) :
    encode reserved segment = segment := by
  induction segment with
  | nil =>
      rfl
  | cons character rest inductionHypothesis =>
      have alphanum := plain character (by simp)
      have bounds := bounds_of_isAlphanum alphanum
      have unreserved : reserved.contains character = false := by
        refine Bool.eq_false_iff.mpr fun contained => ?_
        have excluded := List.all_eq_true.mp noAlphanum _ (List.contains_iff_mem.mp contained)
        rw [alphanum] at excluded
        cases excluded
      have kept : isEscaped reserved character = false := by
        simp only [isEscaped, unreserved, Bool.or_eq_false_iff, decide_eq_false_iff_not,
          and_true]
        omega
      rw [Url.encode, List.flatMap_cons, encodeChar, if_neg (Bool.eq_false_iff.mp kept)]
      exact
        congrArg (character :: ·)
          (inductionHypothesis fun other member => plain other (by simp [member]))

section
variable {segment : List Char} (plain : PlainSegment segment)
include plain

/-- A plain segment is none of some texts each of which holds another mark. -/
theorem PlainSegment.contains_eq_false
    {texts : List String}
    (marked : ∀ text ∈ texts, text.toList.any (fun mark => !mark.isAlphanum) = true) :
    texts.contains (String.ofList segment) = false := by
  refine Bool.eq_false_iff.mpr fun contained => ?_
  obtain ⟨mark, inside, noAlphanum⟩ :=
    List.any_eq_true.mp (marked _ (List.contains_iff_mem.mp contained))
  exact plain.not_mem (by simpa using noAlphanum) (by simpa using inside)

theorem PlainSegment.isSingleDot :
    isSingleDot segment = false :=
  plain.contains_eq_false (by decide)

theorem PlainSegment.isDoubleDot :
    isDoubleDot segment = false :=
  plain.contains_eq_false (by decide)

theorem PlainSegment.isDriveLetter :
    isDriveLetter segment = false := by
  refine Bool.eq_false_iff.mpr fun drive => ?_
  unfold Url.isDriveLetter at drive
  split at drive
  next letter mark =>
      simp only [isDriveMark, Bool.and_eq_true, Bool.or_eq_true, decide_eq_true_eq] at drive
      have alphanum := plain mark (by simp)
      rcases drive.2 with rfl | rfl <;>
        cases alphanum
  next =>
      cases drive

end

/-- Plain segments are added as they are. -/
theorem addSegments_plain
    (isFile : Bool)
    (before : List (List Char))
    {segments : List (List Char)}
    (plain : ∀ segment ∈ segments, PlainSegment segment) :
    addSegments isFile before segments = before ++ segments := by
  have kept :
      ∀ before, ∀ segment ∈ segments, keptSegment isFile before segment = segment := by
    intro before segment member
    rw [keptSegment, (plain segment member).isDriveLetter, Bool.and_false]
    rfl
  fun_induction addSegments isFile before segments with
  | case1 before =>
      exact (List.append_nil _).symm
  | case2 before last dots =>
      rw [(plain last (by simp)).isDoubleDot] at dots
      cases dots
  | case3 before last _ dot =>
      rw [(plain last (by simp)).isSingleDot] at dot
      cases dot
  | case4 before last =>
      rw [kept before last (by simp)]
  | case5 before segment rest _ dots =>
      rw [(plain segment (by simp)).isDoubleDot] at dots
      cases dots
  | case6 before segment rest _ _ dot =>
      rw [(plain segment (by simp)).isSingleDot] at dot
      cases dot
  | case7 before segment rest _ _ _ inductionHypothesis =>
      rw [inductionHypothesis (fun other member => plain other (by simp [member]))
          fun before other member => kept before other (by simp [member]),
        kept before segment (by simp), List.append_assoc, List.singleton_append]

/-! ## Joining -/

section
variable {content : List Char} (plain : PlainPath content)
include plain

theorem PlainPath.cleaned :
    cleaned content = content := by
  have noMargin : ∀ character ∈ content, isMargin character = false := by
    intro character member
    rw [isMargin, decide_eq_false_iff_not]
    rcases plain.characters character member with rfl | alphanum
    · decide
    · have := bounds_of_isAlphanum alphanum
      omega
  have starts : ∀ {characters : List Char},
      (∀ character ∈ characters, isMargin character = false) →
        characters.dropWhile isMargin = characters := by
    intro characters none
    cases characters with
    | nil =>
        rfl
    | cons first rest =>
        rw [List.dropWhile_cons, none first (by simp)]
        rfl
  have kept : ∀ character ∈ content, (!isDropped character) = true := by
    intro character member
    simp only [isDropped, Bool.not_eq_true', Bool.or_eq_false_iff, decide_eq_false_iff_not]
    refine ⟨⟨?tab, ?newline⟩, ?carriageReturn⟩ <;>
      rintro rfl <;>
      exact plain.not_mem (by decide) (by decide) member
  rw [Url.cleaned, starts noMargin, starts fun character member =>
    noMargin character (List.mem_reverse.mp member), List.reverse_reverse]
  exact List.filter_eq_self.mpr kept

theorem PlainPath.reference :
    Reference.ofText content = ⟨content, none, none⟩ := by
  rw [Reference.ofText, Text.splitFirst?_of_not_mem (plain.not_mem (by decide) (by decide))]
  simp only
  rw [Text.splitFirst?_of_not_mem (plain.not_mem (by decide) (by decide))]

/-- Without a colon there is no scheme. -/
theorem PlainPath.takeScheme? :
    takeScheme? content = none := by
  have noColon : ':' ∉ content := plain.not_mem (by decide) (by decide)
  unfold Url.takeScheme?
  split
  next first rest =>
      split
      next after found =>
          have member : ':' ∈ rest.dropWhile isSchemeChar := by
            simp [found]
          exact
            absurd (List.mem_cons_of_mem _ (List.dropWhile_sublist _ |>.mem member)) noColon
      next =>
          rfl
  next =>
      rfl

theorem PlainPath.startsWithDrive :
    startsWithDrive content = false := by
  refine Bool.eq_false_iff.mpr fun drive => ?_
  rw [Url.startsWithDrive] at drive
  have segment : PlainSegment (content.takeWhile fun c => !isEitherSlash c) := by
    intro character member
    have inside := List.all_eq_true.mp List.all_takeWhile character member
    refine
      (plain.characters character ((List.takeWhile_sublist _).mem member)).resolve_left ?_
    rintro rfl
    cases inside
  rw [segment.isDriveLetter] at drive
  cases drive

/-- A plain path adds its segments to any place. -/
theorem PlainPath.extended
    (scheme : List Char)
    (before : List (List Char)) :
    extended scheme before content = before ++ pathSegments content := by
  have slashes :
      Text.splitAll (isSlash scheme) content = pathSegments content := by
    refine Text.splitAll_congr fun character member => ?_
    have noBackslash : character ≠ '\\' := by
      rintro rfl
      exact plain.not_mem (by decide) (by decide) member
    simp [isSlash, noBackslash]
  have written :
      (pathSegments content).map (Url.encode reservedInPath) = pathSegments content :=
    (List.map_congr_left fun segment member => (plain.plainSegment member).encode (by decide)).trans
      (List.map_id _)
  rw [Url.extended, slashes, written]
  exact addSegments_plain _ _ fun segment member => plain.plainSegment member

/-- Behind the place of a settled address nothing of it is dropped. -/
theorem PlainPath.resolve
    {base : Url}
    {place : List (List Char)}
    (settled : base.Settled)
    (isOpen : base.OpenAt place) :
    resolve base.scheme place content = place ++ pathSegments content := by
  rw [Url.resolve, plain.extended]
  split
  next isFile =>
      apply dropEmptyFront_of_noEmptyFront
      cases place with
      | nil =>
          obtain ⟨first, rest, shape, nonempty⟩ := plain.pathSegments_eq_cons
          rw [List.nil_append, shape]
          exact noEmptyFront_cons nonempty rest
      | cons first place =>
          have front := settled.front isFile _ isOpen
          refine noEmptyFront_cons ?_ _
          rintro rfl
          cases place with
          | nil =>
              exact front _ _ rfl
          | cons next place =>
              exact front _ _ rfl
  next =>
      rfl

/-- To a base without segments no plain path can be joined. -/
theorem join_plainPath_of_plain
    {base : Url}
    {text : List Char}
    (isPath : base.path = .plain text) :
    read (some base) content = .error .relativeWithPlainBase := by
  obtain ⟨first, rest, rfl, _⟩ := plain.opens
  unfold read
  simp [plain.cleaned, plain.reference, plain.takeScheme?, readWithoutScheme, isPath]

/-- Only to a base with segments can a plain path be joined. -/
theorem segments_of_join_plainPath
    {base url : Url}
    (joins : read (some base) content = .ok url) :
    ∃ parts, base.path = .segments parts := by
  cases isPath : base.path with
  | segments parts =>
      exact ⟨parts, rfl⟩
  | plain text =>
      rw [join_plainPath_of_plain plain isPath] at joins
      cases joins

/-- A plain path joined to an open base comes below its whole path. -/
theorem join_plainPath
    {base : Url}
    {place : List (List Char)}
    (settled : base.Settled)
    (isOpen : base.OpenAt place) :
    read (some base) content = .ok (base.below place (pathSegments content)) := by
  have isPath : base.path = .segments (place ++ [[]]) := isOpen
  have isPlace : placeOf base = place := by
    rw [placeOf, isPath]
    exact List.dropLast_concat
  obtain ⟨first, rest, shape, alphanum⟩ := plain.opens
  have noSlash : isEitherSlash first = false := by
    refine Bool.eq_false_iff.mpr fun slash => ?_
    simp only [isEitherSlash, Bool.or_eq_true, decide_eq_true_eq] at slash
    rcases slash with rfl | rfl <;>
      cases alphanum
  have resolved :
      .ok (assemble base.scheme base.authority? (.segments (resolve base.scheme place content))
          ⟨content, none, none⟩) =
        (.ok (base.below place (pathSegments content)) : Except Fault Url) := by
    rw [settled.assemble, plain.resolve settled isOpen, below]
  unfold read
  simp only [plain.cleaned, plain.reference, plain.takeScheme?]
  unfold readWithoutScheme
  simp only [isPath]
  split
  next isFile =>
      obtain ⟨host, alone⟩ := settled.file isFile
      have isHost : base.host = some host := by
        obtain ⟨found, isFound, same⟩ := Option.map_eq_some_iff.mp alone
        exact isFound.trans (congrArg (fun authority => some authority.host) same)
      rw [alone] at resolved
      have noDrive := plain.startsWithDrive
      rw [shape] at resolved noDrive ⊢
      rw [← resolved]
      simp [readFile, noSlash, noDrive, fileUrl, isHost, isPlace]
  next notFile =>
      rw [shape] at resolved ⊢
      rw [← resolved]
      simp [readRelative, noSlash, isPlace]

end

end QueryAgent.Url

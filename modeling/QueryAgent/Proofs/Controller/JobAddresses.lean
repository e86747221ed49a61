import QueryAgent.Controller.Address
import QueryAgent.Proofs.Json.Records
import QueryAgent.Proofs.Url.Joining
import QueryAgent.Proofs.Url.Percent

namespace QueryAgent

/-!
# Addresses of jobs

The report on a job goes below the base, to a segment that stands for the id of
the job.  Tabs and line breaks do not get into an address, and a segment of
dots is no segment: ids that hold the one or are the other share an address
with other ids, and may leave the place of the jobs.
-/

/-! ## Pushed segments -/

namespace Url

/-- What an address keeps of a text: tabs and line breaks are dropped. -/
def keptOf
    (content : List Char) : List Char :=
  content.filter (fun character => !isDropped character)

theorem keptOf_eq_self_iff
    {content : List Char} :
    keptOf content = content ↔ ∀ character ∈ content, isDropped character = false := by
  simp [keptOf, List.filter_eq_self]

section
variable (scheme content : List Char)

/-- What is written as one of some ways to write a text is written for this text. -/
theorem eq_of_contains_encode
    {spellings : List String}
    {meant : List Char}
    (spell : ∀ text ∈ spellings, decode text.toList = Text.encodeUtf8 meant)
    (spelled :
      spellings.contains (String.ofList (encode (segmentReserved scheme) content)) = true) :
    content = meant := by
  have bytes := spell _ (List.contains_iff_mem.mp spelled)
  rw [String.toList_ofList, decode_encode (percent_mem_segmentReserved scheme)] at bytes
  exact Text.encodeUtf8_injective bytes

/-- One dot is written for one dot only. -/
theorem isSingleDot_encode :
    isSingleDot (encode (segmentReserved scheme) content) = decide (content = ['.']) := by
  rw [Bool.eq_iff_iff, decide_eq_true_iff]
  constructor
  · intro dot
    exact eq_of_contains_encode scheme content (by decide) dot
  · rintro rfl
    unfold segmentReserved
    split <;> decide

/-- Two dots are written for two dots only. -/
theorem isDoubleDot_encode :
    isDoubleDot (encode (segmentReserved scheme) content) = decide (content = ['.', '.']) := by
  rw [Bool.eq_iff_iff, decide_eq_true_iff]
  constructor
  · intro dots
    exact eq_of_contains_encode scheme content (by decide) dots
  · rintro rfl
    unfold segmentReserved
    split <;> decide

/-- A segment goes to the end of an open path as what is kept of it, unless it is dots. -/
theorem pushSegment_open
    {place : List (List Char)}
    (nonempty : place ≠ []) :
    pushSegment scheme (place ++ [[]]) content =
      if content = ['.'] ∨ content = ['.', '.'] then
        place
      else if keptOf content = ['.', '.'] then
        above place ++ [[]]
      else if keptOf content = ['.'] then
        place ++ [[]]
      else
        place ++ [encode (segmentReserved scheme) (keptOf content)] := by
  have opened : withoutOpenEnd (place ++ [[]]) = place := by
    simp [withoutOpenEnd]
  have written :
      (if isSpecialScheme scheme then reservedInSpecialSegment else reservedInSegment) =
        segmentReserved scheme :=
    rfl
  have noFront : place.isEmpty = false := by
    simpa using nonempty
  unfold pushSegment
  simp only [opened, written, Bool.or_eq_true, decide_eq_true_eq]
  split
  · rfl
  · rw [addSegments]
    simp only [isDoubleDot_encode, isSingleDot_encode, decide_eq_true_eq, keptSegment, noFront,
      Bool.and_false, Bool.false_and, Bool.false_eq_true, if_false]
    rfl

end

/-- Addresses below one place are told apart by their segments. -/
theorem below_inj
    {base : Url}
    {place first second : List (List Char)} :
    base.below place first = base.below place second ↔ first = second := by
  constructor
  · intro same
    exact List.append_cancel_left (Path.segments.inj (congrArg Url.path same))
  · rintro rfl
    rfl

/-- A segment pushed below a place stays below it when the path it leads to does. -/
theorem push?_below
    {base : Url}
    {place segments pushed : List (List Char)}
    {content : List Char}
    (leads : pushSegment base.scheme (place ++ segments) content = place ++ pushed) :
    (base.below place segments).push? content = some (base.below place pushed) := by
  rw [below, below, ← leads]
  rfl

/-- The path below a base is the path of the base and the segments with slashes between them. -/
theorem pathText_below
    {base : Url}
    {place : List (List Char)}
    (isOpen : base.OpenAt place)
    (first : List Char)
    (rest : List (List Char)) :
    (base.below place (first :: rest)).pathText =
      base.pathText ++ String.ofList (first ++ rest.flatMap (fun part => '/' :: part)) := by
  have isPath : base.path = .segments (place ++ [[]]) := isOpen
  rw [pathText, pathText, isPath, below, ← String.ofList_append]
  simp [Path.written]

end Url

namespace Controller

/-! ## Destinations -/

/-- Where a report goes, below the base. -/
inductive Destination where
  /-- To `v1/jobs`, with nothing behind it. -/
  | jobs
  /-- To `v1/`, above the jobs. -/
  | version
  /-- To one segment behind `v1/jobs/`. -/
  | job (content : List Char)
deriving DecidableEq

namespace Destination

/-- Where the report on a job goes, by the id of the job. -/
def ofId
    (jobId : String) : Destination :=
  if jobId = "." ∨ jobId = ".." then
    .jobs
  else if Url.keptOf jobId.toList = ['.', '.'] then
    .version
  else if Url.keptOf jobId.toList = ['.'] then
    .job []
  else
    .job (Url.keptOf jobId.toList)

/-- The segments that lead to a destination. -/
def segments
    (scheme : List Char) : Destination → List (List Char)
  | .jobs =>
      ["v1".toList, "jobs".toList]
  | .version =>
      ["v1".toList, []]
  | .job content =>
      ["v1".toList, "jobs".toList, Url.encode (Url.segmentReserved scheme) content]

/-- The path that leads to a destination. -/
def path
    (scheme : List Char) : Destination → String
  | .jobs =>
      "v1/jobs"
  | .version =>
      "v1/"
  | .job content =>
      "v1/jobs/" ++ String.ofList (Url.encode (Url.segmentReserved scheme) content)

/-- Different segments lead to different destinations. -/
theorem segments_injective
    (scheme : List Char) :
    Function.Injective (segments scheme) := by
  intro first second same
  have lengths := congrArg List.length same
  cases first <;> cases second
  case jobs.jobs | version.version =>
      rfl
  case jobs.version | version.jobs =>
      simp [segments] at same
  case job.job first second =>
      have written := (List.cons.inj (List.cons.inj (List.cons.inj same).2).2).1
      rw [Url.encode_injective (Url.percent_mem_segmentReserved scheme) written]
  case jobs.job | version.job | job.jobs | job.version =>
      cases lengths

/-- The path to a destination is its segments with slashes between them. -/
theorem pathText_below_segments
    {base : Url}
    {place : List (List Char)}
    (isOpen : base.OpenAt place)
    (destination : Destination) :
    (base.below place (destination.segments base.scheme)).pathText =
      base.pathText ++ destination.path base.scheme := by
  cases destination with
  | jobs =>
      exact Url.pathText_below isOpen "v1".toList ["jobs".toList]
  | version =>
      exact Url.pathText_below isOpen "v1".toList [[]]
  | job content =>
      rw [segments, Url.pathText_below isOpen, path, ← String.toList_inj]
      simp

/-- The path of a destination begins below `v1/jobs/` when a segment stands there. -/
theorem path_eq_append_iff
    {destination : Destination}
    {scheme : List Char}
    {rest : String} :
    destination.path scheme = "v1/jobs/" ++ rest ↔
      ∃ content,
        destination = .job content
          ∧ rest = String.ofList (Url.encode (Url.segmentReserved scheme) content) := by
  constructor
  · intro same
    cases destination with
    | jobs | version =>
        have lengths := congrArg (fun text => text.toList.length) same
        simp [path, String.toList_append] at lengths
    | job content =>
        exact ⟨content, rfl, (String.append_right_inj _).mp same.symm⟩
  · rintro ⟨content, rfl, rfl⟩
    rfl

/-- An id leads to a segment of its own when nothing of it is dropped and it is no dots. -/
theorem ofId_eq_job_iff
    (jobId : String) :
    ofId jobId = .job jobId.toList ↔
      (∀ character ∈ jobId.toList, Url.isDropped character = false) ∧
        jobId ≠ "." ∧ jobId ≠ ".." := by
  rw [← Url.keptOf_eq_self_iff]
  unfold ofId
  constructor
  · intro same
    split at same
    · cases same
    next noDots =>
        split at same
        · cases same
        split at same
        next dropped =>
            rw [← Destination.job.inj same] at dropped
            cases dropped
        · exact ⟨Destination.job.inj same, not_or.mp noDots⟩
  · rintro ⟨kept, noDot, noDots⟩
    have notDots : jobId.toList ≠ ['.', '.'] := fun same => noDots (String.toList_inj.mp same)
    have notDot : jobId.toList ≠ ['.'] := fun same => noDot (String.toList_inj.mp same)
    rw [if_neg (not_or.mpr ⟨noDot, noDots⟩), kept, if_neg notDots, if_neg notDot]

/-- An id leads to a segment unless it is one dot or comes down to two. -/
theorem exists_ofId_eq_job_iff
    (jobId : String) :
    (∃ content, ofId jobId = .job content) ↔
      jobId ≠ "." ∧ Url.keptOf jobId.toList ≠ ['.', '.'] := by
  unfold ofId
  by_cases isDot : jobId = "."
  · simp [isDot]
  by_cases isDots : jobId = ".."
  · simp only [isDots, or_true, if_true, reduceCtorEq, exists_false, false_iff]
    exact fun noDots => noDots.2 (by decide)
  by_cases comesDown : Url.keptOf jobId.toList = ['.', '.']
  · simp [isDot, isDots, comesDown]
  · simp only [isDot, isDots, comesDown, or_self, if_false, ne_eq, not_false_eq_true, and_self,
      iff_true]
    split
    · exact ⟨_, rfl⟩
    · exact ⟨_, rfl⟩

/-- An id leads where a name without dots does when the name is what is kept of it. -/
theorem ofId_eq_job_of_no_dots_iff
    {jobId : String}
    {content : List Char}
    (nonempty : content ≠ [])
    (noDot : '.' ∉ content) :
    ofId jobId = .job content ↔ Url.keptOf jobId.toList = content := by
  have keepsDot :
      ∀ text : List Char, (text = ['.'] ∨ text = ['.', '.']) → Url.keptOf text ≠ content := by
    rintro _ (rfl | rfl) rfl <;>
      exact noDot (by decide)
  have notDots : content ≠ ['.', '.'] := by
    rintro rfl
    exact noDot (by decide)
  have notDot : content ≠ ['.'] := by
    rintro rfl
    exact noDot (by decide)
  unfold ofId
  constructor
  · intro same
    split at same
    · cases same
    split at same
    · cases same
    split at same
    · exact absurd (Destination.job.inj same).symm nonempty
    · exact Destination.job.inj same
  · rintro rfl
    have isNoDots : ¬ (jobId = "." ∨ jobId = "..") := by
      rintro (rfl | rfl)
      · exact keepsDot _ (.inl rfl) rfl
      · exact keepsDot _ (.inr rfl) rfl
    rw [if_neg isNoDots, if_neg notDots, if_neg notDot]

end Destination

/-! ## Endpoints -/

namespace Address

/-- The base of an address that was read is settled. -/
theorem settled_of_ofText
    {text : String}
    {address : Address}
    (isAddress : ofText text = .ok address) :
    address.base.Settled := by
  unfold ofText at isAddress
  split at isAddress
  next url parsed =>
      cases isAddress
      exact (Url.settled_of_parse parsed).opened
  next =>
      cases isAddress

/-- The base of an address that was read is open when it has segments. -/
theorem openAt_of_ofText
    {text : String}
    {address : Address}
    {parts : List (List Char)}
    (isAddress : ofText text = .ok address)
    (splits : address.base.path = .segments parts) :
    ∃ place, address.base.OpenAt place := by
  unfold ofText at isAddress
  split at isAddress
  next url parsed =>
      cases isAddress
      exact Url.openAt_opened splits
  next =>
      cases isAddress

section
variable {address : Address} {place : List (List Char)}
  (settled : address.base.Settled) (isOpen : address.base.OpenAt place)
include settled isOpen

/-- The endpoint at a plain path comes below the whole path of the base. -/
theorem endpoint_plainPath
    (path : String)
    (plain : Url.PlainPath path.toList) :
    address.endpoint path =
      .ok (address.base.below place (Url.pathSegments path.toList)) := by
  rw [endpoint, Url.join, Url.join_plainPath plain settled isOpen]

/-- A report goes to the destination of the job's id. -/
theorem jobEndpoint_eq
    (jobId : String) :
    address.jobEndpoint jobId =
      .ok (address.base.below place
        ((Destination.ofId jobId).segments address.base.scheme)) := by
  have jobs := endpoint_plainPath settled isOpen jobsPath (.of_all (by decide) (by decide))
  have opens :
      place ++ Url.pathSegments jobsPath.toList =
        (place ++ ["v1".toList, "jobs".toList]) ++ [[]] := by
    rw [List.append_assoc]
    rfl
  have isAbove :
      Url.above (place ++ ["v1".toList, "jobs".toList]) = place ++ ["v1".toList] := by
    simp [Url.above, Url.holdsDrive, Url.isDriveLetter]
  have pushed :
      Url.pushSegment address.base.scheme (place ++ Url.pathSegments jobsPath.toList)
          jobId.toList =
        place ++ (Destination.ofId jobId).segments address.base.scheme := by
    rw [opens, Url.pushSegment_open _ _ (by simp), isAbove]
    unfold Destination.ofId
    have isDots :
        jobId.toList = ['.'] ∨ jobId.toList = ['.', '.'] ↔ jobId = "." ∨ jobId = ".." := by
      rw [← String.toList_inj, ← String.toList_inj]
      rfl
    simp only [isDots]
    split
    · rfl
    split
    · simp [Destination.segments]
    split <;>
      simp [Destination.segments, Url.encode]
  simp only [jobEndpoint, jobs, bind, Except.bind, Url.push?_below pushed]

/-- The endpoint of polls is that of a job whose id is `poll`. -/
theorem pollEndpoint_eq :
    address.endpoint pollPath =
      .ok (address.base.below place
        ((Destination.job "poll".toList).segments address.base.scheme)) := by
  have plain : Url.PlainSegment "poll".toList := .of_all (by decide)
  rw [endpoint_plainPath settled isOpen _ (.of_all (by decide) (by decide)), Destination.segments,
    plain.encode (Url.segmentReserved_noAlphanum _)]
  rfl

/-- The endpoint of heartbeats is not among those of jobs. -/
theorem heartbeatEndpoint_eq :
    address.endpoint heartbeatPath =
      .ok (address.base.below place
        ["v1".toList, "agents".toList, "heartbeat".toList]) := by
  rw [endpoint_plainPath settled isOpen _ (.of_all (by decide) (by decide))]
  rfl

end

/-- The path of an address is that of one job: behind `v1/jobs/` one segment spells its id. -/
def SpellsJob
    (base url : Url)
    (jobId : String) : Prop :=
  ∃ segment,
    url.pathText = base.pathText ++ jobsPath ++ String.ofList segment
      ∧ '/' ∉ segment
      ∧ Url.decodeText segment = jobId.toList

/-- A destination spells the id of a job when it is the segment of this very id. -/
theorem spellsJob_iff
    {base url : Url}
    {destination : Destination}
    (path : url.pathText = base.pathText ++ destination.path base.scheme)
    (jobId : String) :
    SpellsJob base url jobId ↔ destination = .job jobId.toList := by
  constructor
  · rintro ⟨segment, spelled, -, decoded⟩
    rw [path, String.append_assoc, String.append_right_inj] at spelled
    obtain ⟨content, rfl, written⟩ := Destination.path_eq_append_iff.mp spelled
    rw [← decoded, String.ofList_injective written,
      Url.decodeText_encode (Url.percent_mem_segmentReserved _)]
  · rintro rfl
    refine ⟨Url.encode (Url.segmentReserved base.scheme) jobId.toList, ?_, ?_, ?_⟩
    · rw [path, String.append_assoc]
      rfl
    · exact Url.slash_not_mem_encode (Url.slash_mem_segmentReserved _) _
    · exact Url.decodeText_encode (Url.percent_mem_segmentReserved _) _

/--
A report goes to an address that is the base with `v1/jobs/` and one segment
that spells the id of the job exactly when the id holds no tab or line break
and is not one dot or two.  Ids share an address when they lead to one
destination: an id that comes down to `poll` leads to the polls, and one dot, or
what comes down to two, leads out of the jobs, but never to the heartbeats.
-/
theorem job_reports_addressed
    {text : String}
    {address : Address}
    {parts : List (List Char)}
    (isAddress : ofText text = .ok address)
    (splits : address.base.path = .segments parts) :
    (∀ jobId, ∃ url,
      address.jobEndpoint jobId = .ok url
        ∧ url = { address.base with path := url.path, query := none, fragment := none }
        ∧ url.pathText =
          address.base.pathText ++ (Destination.ofId jobId).path address.base.scheme
        ∧ (SpellsJob address.base url jobId ↔
          (∀ character ∈ jobId.toList, Url.isDropped character = false)
            ∧ jobId ≠ "." ∧ jobId ≠ "..")
        ∧ ((∃ rest, url.pathText = address.base.pathText ++ jobsPath ++ rest) ↔
          jobId ≠ "." ∧ Url.keptOf jobId.toList ≠ ['.', '.'])
        ∧ (address.endpoint pollPath = .ok url ↔
          Url.keptOf jobId.toList = "poll".toList)
        ∧ ∃ heartbeat, address.endpoint heartbeatPath = .ok heartbeat ∧ heartbeat ≠ url)
      ∧ ∀ first second,
        address.jobEndpoint first = address.jobEndpoint second ↔
          Destination.ofId first = Destination.ofId second := by
  have settled := settled_of_ofText isAddress
  obtain ⟨place, isOpen⟩ := openAt_of_ofText isAddress splits
  have reaches := jobEndpoint_eq settled isOpen
  constructor
  · intro jobId
    have path := Destination.pathText_below_segments isOpen (Destination.ofId jobId)
    refine ⟨_, reaches jobId, rfl, path, ?_, ?_, ?_, ?_⟩
    · rw [spellsJob_iff path, Destination.ofId_eq_job_iff]
    · rw [← Destination.exists_ofId_eq_job_iff, path]
      simp only [String.append_assoc, String.append_right_inj]
      constructor
      · rintro ⟨rest, below⟩
        obtain ⟨content, isJob, -⟩ := Destination.path_eq_append_iff.mp below
        exact ⟨content, isJob⟩
      · rintro ⟨content, isJob⟩
        exact ⟨_, Destination.path_eq_append_iff.mpr ⟨content, isJob, rfl⟩⟩
    · rw [pollEndpoint_eq settled isOpen, Except.ok.injEq, Url.below_inj,
        (Destination.segments_injective _).eq_iff, eq_comm,
        Destination.ofId_eq_job_of_no_dots_iff (by decide) (by decide)]
    · refine ⟨_, heartbeatEndpoint_eq settled isOpen, fun same => ?_⟩
      have second := congrArg (fun segments => segments[1]?) (Url.below_inj.mp same)
      cases leads : Destination.ofId jobId <;>
        simp [leads, Destination.segments] at second
  · intro first second
    rw [reaches, reaches, Except.ok.injEq, Url.below_inj,
      (Destination.segments_injective _).eq_iff]

/-- The controller of this machine, with an address that has a query. -/
def loopback : Address where
  base :=
    { scheme := "http".toList
      username := []
      password := []
      host := some (.ipv6 [0, 0, 0, 0, 0, 0, 0, 1])
      port := some 9001
      path := .segments ["api".toList, []]
      query := some "x".toList
      fragment := none }

theorem ofText_loopback :
    ofText "http://[::1]:9001/api?x" = .ok loopback :=
  Json.eq_ok_of_toOption (by decide +kernel)

theorem job_reports_addressed_loopback :
    ofText "http://[::1]:9001/api?x" = .ok loopback
      ∧ loopback.base.path = .segments ["api".toList, []]
      ∧ (∀ jobId, ∃ url,
        loopback.jobEndpoint jobId = .ok url
          ∧ url.pathText = "/api/" ++ (Destination.ofId jobId).path "http".toList
          ∧ (SpellsJob loopback.base url jobId ↔
            (∀ character ∈ jobId.toList, Url.isDropped character = false)
              ∧ jobId ≠ "." ∧ jobId ≠ ".."))
      ∧ ∀ first second,
        loopback.jobEndpoint first = loopback.jobEndpoint second ↔
          Destination.ofId first = Destination.ofId second := by
  have addressed := job_reports_addressed ofText_loopback rfl
  refine ⟨ofText_loopback, rfl, fun jobId => ?_, addressed.2⟩
  obtain ⟨url, reaches, -, path, spells, -⟩ := addressed.1 jobId
  exact ⟨url, reaches, path, spells⟩

/-- Two ids share an address that spells only one of them, two dots have none, and one is polled. -/
theorem job_reports_collide :
    ofText "http://[::1]:9001/api?x" = .ok loopback
      ∧ loopback.jobEndpoint "a\tb" = loopback.jobEndpoint "ab"
      ∧ (∃ url, loopback.jobEndpoint "a\tb" = .ok url ∧ ¬ SpellsJob loopback.base url "a\tb")
      ∧ (∃ url, loopback.jobEndpoint ".." = .ok url ∧ url.pathText = "/api/v1/jobs")
      ∧ loopback.jobEndpoint "poll" = loopback.endpoint pollPath := by
  have settled := settled_of_ofText ofText_loopback
  have isOpen : loopback.base.OpenAt ["api".toList] := rfl
  have reaches := jobEndpoint_eq settled isOpen
  have path := fun jobId =>
    Destination.pathText_below_segments isOpen (Destination.ofId jobId)
  refine
    ⟨ofText_loopback, ?_, ⟨_, reaches _, ?_⟩, ⟨_, reaches _, ?_⟩, ?_⟩
  · rw [reaches, reaches]
    rfl
  · rw [spellsJob_iff (path _)]
    decide
  · rw [path]
    decide
  · rw [reaches, pollEndpoint_eq settled isOpen]
    rfl

end Address

end Controller

end QueryAgent

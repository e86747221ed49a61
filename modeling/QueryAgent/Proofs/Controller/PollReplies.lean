import QueryAgent.Controller.Client
import QueryAgent.Proofs.Json.Objects
import QueryAgent.Proofs.Json.Records

namespace QueryAgent.Controller

/-!
# Replies to polls

A reply hands out a job when it says that it has one and holds it.  The job is
what stands in the reply: its id, its kind and its payload, character by
character, in whatever order and among whatever else they are given.
-/

/-! ## Fields of replies -/

/-- Decodes the kind of a job. -/
def decodeKind : Json.Decoder JobKind := fun depth node =>
  (Json.decodeText depth node).map JobKind.ofName

/-- The id of a job is held apart from its other fields. -/
theorem idSlot :
    jobRecord.Slot [] jobRecord.fields[0] (jobRecord.fields.drop 1) JobDraft.id
      Json.decodeText := by
  refine
    ⟨rfl, fun _ => rfl, Json.Field.fills_of_fill rfl fun _ _ => rfl, ?keeps, by decide⟩
  case keeps =>
    simp only [List.nil_append, jobRecord, List.drop, List.forall_mem_cons]
    exact
      ⟨Json.Field.keeps_of_fill rfl fun _ _ => rfl, Json.Field.keeps_of_fill rfl fun _ _ => rfl,
        nofun⟩

theorem kindSlot :
    jobRecord.Slot (jobRecord.fields.take 1) jobRecord.fields[1] (jobRecord.fields.drop 2)
      JobDraft.kind decodeKind := by
  refine ⟨rfl, fun _ => rfl, ?fills, ?keeps, by decide⟩
  case fills =>
    intro depth node before after filled
    obtain ⟨name, decodes, rfl⟩ := Json.filled_with filled
    exact ⟨JobKind.ofName name, congrArg (Except.map JobKind.ofName) decodes, rfl⟩
  case keeps =>
    simp only [jobRecord, List.take, List.drop, List.cons_append, List.nil_append,
      List.forall_mem_cons]
    exact
      ⟨Json.Field.keeps_of_fill rfl fun _ _ => rfl, Json.Field.keeps_of_fill rfl fun _ _ => rfl,
        nofun⟩

theorem payloadSlot :
    jobRecord.Slot (jobRecord.fields.take 2) jobRecord.fields[2] [] JobDraft.payload
      Json.decodeText := by
  refine
    ⟨rfl, fun _ => rfl, Json.Field.fills_of_fill rfl fun _ _ => rfl, ?keeps, by decide⟩
  case keeps =>
    simp only [jobRecord, List.take, List.append_nil, List.forall_mem_cons]
    exact
      ⟨Json.Field.keeps_of_fill rfl fun _ _ => rfl, Json.Field.keeps_of_fill rfl fun _ _ => rfl,
        nofun⟩

theorem hasJobSlot :
    pollRecord.Slot [] pollRecord.fields[0] (pollRecord.fields.drop 1) PollDraft.hasJob
      Json.decodeBoolean := by
  refine
    ⟨rfl, fun _ => rfl, Json.Field.fills_of_fill rfl fun _ _ => rfl, ?keeps, by decide⟩
  case keeps =>
    simp only [List.nil_append, pollRecord, List.drop, List.forall_mem_cons]
    exact ⟨Json.Field.keeps_of_fill rfl fun _ _ => rfl, nofun⟩

theorem jobSlot :
    pollRecord.Slot (pollRecord.fields.take 1) pollRecord.fields[1] [] PollDraft.job
      (Json.decodeOptional decodeJob) := by
  refine
    ⟨rfl, fun _ => rfl, Json.Field.fills_of_fill rfl fun _ _ => rfl, ?keeps, by decide⟩
  case keeps =>
    simp only [pollRecord, List.take, List.append_nil, List.forall_mem_cons]
    exact ⟨Json.Field.keeps_of_fill rfl fun _ _ => rfl, nofun⟩

/-! ## Jobs that are handed out -/

/-- What a document gives for a field of some name and place is a text. -/
def GivesText
    (node : Json.Node)
    (name : String)
    (place : Nat)
    (content : String) : Prop :=
  ∃ literal, node.field? [name] place = some (.text literal) ∧ literal.content = .ok content

/-- The names of the kinds that the agent supports. -/
def supportedNames : List String :=
  JobKind.supported.map JobKind.name

/--
A document holds a job: its id, the name of its kind, which is a supported one if
its name is, and its payload unless this is empty.
-/
structure HoldsJob
    (node : Json.Node)
    (job : Job) : Prop where
  id : GivesText node "id" 0 job.id
  kind : GivesText node "kind" 1 job.kind.name
  supported : job.kind.name ∈ supportedNames → job.kind ∈ JobKind.supported
  payload :
    GivesText node "payload_json" 2 job.payload
      ∨ node.field? ["payload_json"] 2 = none ∧ job.payload = ""

/-- A document says that it has a job, and holds it. -/
structure HandsOut
    (root : Json.Node)
    (job : Job) : Prop where
  hasJob : root.field? ["has_job"] 0 = some (.boolean true)
  job : ∃ node, root.field? ["job"] 1 = some node ∧ HoldsJob node job

/-- The name of a kind is the name it was given by. -/
theorem name_ofName
    (name : String) :
    (JobKind.ofName name).name = name := by
  unfold JobKind.ofName
  split <;>
    rfl

theorem ofName_mem_supported
    {name : String}
    (supported : name ∈ supportedNames) :
    JobKind.ofName name ∈ JobKind.supported := by
  simp only [supportedNames, JobKind.supported, List.map_cons, List.map_nil, List.mem_cons,
    List.not_mem_nil, or_false] at supported
  rcases supported with rfl | rfl | rfl | rfl <;>
    decide

/-- A kind is the one of its name, unless it is an unknown one under a supported name. -/
theorem ofName_name
    {kind : JobKind}
    (supported : kind.name ∈ supportedNames → kind ∈ JobKind.supported) :
    JobKind.ofName kind.name = kind := by
  cases kind with
  | unknown name =>
      have unsupported : name ∉ supportedNames := fun placed =>
        absurd (supported placed) (by simp [JobKind.supported])
      rw [JobKind.name]
      unfold JobKind.ofName
      split
      case h_5 =>
          rfl
      all_goals
        exact absurd (by decide) unsupported
  | ping | fetchColumns | query | schemaRefresh =>
      rfl

/-- A text that is held was given. -/
theorem givesText_of_decodedFrom
    {depth : Nat}
    {node : Json.Node}
    {name : String}
    {place : Nat}
    {content : String}
    (source : Json.DecodedFrom Json.decodeText depth (node.field? [name] place) (some content)) :
    GivesText node name place content := by
  obtain ⟨part, given, decodes⟩ := source.exists_of_some
  obtain ⟨literal, rfl, spells⟩ := Json.decodeText_eq_ok.mp decodes
  exact ⟨literal, given, spells⟩

/-- A job that is decoded is held by its document. -/
theorem holdsJob_of_decodeJob
    {depth : Nat}
    {node : Json.Node}
    {job : Job}
    (decoded : decodeJob depth node = .ok job) :
    HoldsJob node job := by
  rw [decodeJob, Json.Record.decode_finish] at decoded
  obtain ⟨⟨id, kind, payload⟩, given, finishing⟩ := Json.bind_eq_ok.mp decoded
  obtain ⟨_, _, idSource⟩ := idSlot.decodedFrom rfl given
  obtain ⟨_, _, kindSource⟩ := kindSlot.decodedFrom rfl given
  obtain ⟨_, _, payloadSource⟩ := payloadSlot.decodedFrom rfl given
  cases id with
  | none =>
      cases finishing
  | some id =>
      cases kind with
      | none =>
          cases finishing
      | some kind =>
          cases finishing
          obtain ⟨part, given, decodes⟩ := kindSource.exists_of_some
          obtain ⟨name, reads, rfl⟩ := Json.map_eq_ok.mp decodes
          refine ⟨givesText_of_decodedFrom idSource, ?kind, ?supported, ?payload⟩
          case kind =>
            obtain ⟨literal, rfl, spells⟩ := Json.decodeText_eq_ok.mp reads
            rw [name_ofName]
            exact ⟨literal, given, spells⟩
          case supported =>
            rw [name_ofName]
            exact ofName_mem_supported
          case payload =>
            cases payload with
            | some payload =>
                exact .inl (givesText_of_decodedFrom payloadSource)
            | none =>
                generalize isPart : node.field? _ _ = part at payloadSource
                cases payloadSource
                exact .inr ⟨isPart, rfl⟩

/-- A job that is read from a reply is handed out by the reply. -/
theorem handsOut_of_readPoll
    {response : Response}
    {job : Job}
    (reads : readPoll response = .ok (some job)) :
    HandsOut (Json.readBytes response.body).root job := by
  unfold readPoll at reads
  split at reads
  next reply decoded =>
      obtain ⟨found, decodes, finishing⟩ := Json.bind_eq_ok.mp decoded
      obtain ⟨_, _, same⟩ := Json.bind_eq_ok.mp finishing
      cases same
      rw [decodePollReply, Json.Record.decode_finish] at decodes
      obtain ⟨⟨hasJob, held⟩, given, same⟩ := Json.bind_eq_ok.mp decodes
      cases same
      obtain ⟨_, _, hasJobSource⟩ := hasJobSlot.decodedFrom rfl given
      obtain ⟨_, _, jobSource⟩ := jobSlot.decodedFrom rfl given
      unfold PollReply.job? at reads
      split at reads
      next claimed =>
          obtain rfl : hasJob = some true := by
            cases hasJob with
            | none =>
                cases claimed
            | some value =>
                exact congrArg some claimed
          obtain ⟨part, isGiven, isTrue⟩ := hasJobSource.exists_of_some
          obtain rfl := Json.decodeBoolean_eq_ok.mp isTrue
          refine ⟨isGiven, ?_⟩
          split at reads
          next holds =>
              cases reads
              obtain rfl : held = some (some job) := by
                cases held with
                | none =>
                    cases holds
                | some value =>
                    exact congrArg some holds
              obtain ⟨node, isJob, decodesJob⟩ := jobSource.exists_of_some
              rcases Json.decode_of_decodeOptional decodesJob with
                ⟨_, impossible⟩ | ⟨_, same, decodesJob⟩
              · cases impossible
              · cases same
                exact ⟨node, isJob, holdsJob_of_decodeJob decodesJob⟩
          next =>
              cases reads
      next =>
          cases reads
  next =>
      cases reads

/-! ## Replies that are read -/

theorem jobRecord_independent :
    jobRecord.Independent := by
  refine ⟨by decide, ?leaves⟩
  case leaves =>
    simp only [jobRecord, List.forall_mem_cons]
    refine
      ⟨⟨fun same => absurd rfl same, ?_, ?_, nofun⟩,
        ⟨?_, fun same => absurd rfl same, ?_, nofun⟩,
        ⟨?_, ?_, fun same => absurd rfl same, nofun⟩, nofun⟩ <;>
      · intro _ depth node before after filled
        obtain ⟨_, _, rfl⟩ := Json.filled_with filled
        rfl

theorem pollRecord_independent :
    pollRecord.Independent := by
  refine ⟨by decide, ?leaves⟩
  case leaves =>
    simp only [pollRecord, List.forall_mem_cons]
    refine
      ⟨⟨fun same => absurd rfl same, ?_, nofun⟩, ⟨?_, fun same => absurd rfl same, nofun⟩,
        nofun⟩ <;>
      · intro _ depth node before after filled
        obtain ⟨_, _, rfl⟩ := Json.filled_with filled
        rfl

/-- A text that is given is held. -/
theorem eq_some_of_givesText
    {depth : Nat}
    {node : Json.Node}
    {name content : String}
    {place : Nat}
    {held : Option String}
    (given : GivesText node name place content)
    (source : Json.DecodedFrom Json.decodeText depth (node.field? [name] place) held) :
    held = some content := by
  obtain ⟨literal, isText, spells⟩ := given
  rw [isText] at source
  exact source.eq_some (Json.decodeText_eq_ok.mpr ⟨literal, rfl, spells⟩)

section
variable {members : List (Json.TextLiteral × Json.Node)}
  (orderly : (Json.Node.object members none).Orderly)
include orderly

/-- An orderly object that holds a job is decoded to it. -/
theorem decodeJob_of_holdsJob
    (depth : Nat)
    {job : Job}
    (holds : HoldsJob (.object members none) job) :
    decodeJob (depth + 2) (.object members none) = .ok job := by
  obtain ⟨id, kind, payload⟩ := job
  obtain ⟨idGiven, kindGiven, supported, payloadGiven⟩ := holds
  have fillsText :
      ∀ {name content place},
        GivesText (.object members none) name place content →
          ∀ other node,
            (Json.Node.object members none).field? [name] other = some node →
              Json.decodeText (depth + 1) node = .ok content := by
    intro name content place given other node found
    obtain ⟨literal, isText, spells⟩ := given
    cases isText.symm.trans found
    exact Json.decodeText_eq_ok.mpr ⟨literal, rfl, spells⟩
  obtain ⟨⟨heldId, heldKind, heldPayload⟩, decoded⟩ :=
    jobRecord_independent.exists_decode depth orderly ⟨none, none, none⟩
      (by decide) (by
        simp only [jobRecord, List.forall_mem_cons]
        refine ⟨fun place node found state => ?id, fun place node found state => ?kind,
          fun place node found state => ?payload, nofun⟩
        case id =>
          rw [fillsText idGiven place node found]
          exact ⟨_, rfl⟩
        case kind =>
          rw [fillsText kindGiven place node found]
          exact ⟨_, rfl⟩
        case payload =>
          rcases payloadGiven with given | ⟨absent, _⟩
          · rw [fillsText given place node found]
            exact ⟨_, rfl⟩
          · cases absent.symm.trans found)
  obtain ⟨_, _, idSource⟩ := idSlot.decodedFrom rfl decoded
  obtain ⟨_, enters, kindSource⟩ := kindSlot.decodedFrom rfl decoded
  cases enters
  obtain ⟨_, _, payloadSource⟩ := payloadSlot.decodedFrom rfl decoded
  have isId : heldId = some id := eq_some_of_givesText idGiven idSource
  have isKind : heldKind = some kind := by
    obtain ⟨literal, isText, spells⟩ := kindGiven
    have isPart : (Json.Node.object members none).field? ["kind"] 1 = some (.text literal) :=
      isText
    have source : Json.DecodedFrom decodeKind (depth + 1) (some (.text literal)) heldKind := by
      rw [← isPart]
      exact kindSource
    refine source.eq_some ?_
    rw [decodeKind, Json.decodeText_eq_ok.mpr ⟨literal, rfl, spells⟩, Except.map,
      ofName_name supported]
  have isPayload : heldPayload.getD "" = payload := by
    rcases payloadGiven with given | ⟨absent, isEmpty⟩
    · have isHeld : heldPayload = some payload := eq_some_of_givesText given payloadSource
      rw [isHeld]
      rfl
    · have noPart : (Json.Node.object members none).field? ["payload_json"] 2 = none := absent
      cases (noPart ▸ payloadSource : Json.DecodedFrom _ _ none heldPayload)
      exact isEmpty.symm
  rw [decodeJob, Json.Record.decode_finish, decoded]
  cases isId
  cases isKind
  cases isPayload
  rfl

/-- An orderly object that hands out a job, itself an object, is decoded to this. -/
theorem decodePollReply_of_handsOut
    (depth : Nat)
    {job : Job}
    (handsOut : HandsOut (.object members none) job)
    (isObject :
      ∀ node, (Json.Node.object members none).field? ["job"] 1 = some node → node.IsObject) :
    decodePollReply (depth + 3) (.object members none) = .ok ⟨true, some job⟩ := by
  obtain ⟨isTrue, node, isJob, holds⟩ := handsOut
  have decodesJob : ∀ inner, Json.decodeOptional decodeJob (inner + 2) node = .ok (some job) := by
    intro inner
    have orderlyJob := orderly.of_field? isJob
    obtain ⟨jobMembers, ending, rfl⟩ := isObject node isJob
    cases orderlyJob with
    | object names distinct parts =>
        rw [Json.decodeOptional, decodeJob_of_holdsJob (.object names distinct parts) inner holds]
        · rfl
        · nofun
  obtain ⟨⟨heldHasJob, heldJob⟩, decoded⟩ :=
    pollRecord_independent.exists_decode (depth + 1) orderly ⟨none, none⟩
      (by decide) (by
        simp only [pollRecord, List.forall_mem_cons]
        refine ⟨fun place part found state => ?hasJob, fun place part found state => ?job, nofun⟩
        case hasJob =>
          cases isTrue.symm.trans found
          exact ⟨_, rfl⟩
        case job =>
          cases isJob.symm.trans found
          rw [decodesJob depth]
          exact ⟨_, rfl⟩)
  obtain ⟨_, _, hasJobSource⟩ := hasJobSlot.decodedFrom rfl decoded
  obtain ⟨_, enters, jobSource⟩ := jobSlot.decodedFrom rfl decoded
  cases enters
  have isHasJob : heldHasJob = some true :=
    Json.DecodedFrom.eq_some (isTrue ▸ hasJobSource) rfl
  have isHeld : heldJob = some (some job) :=
    Json.DecodedFrom.eq_some (isJob ▸ jobSource) (decodesJob depth)
  rw [decodePollReply, Json.Record.decode_finish, decoded]
  cases isHasJob
  cases isHeld
  rfl

end

/-- From an orderly reply exactly the job is read that it hands out. -/
theorem readPoll_eq_some_iff
    {response : Response}
    {root : Json.Node}
    (document : Json.readBytes response.body = ⟨root, none⟩)
    (orderly : root.Orderly)
    (isObject : root.IsObject)
    (holdsObject : ∀ node, root.field? ["job"] 1 = some node → node.IsObject)
    (job : Job) :
    readPoll response = .ok (some job) ↔ HandsOut root job := by
  constructor
  · intro reads
    have handsOut := handsOut_of_readPoll reads
    rw [document] at handsOut
    exact handsOut
  · intro handsOut
    obtain ⟨members, ending, rfl⟩ := isObject
    cases orderly with
    | object names distinct parts =>
        have decodes :=
          decodePollReply_of_handsOut (.object names distinct parts) 125 handsOut holdsObject
        have decoded :
            (Json.readBytes response.body).decode decodePollReply = .ok ⟨true, some job⟩ := by
          rw [document, Json.Document.decode]
          exact Json.bind_eq_ok.mpr ⟨_, decodes, rfl⟩
        rw [readPoll, decoded]
        rfl

end QueryAgent.Controller

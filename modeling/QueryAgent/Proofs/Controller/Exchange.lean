import QueryAgent.Agent.Loops
import QueryAgent.Proofs.Controller.JobAddresses
import QueryAgent.Proofs.Controller.PollReplies
import QueryAgent.Proofs.Text.Utf8

namespace QueryAgent.Controller

/-!
# Jobs and their reports

A cycle in which the controller hands out a job sends two requests: the poll,
and one report, which says of the job that was handed out what came of
dispatching it.  Texts are written and read without a loss, so the controller
reads what the agent holds.
-/

/-! ## Bodies -/

/-- The bytes of the body of a request as they are sent. -/
def Request.bytes
    (request : Request) : List UInt8 :=
  Text.encodeUtf8 request.body.compact.toList

/-- A body is read as the tree of what was written. -/
theorem readBytes_bytes
    (request : Request) :
    Json.readBytes request.bytes = ⟨request.body.node, none⟩ := by
  rw [Json.readBytes, Request.bytes, Text.decodeUtf8_encodeUtf8]
  exact Json.read_compact request.body

/-- The fields of a report in the order of their names. -/
theorem sort_report
    (jobId agentId success result message : Json) :
    sortEntries
        [("job_id", jobId), ("agent_id", agentId), ("success", success), ("result_json", result),
          ("error_message", message)] =
      [("agent_id", agentId), ("error_message", message), ("job_id", jobId),
        ("result_json", result), ("success", success)] := by
  have below :
      "agent_id" < "job_id" ∧ "result_json" < "success" ∧ "error_message" < "job_id" := by
    decide
  have notBelow :
      ¬ "success" < "agent_id" ∧ ¬ "success" < "job_id" ∧ ¬ "result_json" < "agent_id"
        ∧ ¬ "result_json" < "job_id" ∧ ¬ "error_message" < "agent_id" := by
    decide
  simp only [sortEntries, List.foldl, insertEntry, below, notBelow, if_true, if_false,
    String.reduceEq]

/-- The report on a job is read as its id, the agent and the outcome. -/
theorem decode_reportRequest
    {client : Client}
    {jobId : String}
    {outcome : JobOutcome}
    {report : Request}
    (reports : client.reportRequest jobId outcome = .ok report) :
    (Json.readBytes report.bytes).decode Json.decodeAny =
      .ok (.object
        [("agent_id", .text client.agentId), ("error_message", .text outcome.errorMessage),
          ("job_id", .text jobId), ("result_json", .text outcome.resultPayload),
          ("success", .boolean outcome.succeeded)]) := by
  obtain ⟨url, _, same⟩ := Json.bind_eq_ok.mp reports
  cases same
  rw [readBytes_bytes]
  simp only [Json.Document.decode, Json.decodeAny, Json.node, Json.memberNodes, Json.Node.any,
    Json.nestingLimit, Json.enter, Json.anyMembers, Json.TextLiteral.read_of, Json.endsWell,
    Json.ofMembers, bind, Except.bind]
  rw [sort_report]

/-! ## Requests that are sent -/

/-- Whether a request can be sent is a matter of its token and its scheme. -/
theorem Request.fault?_eq_none_iff
    (request : Request) :
    request.fault? = none ↔
      request.authorization.toList.all isHeaderChar = true
        ∧ ["http", "https"].contains (String.ofList request.url.scheme) = true := by
  unfold Request.fault?
  cases request.authorization.toList.all isHeaderChar <;>
    cases ["http", "https"].contains (String.ofList request.url.scheme) <;>
      simp

namespace Client

section
variable {client : Client} {text : String}
  (isAddress : Address.ofText text = .ok client.address)
  {kinds : List JobKind} {request : Request}
  (asks : client.pollRequest kinds = .ok request)
  (sendable : request.fault? = none)
include isAddress asks sendable

/-- A client that can send a poll can send a report on any job. -/
theorem reportRequest_sendable
    (jobId : String)
    (outcome : JobOutcome) :
    ∃ report,
      client.reportRequest jobId outcome = .ok report ∧ report.fault? = none := by
  have settled := Address.settled_of_ofText isAddress
  obtain ⟨url, polls, same⟩ := Json.bind_eq_ok.mp asks
  cases same
  have pollPlain : Url.PlainPath Address.pollPath.toList :=
    .of_all (by decide) (by decide)
  obtain ⟨parts, splits⟩ : ∃ parts, client.address.base.path = .segments parts := by
    rw [Address.endpoint] at polls
    split at polls
    next joined joins =>
        exact Url.segments_of_join_plainPath pollPlain joins
    next =>
        cases polls
  obtain ⟨place, isOpen⟩ := Address.openAt_of_ofText isAddress splits
  rw [Address.endpoint_plainPath settled isOpen _ pollPlain] at polls
  cases polls
  have sends := (Request.fault?_eq_none_iff _).mp sendable
  rw [reportRequest, Address.jobEndpoint_eq settled isOpen]
  exact ⟨_, rfl, (Request.fault?_eq_none_iff _).mpr sends⟩

end

/-- A request that can be sent is sent, and its reply is read if it is a success. -/
theorem post_of_sendable
    {peer : Peer κ}
    {request : Request}
    (sendable : request.fault? = none)
    (read : Response → Result α)
    (state : κ) :
    post peer (.ok request) read state =
      ⟨(peer request state).result.bind (accept read), (peer request state).duration,
        (peer request state).state⟩ := by
  simp only [post, sendable]

end Client

/-- A controller that keeps a record of the requests it gets. -/
def Peer.recorded
    (peer : Peer κ) : Peer (κ × List Request) := fun request state =>
  let call := peer request state.1
  ⟨call.result, call.duration, (call.state, state.2 ++ [request])⟩

/-! ## Cycles -/

/-- What a cycle does that gets a job and reports on it: a poll, the dispatch, and one report. -/
def handledCycle
    (peer : Peer κ)
    (request report : Request)
    (job : Job)
    (handled : Handled σ JobOutcome)
    (now : Nat)
    (state : κ) : Agent.Cycle κ σ :=
  let polled := peer request state
  let told := peer report polled.state
  let reply := told.result.bind (Client.accept fun _ => .ok ())
  let received := now + polled.duration
  let finished := received + handled.duration
  { result := reply.map fun _ => true
    actions :=
      [.polled now JobKind.supported (.ok (some job)), .dispatched received job handled.calls,
        .reported finished job.id handled.answer reply]
    ended := finished + told.duration
    controllerState := told.state
    backendState := handled.state }

/-- A cycle whose poll is answered with a job is one that handles the job. -/
theorem pollOnce_of_readPoll
    {client : Client}
    {peer : Peer κ}
    {request report : Request}
    {response : Response}
    {job : Job}
    {connector : Connector σ}
    {now : Nat}
    {state : κ}
    {backendState : σ}
    (asks : client.pollRequest JobKind.supported = .ok request)
    (sendable : request.fault? = none)
    (replies : (peer request state).result = .ok response)
    (success : response.isSuccess = true)
    (reads : readPoll response = .ok (some job))
    (reports :
      client.reportRequest job.id (dispatch connector job backendState).answer = .ok report)
    (reportable : report.fault? = none) :
    Agent.pollOnce (client.controller peer) connector now state backendState =
      handledCycle peer request report job (dispatch connector job backendState) now state := by
  have polls :
      (client.controller peer).getJob JobKind.supported state =
        ⟨.ok (some job), (peer request state).duration, (peer request state).state⟩ := by
    simp only [Client.controller, asks, Client.post_of_sendable sendable, replies, Except.bind,
      Client.accept, success, if_true, reads]
  have tells :
      (client.controller peer).updateJob job.id (dispatch connector job backendState).answer =
        Client.post peer (.ok report) fun _ => .ok () := by
    simp only [Client.controller, reports]
  rw [Agent.pollOnce, polls]
  simp only [tells, Client.post_of_sendable reportable]
  rfl

/--
A job that a reply hands out is dispatched as it stands in the reply, and the
requests of the cycle are the poll and one report, whose body is read as the id
of the job, the agent, and the outcome of the dispatch.  Every orderly reply
that hands out a job is read so, whatever else it holds.
-/
theorem handed_out_job_reported
    {client : Client}
    {text : String}
    (isAddress : Address.ofText text = .ok client.address)
    {peer : Peer κ}
    {state : κ}
    {request : Request}
    (asks : client.pollRequest JobKind.supported = .ok request)
    (sendable : request.fault? = none)
    {response : Response}
    (replies : (peer request state).result = .ok response)
    (success : response.isSuccess = true)
    (connector : Connector σ)
    (now : Nat)
    (backendState : σ) :
    (∀ job,
      readPoll response = .ok (some job) →
        HandsOut (Json.readBytes response.body).root job
          ∧ ∃ report,
            let handled := dispatch connector job backendState
            client.reportRequest job.id handled.answer = .ok report
              ∧ Agent.pollOnce (client.controller peer) connector now state backendState =
                handledCycle peer request report job handled now state
              ∧ (Agent.pollOnce (client.controller peer.recorded) connector now (state, [])
                  backendState).controllerState.2 =
                [request, report]
              ∧ (Json.readBytes report.bytes).decode Json.decodeAny =
                .ok (.object
                  [("agent_id", .text client.agentId),
                    ("error_message", .text handled.answer.errorMessage),
                    ("job_id", .text job.id),
                    ("result_json", .text handled.answer.resultPayload),
                    ("success", .boolean handled.answer.succeeded)]))
      ∧ ∀ root job,
        Json.readBytes response.body = ⟨root, none⟩ →
          root.Orderly →
          root.IsObject →
          (∀ node, root.field? ["job"] 1 = some node → node.IsObject) →
          HandsOut root job →
            readPoll response = .ok (some job) := by
  constructor
  · intro job reads
    obtain ⟨report, reports, reportable⟩ :=
      Client.reportRequest_sendable isAddress asks sendable job.id
        (dispatch connector job backendState).answer
    have recorded :
        Agent.pollOnce (client.controller peer.recorded) connector now (state, []) backendState =
          handledCycle peer.recorded request report job (dispatch connector job backendState) now
            (state, []) :=
      pollOnce_of_readPoll asks sendable replies success reads reports reportable
    refine ⟨handsOut_of_readPoll reads, report, reports, ?_, ?_, decode_reportRequest reports⟩
    · exact pollOnce_of_readPoll asks sendable replies success reads reports reportable
    · rw [recorded]
      rfl
  · intro root job document orderly isObject holdsObject handsOut
    exact (readPoll_eq_some_iff document orderly isObject holdsObject job).mpr handsOut

/-- A client of the controller of this machine. -/
def localClient : Client where
  address := Address.loopback
  token := "secret"
  agentId := "host.agent"
  connectorId := "conn-1"

/-- A reply with a job whose id and payload hold quotes, among other things. -/
def jobReply : Response where
  status := 200
  body :=
    Text.encodeUtf8
      ("\x7b\"version\":[1],\"job\":\x7b\"payload_json\":\"\x7b\\\"n\\\":\\\"\\u00e9\\n\\\"\x7d\","
        ++ "\"kind\":\"ping\",\"id\":\"\\\"1\\\"\"\x7d,\"has_job\":true\x7d").toList

/-- The job that the reply hands out. -/
def quotedJob : Job :=
  ⟨"\"1\"", .ping, "\x7b\"n\":\"é\n\"\x7d"⟩

/-- A backend that answers no probe. -/
def silentBackend : Connector Unit where
  probe := fun _ => ⟨.error notConnected, 3, ()⟩
  run := fun _ _ => ⟨.error notConnected, 3, ()⟩
  close := fun _ => ⟨.ok (), 0, ()⟩

/-- A controller that answers every request with the reply. -/
def jobPeer : Peer Unit :=
  fun _ state => ⟨.ok jobReply, 5, state⟩

theorem handed_out_job_reported_quoted :
    ∃ report : Request,
      readPoll jobReply = .ok (some quotedJob)
        ∧ HandsOut (Json.readBytes jobReply.body).root quotedJob
        ∧ (Json.readBytes report.bytes).decode Json.decodeAny =
          .ok (.object
            [("agent_id", .text "host.agent"),
              ("error_message", .text "Connection to backend failed: Not connected"),
              ("job_id", .text "\"1\""),
              ("result_json", .text "\x7b\x7d"),
              ("success", .boolean false)]) := by
  have isAddress :
      Address.ofText "http://[::1]:9001/api?x" = .ok localClient.address :=
    Address.ofText_loopback
  have settled := Address.settled_of_ofText isAddress
  have isOpen : localClient.address.base.OpenAt ["api".toList] := rfl
  obtain ⟨request, asks, token, scheme⟩ :
      ∃ request,
        localClient.pollRequest JobKind.supported = .ok request
          ∧ request.token = "secret" ∧ request.url.scheme = "http".toList := by
    have polls := Address.pollEndpoint_eq settled isOpen
    exact ⟨_, Json.bind_eq_ok.mpr ⟨_, polls, rfl⟩, rfl, rfl⟩
  have sendable : request.fault? = none := by
    rw [Request.fault?_eq_none_iff, Request.authorization, token, scheme]
    decide
  have replies : (jobPeer request ()).result = .ok jobReply := rfl
  have reads : readPoll jobReply = .ok (some quotedJob) :=
    Json.eq_ok_of_toOption (by decide +kernel)
  obtain ⟨handsOut, report, _, _, _, decodes⟩ :=
    (handed_out_job_reported isAddress asks sendable replies rfl silentBackend 0 ()).1
      quotedJob reads
  exact ⟨report, reads, handsOut, decodes⟩

end QueryAgent.Controller

import QueryAgent.Agent.Controller
import QueryAgent.Controller.Address
import QueryAgent.Json.Decode

namespace QueryAgent.Controller

/-!
# Talking to the controller

What is sent for each call, and what the replies mean.  Every request is a
POST with a JSON body and a token.
-/

/-- A request as it is sent. -/
structure Request where
  url : Url
  token : String
  body : Json

/-- A reply: the status and the bytes of the body. -/
structure Response where
  status : Nat
  body : List UInt8
deriving Repr, DecidableEq

/-- Whoever answers requests; an error means that there was no reply. -/
abbrev Peer (κ : Type) :=
  Request → κ → Call κ Response

/-- A controller that no request reaches. -/
def Peer.unreachable : Peer κ :=
  fun request state =>
    ⟨.error (.transport (.requestFailed
      ("error sending request for url (" ++ request.url.written ++ ")"))), 0, state⟩

namespace Request

/-- The path and the query that the request is for. -/
def target
    (request : Request) : String :=
  request.url.pathText ++ String.ofList (Url.markedText '?' request.url.query)

/-- The first line of the request. -/
def line
    (request : Request) : String :=
  "POST " ++ request.target ++ " HTTP/1.1"

/-- The header by which the request proves who sent it. -/
def authorization
    (request : Request) : String :=
  "Bearer " ++ request.token

/-- The header that says what the body is. -/
def contentType : String := "application/json"

/-- A character that a header can hold. -/
def isHeaderChar
    (character : Char) : Bool :=
  character = '\t' || (0x20 ≤ character.toNat && character.toNat ≠ 0x7f)

/-- Why the request cannot be sent at all, if so. -/
def fault?
    (request : Request) : Option String :=
  if !request.authorization.toList.all isHeaderChar then
    some "builder error: failed to parse header value"
  else if ["http", "https"].contains (String.ofList request.url.scheme) then
    none
  else
    some ("builder error for url (" ++ request.url.written ++ "): URL scheme is not allowed")

end Request

namespace Response

/-- A status that means success. -/
def isSuccess
    (response : Response) : Bool :=
  200 ≤ response.status && response.status < 300

/-- The body as text, a mark of its byte order left out. -/
def text
    (response : Response) : String :=
  match Text.decodeUtf8Lossy response.body with
  | first :: rest =>
      String.ofList (if first.toNat = 0xfeff then rest else first :: rest)
  | [] =>
      ""

end Response

/-- A job as a reply holds it, as far as it has been given. -/
structure JobDraft where
  id : Option String
  kind : Option JobKind
  payload : Option String

/-- The fields of a job in their order. -/
def jobRecord : Json.Record JobDraft where
  name := "struct WireJob"
  fields :=
    [{ name := "id"
       accepted := ["id"]
       mayEndBefore := false
       isGiven := fun draft => draft.id.isSome
       fill := fun depth node draft => do
         let id ← Json.decodeText depth node
         .ok { draft with id := some id } },
     { name := "kind"
       accepted := ["kind"]
       mayEndBefore := false
       isGiven := fun draft => draft.kind.isSome
       fill := fun depth node draft => do
         let kind ← Json.decodeText depth node
         .ok { draft with kind := some (JobKind.ofName kind) } },
     { name := "payload_json"
       accepted := ["payload_json"]
       mayEndBefore := true
       isGiven := fun draft => draft.payload.isSome
       fill := fun depth node draft => do
         let payload ← Json.decodeText depth node
         .ok { draft with payload := some payload } }]

/-- Decodes a job; without a payload it has the empty one. -/
def decodeJob : Json.Decoder Job :=
  jobRecord.decode ⟨none, none, none⟩ fun draft => do
    let id ← Json.required "id" draft.id
    let kind ← Json.required "kind" draft.kind
    .ok ⟨id, kind, draft.payload.getD ""⟩

/-- A reply to a poll: whether there is a job, and the job. -/
structure PollReply where
  hasJob : Bool
  job : Option Job
deriving Repr, DecidableEq

/-- A reply to a poll, as far as it has been given. -/
structure PollDraft where
  hasJob : Option Bool
  job : Option (Option Job)

/-- The fields of a reply to a poll in their order. -/
def pollRecord : Json.Record PollDraft where
  name := "struct PollResponse"
  fields :=
    [{ name := "has_job"
       accepted := ["has_job"]
       mayEndBefore := true
       isGiven := fun draft => draft.hasJob.isSome
       fill := fun depth node draft => do
         let hasJob ← Json.decodeBoolean depth node
         .ok { draft with hasJob := some hasJob } },
     { name := "job"
       accepted := ["job"]
       mayEndBefore := true
       isGiven := fun draft => draft.job.isSome
       fill := fun depth node draft => do
         let job ← Json.decodeOptional decodeJob depth node
         .ok { draft with job := some job } }]

/-- Decodes a reply to a poll; what is not given is no job. -/
def decodePollReply : Json.Decoder PollReply :=
  pollRecord.decode ⟨none, none⟩ fun draft =>
    .ok ⟨draft.hasJob.getD false, draft.job.join⟩

/-- The job that a reply hands out; a reply that claims one has to hold it. -/
def PollReply.job?
    (reply : PollReply) : Result (Option Job) :=
  if reply.hasJob then
    match reply.job with
    | some job =>
        .ok (some job)
    | none =>
        .error (.transport (.invalidResponse "has_job set without a job"))
  else
    .ok none

/-- The job that the body of a reply hands out. -/
def readPoll
    (response : Response) : Result (Option Job) :=
  match (Json.readBytes response.body).decode decodePollReply with
  | .ok reply =>
      reply.job?
  | .error cause =>
      .error (.transport (.invalidResponse
        ("error decoding response body: " ++ cause.message)))

/-- Who talks to the controller, and where. -/
structure Client where
  address : Address
  token : String
  agentId : String
  connectorId : String
deriving Repr, DecidableEq

namespace Client

/-- The client of an agent, by its configuration. -/
def ofConfig
    (config : ControllerConfig)
    (agentId : String) : Result Client := do
  let address ← Address.ofText config.url
  .ok
    { address := address
      token := config.authToken
      agentId := agentId
      connectorId := config.connectorId }

/-- The request that says that the agent is alive. -/
def heartbeatRequest
    (client : Client) : Result Request := do
  let url ← client.address.endpoint Address.heartbeatPath
  .ok
    { url := url
      token := client.token
      body := .object
        [("agent_id", .text client.agentId), ("connector_id", .text client.connectorId)] }

/-- The request for a job of one of the given kinds. -/
def pollRequest
    (client : Client)
    (kinds : List JobKind) : Result Request := do
  let url ← client.address.endpoint Address.pollPath
  .ok
    { url := url
      token := client.token
      body := .object
        [("agent_id", .text client.agentId), ("connector_id", .text client.connectorId),
          ("supported_kinds", .list (kinds.map (fun kind => .text kind.name)))] }

/-- The request that reports the outcome of a job. -/
def reportRequest
    (client : Client)
    (jobId : String)
    (outcome : JobOutcome) : Result Request := do
  let url ← client.address.jobEndpoint jobId
  .ok
    { url := url
      token := client.token
      body := .object
        [("job_id", .text jobId), ("agent_id", .text client.agentId),
          ("success", .boolean outcome.succeeded),
          ("result_json", .text outcome.resultPayload),
          ("error_message", .text outcome.errorMessage)] }

/-- What a reply means when it is a success; any other one is an error. -/
def accept
    (read : Response → Result α)
    (response : Response) : Result α :=
  if response.isSuccess then
    read response
  else
    .error (.transport (.unexpectedStatus response.status response.text))

/-- Sends a request and reads the reply. -/
def post
    (peer : Peer κ)
    (request : Result Request)
    (read : Response → Result α)
    (state : κ) : Call κ α :=
  match request with
  | .error error =>
      ⟨.error error, 0, state⟩
  | .ok request =>
      match request.fault? with
      | some fault =>
          ⟨.error (.transport (.requestFailed fault)), 0, state⟩
      | none =>
          let call := peer request state
          ⟨call.result.bind (accept read), call.duration, call.state⟩

/-- The controller that a client talks to. -/
def controller
    (client : Client)
    (peer : Peer κ) : Agent.Controller κ where
  heartbeat := post peer client.heartbeatRequest (fun _ => .ok ())
  getJob := fun kinds => post peer (client.pollRequest kinds) readPoll
  updateJob := fun jobId outcome =>
    post peer (client.reportRequest jobId outcome) (fun _ => .ok ())

end Client

end QueryAgent.Controller

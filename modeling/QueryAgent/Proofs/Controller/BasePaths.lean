import QueryAgent.Controller.Client
import QueryAgent.Proofs.Controller.JobAddresses
import QueryAgent.Proofs.Url.Slashes

namespace QueryAgent.Controller

/-!
# Base paths

The controller is reached below the whole path of its address, whether or not
that path ends in a slash.  An address whose path has no segments has nothing
below it: then no request is made at all.
-/

/-! ## Addresses with segments -/

/-- The address of a path below another one, which keeps all of what stands before its path. -/
structure IsBelow
    (url : Url)
    (path : String)
    (endpoint : Url) : Prop where
  origin : endpoint = { url with path := endpoint.path, query := none, fragment := none }
  path : endpoint.pathText = Url.endingInSlash url.pathText ++ path

namespace Address

section
variable {address : Address} {place : List (List Char)}
  (settled : address.base.Settled) (isOpen : address.base.OpenAt place)
include settled isOpen

/-- The endpoint at a plain path has the path of the base and this path behind it. -/
theorem exists_endpoint_eq
    (path : String)
    (plain : Url.PlainPath path.toList) :
    ∃ endpoint,
      address.endpoint path = .ok endpoint
        ∧ endpoint =
          { address.base with path := endpoint.path, query := none, fragment := none }
        ∧ endpoint.pathText = address.base.pathText ++ path := by
  obtain ⟨first, rest, split, -⟩ := plain.pathSegments_eq_cons
  refine ⟨_, endpoint_plainPath settled isOpen path plain, rfl, ?_⟩
  rw [split, Url.pathText_below isOpen, Url.append_flatMap_of_pathSegments split,
    String.ofList_toList]

end

/-- The endpoint at a plain path is below the whole path of the address that was opened. -/
theorem exists_endpoint_isBelow
    {text path : String}
    {url : Url}
    {address : Address}
    (web : Url.IsWeb url.scheme)
    (parses : Url.parse text = .ok url)
    (isBase : address.base = url.opened)
    (plain : Url.PlainPath path.toList) :
    ∃ endpoint, address.endpoint path = .ok endpoint ∧ IsBelow url path endpoint := by
  obtain ⟨parts, isPath, -⟩ := Url.exists_path_of_read web parses
  have isOpened := web.opened_eq isPath
  have settled : address.base.Settled := by
    rw [isBase]
    exact (Url.settled_of_parse parses).opened
  obtain ⟨place, isOpen⟩ : ∃ place, address.base.OpenAt place := by
    rw [isBase]
    exact Url.openAt_opened (congrArg Url.path isOpened)
  obtain ⟨endpoint, reaches, origin, spelled⟩ := exists_endpoint_eq settled isOpen path plain
  refine ⟨endpoint, reaches, ?origin, ?path⟩
  case origin =>
      rw [isBase, isOpened] at origin
      exact origin
  case path =>
      rw [spelled, isBase, Url.pathText_opened_of_read web parses]

/-- A text that is read as an address stands for the opened one. -/
theorem ofText_eq_of_parse
    {text : String}
    {url : Url}
    (parses : Url.parse (Text.trim text) = .ok url) :
    ofText text = .ok ⟨url.opened⟩ := by
  unfold ofText
  rw [parses]

/-- Texts that are read as addresses which are opened alike stand for one address. -/
theorem ofText_eq_of_opened
    {text slashed : String}
    {url other : Url}
    (parses : Url.parse (Text.trim text) = .ok url)
    (parsesOther : Url.parse (Text.trim slashed) = .ok other)
    (alike : other.opened = url.opened) :
    ofText slashed = ofText text := by
  rw [ofText_eq_of_parse parses, ofText_eq_of_parse parsesOther, alike]

/-! ## Addresses without segments -/

/-- Why nothing is below an address whose path has no segments. -/
def nothingBelow
    (path : String) : AgentError :=
  .internal
    ("Invalid endpoint '" ++ path ++ "': " ++ Url.Fault.relativeWithPlainBase.message)

theorem endpoint_of_plain
    {address : Address}
    {content : List Char}
    (isPath : address.base.path = .plain content)
    {path : String}
    (plain : Url.PlainPath path.toList) :
    address.endpoint path = .error (nothingBelow path) := by
  rw [endpoint, Url.join, Url.join_plainPath_of_plain plain isPath]
  rfl

end Address

/-! ## Clients -/

namespace Client

/-- The client of a configuration has the address that was read, opened. -/
theorem exists_parse_of_ofConfig
    {config : ControllerConfig}
    {agentId : String}
    {client : Client}
    (accepted : ofConfig config agentId = .ok client) :
    ∃ url, Url.parse (Text.trim config.url) = .ok url ∧ client.address.base = url.opened := by
  obtain ⟨address, isAddress, same⟩ := Json.bind_eq_ok.mp accepted
  cases same
  unfold Address.ofText at isAddress
  split at isAddress
  next url parses =>
      cases isAddress
      exact ⟨url, parses, rfl⟩
  next =>
      cases isAddress

/-- A request that cannot be made is not sent. -/
theorem post_of_error
    {request : Result Request}
    {error : AgentError}
    (fails : request = .error error)
    (peer : Peer κ)
    (read : Response → Result α)
    (state : κ) :
    post peer request read state = ⟨.error error, 0, state⟩ := by
  rw [fails]
  rfl

/-- The paths that a client asks for are plain. -/
theorem plainPath_of_mem
    {path : String}
    (known : path ∈ [Address.heartbeatPath, Address.pollPath, Address.jobsPath]) :
    Url.PlainPath path.toList := by
  simp only [List.mem_cons, List.not_mem_nil, or_false] at known
  rcases known with rfl | rfl | rfl <;>
    exact .of_all (by decide) (by decide)

/--
The heartbeats and polls of a client go to its address, with nothing but their
own path behind the whole path of the address and one slash.  So a slash that is
written behind the path where none is leaves the client as it is.  When nothing
can be below the address, no endpoint is found and no request is sent.
-/
theorem base_path_kept
    {config : ControllerConfig}
    {agentId : String}
    {client : Client}
    (accepted : ofConfig config agentId = .ok client) :
    ∃ url,
      Url.parse (Text.trim config.url) = .ok url
        ∧ (Url.IsWeb url.scheme →
          (∃ request,
            client.heartbeatRequest = .ok request
              ∧ client.address.endpoint Address.heartbeatPath = .ok request.url
              ∧ IsBelow url Address.heartbeatPath request.url)
            ∧ (∀ kinds, ∃ request,
              client.pollRequest kinds = .ok request
                ∧ client.address.endpoint Address.pollPath = .ok request.url
                ∧ IsBelow url Address.pollPath request.url)
            ∧ (∀ slashed,
              Url.SlashAdded (Text.trim config.url).toList (Text.trim slashed).toList →
                url.pathText.toList.getLast? ≠ some '/'
                    ∨ Url.Closed (Text.trim config.url).toList →
                  ofConfig { config with url := slashed } agentId = .ok client)
            ∧ ∀ slashed other,
              Url.parse (Text.trim slashed) = .ok other →
                url.pathText.toList.getLast? ≠ some '/' →
                  other = { url with path := other.path } →
                    other.pathText = url.pathText ++ "/" →
                      ofConfig { config with url := slashed } agentId = .ok client)
        ∧ ∀ content,
          url.path = .plain content →
            (∀ path ∈ [Address.heartbeatPath, Address.pollPath, Address.jobsPath],
              client.address.endpoint path = .error (Address.nothingBelow path))
              ∧ (∀ jobId,
                client.address.jobEndpoint jobId =
                  .error (Address.nothingBelow Address.jobsPath))
              ∧ ∀ {κ : Type} (peer : Peer κ) (state : κ),
                (client.controller peer).heartbeat state =
                    ⟨.error (Address.nothingBelow Address.heartbeatPath), 0, state⟩
                  ∧ (∀ kinds,
                    (client.controller peer).getJob kinds state =
                      ⟨.error (Address.nothingBelow Address.pollPath), 0, state⟩)
                  ∧ ∀ jobId outcome,
                    (client.controller peer).updateJob jobId outcome state =
                      ⟨.error (Address.nothingBelow Address.jobsPath), 0, state⟩ := by
  obtain ⟨url, parses, isBase⟩ := exists_parse_of_ofConfig accepted
  have sameClient :
      ∀ {slashed : String},
        Address.ofText slashed = Address.ofText config.url →
          ofConfig { config with url := slashed } agentId = .ok client := by
    intro slashed same
    unfold ofConfig at accepted ⊢
    rw [same]
    exact accepted
  refine ⟨url, parses, ?web, ?plain⟩
  case web =>
      intro web
      have isBelow :
          ∀ path ∈ [Address.heartbeatPath, Address.pollPath, Address.jobsPath],
            ∃ endpoint,
              client.address.endpoint path = .ok endpoint ∧ IsBelow url path endpoint :=
        fun path known =>
          Address.exists_endpoint_isBelow web parses isBase (plainPath_of_mem known)
      obtain ⟨heartbeat, isHeartbeat, heartbeatBelow⟩ :=
        isBelow Address.heartbeatPath (by simp)
      obtain ⟨poll, isPoll, pollBelow⟩ := isBelow Address.pollPath (by simp)
      refine
        ⟨⟨_, Json.bind_eq_ok.mpr ⟨heartbeat, isHeartbeat, rfl⟩, isHeartbeat, heartbeatBelow⟩,
          fun kinds => ⟨_, Json.bind_eq_ok.mpr ⟨poll, isPoll, rfl⟩, isPoll, pollBelow⟩,
          ?slashed, ?respelled⟩
      case slashed =>
          intro slashed added ends
          have closed : Url.Closed (Text.trim config.url).toList :=
            ends.elim (Url.closed_of_read web parses) id
          obtain ⟨parts, isPath, -⟩ := Url.exists_path_of_read web parses
          have parsesSlashed : Url.parse (Text.trim slashed) = .ok url.opened :=
            Url.read_slashed web parses added closed
          exact
            sameClient
              (Address.ofText_eq_of_opened parses parsesSlashed (web.opened_opened isPath))
      case respelled =>
          intro slashed other parsesOther noSlash alike spelled
          exact
            sameClient
              (Address.ofText_eq_of_opened parses parsesOther
                (Url.opened_eq_of_pathText web parses parsesOther noSlash alike spelled))
  case plain =>
      intro content isPath
      obtain ⟨other, isPlain⟩ := Url.exists_path_opened_of_plain isPath
      rw [← isBase] at isPlain
      have fails :
          ∀ path ∈ [Address.heartbeatPath, Address.pollPath, Address.jobsPath],
            client.address.endpoint path = .error (Address.nothingBelow path) :=
        fun path known => Address.endpoint_of_plain isPlain (plainPath_of_mem known)
      have heartbeat := fails Address.heartbeatPath (by simp)
      have poll := fails Address.pollPath (by simp)
      have jobs := fails Address.jobsPath (by simp)
      have job :
          ∀ jobId,
            client.address.jobEndpoint jobId =
              .error (Address.nothingBelow Address.jobsPath) :=
        fun _ => Json.bind_eq_error.mpr (.inl jobs)
      refine ⟨fails, job, fun peer state => ⟨?_, ?_, ?_⟩⟩
      · exact post_of_error (Json.bind_eq_error.mpr (.inl heartbeat)) peer _ state
      · intro kinds
        exact post_of_error (Json.bind_eq_error.mpr (.inl poll)) peer _ state
      · intro jobId outcome
        exact post_of_error (Json.bind_eq_error.mpr (.inl (job jobId))) peer _ state

/-- The configuration of a controller at an address. -/
def configAt
    (url : String) : ControllerConfig where
  url := url
  connectorId := "conn-1"
  authToken := "secret"
  requestTimeout := 5

/-- A query stays behind a slash that is added, and a mailbox has nothing below it. -/
theorem base_path_kept_loopback :
    (∃ client,
      ofConfig (configAt "http://[::1]:9001/api?x") "agent" = .ok client
        ∧ ofConfig (configAt "http://[::1]:9001/api/?x") "agent" = .ok client
        ∧ ∃ request,
          client.heartbeatRequest = .ok request
            ∧ request.url.pathText = "/api/v1/agents/heartbeat"
            ∧ request.url.query = none)
      ∧ ∃ client,
        ofConfig (configAt "mailto:agents") "agent" = .ok client
          ∧ (client.controller Peer.unreachable).heartbeat () =
            ⟨.error (Address.nothingBelow Address.heartbeatPath), 0, ()⟩ := by
  constructor
  · have parses :
        Url.parse (Text.trim "http://[::1]:9001/api?x") =
          .ok { Address.loopback.base with path := .segments ["api".toList] } :=
      Json.eq_ok_of_toOption (by decide +kernel)
    have accepted :
        ofConfig (configAt "http://[::1]:9001/api?x") "agent" =
          .ok ⟨Address.loopback, "secret", "agent", "conn-1"⟩ :=
      Json.bind_eq_ok.mpr ⟨_, Address.ofText_loopback, rfl⟩
    obtain ⟨url, parsesSame, web, -⟩ := base_path_kept accepted
    obtain rfl := Except.ok.inj (parses.symm.trans parsesSame)
    obtain ⟨⟨request, sends, -, isBelow⟩, -, slashed, -⟩ := web (.inl rfl)
    have added :
        Url.SlashAdded ("http://[::1]:9001/ap".toList ++ 'i' :: "?x".toList)
          ("http://[::1]:9001/ap".toList ++ 'i' :: '/' :: "?x".toList) :=
      Url.slashAdded_insert (by decide) (by decide) (by decide) (by simp [Url.EndsPath])
    exact
      ⟨_, accepted, slashed _ added (.inl (by decide)), request, sends,
        isBelow.path.trans (by decide), congrArg Url.query isBelow.origin⟩
  · have isAddress :
        Address.ofText "mailto:agents" =
          .ok ⟨⟨"mailto".toList, [], [], none, none, .plain "agents/".toList, none, none⟩⟩ :=
      Json.eq_ok_of_toOption (by decide +kernel)
    have parses :
        Url.parse (Text.trim "mailto:agents") =
          .ok ⟨"mailto".toList, [], [], none, none, .plain "agents".toList, none, none⟩ :=
      Json.eq_ok_of_toOption (by decide +kernel)
    have accepted : ofConfig (configAt "mailto:agents") "agent" = .ok ⟨_, _, _, _⟩ :=
      Json.bind_eq_ok.mpr ⟨_, isAddress, rfl⟩
    obtain ⟨url, parsesSame, -, plain⟩ := base_path_kept accepted
    obtain rfl := Except.ok.inj (parses.symm.trans parsesSame)
    exact ⟨_, accepted, ((plain _ rfl).2.2 Peer.unreachable ()).1⟩

end Client

end QueryAgent.Controller

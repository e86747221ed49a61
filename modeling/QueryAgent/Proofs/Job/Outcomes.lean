import QueryAgent.Job.Dispatch
import QueryAgent.Proofs.Json.Tree

namespace QueryAgent

/-!
# Jobs and their outcomes

Every job comes to one outcome, a success with a result or a failure with the
words of its cause.  Which calls the backend takes on the way is told by a
connector that keeps a list of them, so that what a dispatch reports of its
calls is compared with what arrives.
-/

/-- A call that a connector takes. -/
inductive ConnectorCall where
  | probe
  | run (query : Query)
  | close

/-- The call that a connector takes when a job is dispatched. -/
def BackendCall.taken : BackendCall → ConnectorCall
  | .probe => .probe
  | .run query => .run query

namespace Connector

/-- The same connector with a list of the calls it has taken beside its state. -/
def recording
    (connector : Connector σ) : Connector (σ × List ConnectorCall) where
  probe := fun (state, taken) =>
    (connector.probe state).mapState (·, taken ++ [.probe])
  run := fun query (state, taken) =>
    (connector.run query state).mapState (·, taken ++ [.run query])
  close := fun (state, taken) =>
    (connector.close state).mapState (·, taken ++ [.close])

end Connector

/-- What a job succeeds with, by its kind and the answer of the backend. -/
inductive SucceedsWith
    (connector : Connector σ)
    (state : σ)
    (job : Job) : String → Prop where
  | probed
      (isPing : job.kind = .ping)
      (alive : (connector.probe state).result = .ok ()) :
      SucceedsWith connector state job JobOutcome.emptyResult
  | ran
      {query : Query}
      {results : ResultSet}
      (isQuery : job.kind = .query)
      (parsed : Query.ofPayload job.payload = .ok query)
      (answered : (connector.run query state).result = .ok results) :
      SucceedsWith connector state job results.toJson.compact

/-- What a job fails by: the answer of the backend, its payload, or its kind. -/
inductive FailsBy
    (connector : Connector σ)
    (state : σ)
    (job : Job) : AgentError → Prop where
  | probed
      {cause : AgentError}
      (isPing : job.kind = .ping)
      (dead : (connector.probe state).result = .error cause) :
      FailsBy connector state job cause
  | unread
      {cause : AgentError}
      (isQuery : job.kind = .query)
      (refused : Query.ofPayload job.payload = .error cause) :
      FailsBy connector state job cause
  | ran
      {query : Query}
      {cause : AgentError}
      (isQuery : job.kind = .query)
      (parsed : Query.ofPayload job.payload = .ok query)
      (answered : (connector.run query state).result = .error cause) :
      FailsBy connector state job cause
  | notImplemented
      (known : job.kind = .fetchColumns ∨ job.kind = .schemaRefresh) :
      FailsBy connector state job (.dispatch (.notImplemented job.kind.name))
  | unknown
      {name : String}
      (unknown : job.kind = .unknown name) :
      FailsBy connector state job (.dispatch (.unknownKind name))

/-- The words in front of the name of a kind that is not carried out. -/
def JobKind.refusal
    (kind : JobKind) : String :=
  if kind.isUnknown then "unhandled job kind: " else "job kind not implemented: "

/-- The calls that a job brings the backend: at most one. -/
inductive Brings (job : Job) : List ConnectorCall → Prop where
  | probe
      (isPing : job.kind = .ping) :
      Brings job [.probe]
  | run
      {query : Query}
      (isQuery : job.kind = .query)
      (parsed : Query.ofPayload job.payload = .ok query) :
      Brings job [.run query]
  | unread
      {cause : AgentError}
      (isQuery : job.kind = .query)
      (refused : Query.ofPayload job.payload = .error cause) :
      Brings job []
  | other
      (noPing : job.kind ≠ .ping)
      (noQuery : job.kind ≠ .query) :
      Brings job []

/-- What a dispatch comes to: at most one call to the backend, or a refusal without one. -/
inductive Dispatches
    (connector : Connector σ)
    (state : σ)
    (job : Job) : Handled σ JobOutcome → Prop where
  | probed
      {call : Call σ Unit}
      (isPing : job.kind = .ping)
      (told : connector.probe state = call) :
      Dispatches connector state job
        { answer := .ofResult (call.result.map fun _ => JobOutcome.emptyResult)
          duration := call.duration
          state := call.state
          calls := [.probe] }
  | unread
      {cause : AgentError}
      (isQuery : job.kind = .query)
      (refused : Query.ofPayload job.payload = .error cause) :
      Dispatches connector state job ⟨.failure cause.jobMessage, 0, state, []⟩
  | ran
      {query : Query}
      {call : Call σ ResultSet}
      (isQuery : job.kind = .query)
      (parsed : Query.ofPayload job.payload = .ok query)
      (told : connector.run query state = call) :
      Dispatches connector state job
        { answer := .ofResult (call.result.map fun results => results.toJson.compact)
          duration := call.duration
          state := call.state
          calls := [.run query] }
  | notImplemented
      (known : job.kind = .fetchColumns ∨ job.kind = .schemaRefresh) :
      Dispatches connector state job
        ⟨.failure ("job kind not implemented: " ++ job.kind.name), 0, state, []⟩
  | unknown
      {name : String}
      (unknown : job.kind = .unknown name) :
      Dispatches connector state job
        ⟨.failure ("unhandled job kind: " ++ name), 0, state, []⟩

section Dispatching

variable
  (connector : Connector σ)
  (job : Job)
  (state : σ)

theorem dispatches_dispatch :
    Dispatches connector state job (dispatch connector job state) := by
  obtain ⟨id, kind, payload⟩ := job
  cases kind with
  | ping =>
      exact .probed rfl rfl
  | query =>
      unfold dispatch handle
      cases read : Query.ofPayload payload with
      | error cause =>
          exact .unread rfl read
      | ok query =>
          exact .ran rfl read rfl
  | fetchColumns =>
      exact .notImplemented (.inl rfl)
  | schemaRefresh =>
      exact .notImplemented (.inr rfl)
  | unknown name =>
      exact .unknown rfl

/-- Recording the calls changes nothing else, and what is recorded is what a dispatch tells. -/
theorem dispatch_recording
    (taken : List ConnectorCall) :
    dispatch connector.recording job (state, taken) =
      { answer := (dispatch connector job state).answer
        duration := (dispatch connector job state).duration
        state :=
          ((dispatch connector job state).state,
            taken ++ (dispatch connector job state).calls.map BackendCall.taken)
        calls := (dispatch connector job state).calls } := by
  obtain ⟨id, kind, payload⟩ := job
  cases kind with
  | ping =>
      rfl
  | query =>
      unfold dispatch handle
      cases Query.ofPayload payload with
      | error cause =>
          simp
      | ok query =>
          rfl
  | fetchColumns
  | schemaRefresh
  | unknown name =>
      simp [dispatch, handle]

end Dispatching

section Outcomes

variable
  {connector : Connector σ}
  {job : Job}
  {state : σ}
  {handled : Handled σ JobOutcome}

/-- A dispatch tells the calls that the job brings. -/
theorem Dispatches.brings
    (dispatches : Dispatches connector state job handled) :
    Brings job (handled.calls.map BackendCall.taken) := by
  cases dispatches with
  | probed isPing _ =>
      exact .probe isPing
  | unread isQuery refused =>
      exact .unread isQuery refused
  | ran isQuery parsed _ =>
      exact .run isQuery parsed
  | notImplemented known =>
      rcases known with known | known
      all_goals
        exact .other (by simp [known]) (by simp [known])
  | unknown unknown =>
      exact .other (by simp [unknown]) (by simp [unknown])

/-- Without a call to the backend a dispatch leaves its state and takes no time. -/
theorem Dispatches.untouched
    (dispatches : Dispatches connector state job handled)
    (noCalls : handled.calls = []) :
    handled.state = state ∧ handled.duration = 0 := by
  cases dispatches with
  | probed
  | ran =>
      cases noCalls
  | unread
  | notImplemented
  | unknown =>
      exact ⟨rfl, rfl⟩

/-- Every dispatch is a success or a failure, and the outcome says which and by what. -/
theorem Dispatches.succeeds_or_fails
    (dispatches : Dispatches connector state job handled) :
    (∃ payload,
      SucceedsWith connector state job payload ∧
        handled.answer = .success payload) ∨
      ∃ cause,
        FailsBy connector state job cause ∧
          handled.answer = .failure cause.jobMessage := by
  cases dispatches with
  | @probed call isPing told =>
      cases answered : call.result with
      | error cause =>
          exact .inr ⟨cause, .probed isPing (told ▸ answered), rfl⟩
      | ok _ =>
          exact .inl ⟨_, .probed isPing (told ▸ answered), rfl⟩
  | @unread cause isQuery refused =>
      exact .inr ⟨cause, .unread isQuery refused, rfl⟩
  | @ran query call isQuery parsed told =>
      cases answered : call.result with
      | error cause =>
          exact .inr ⟨cause, .ran isQuery parsed (told ▸ answered), rfl⟩
      | ok results =>
          exact .inl ⟨_, .ran isQuery parsed (told ▸ answered), rfl⟩
  | notImplemented known =>
      exact .inr ⟨_, .notImplemented known, rfl⟩
  | unknown unknown =>
      exact .inr ⟨_, .unknown unknown, rfl⟩

/-- What a job succeeds with is one JSON value. -/
theorem SucceedsWith.readable
    {payload : String}
    (succeeds : SucceedsWith connector state job payload) :
    ∃ node, Json.read payload = ⟨node, none⟩ := by
  cases succeeds with
  | probed =>
      exact ⟨_, Json.read_compact (.object [])⟩
  | ran =>
      exact ⟨_, Json.read_compact _⟩

/-- A job of a kind that the agent does not carry out fails by its name. -/
theorem Dispatches.names_kind
    (dispatches : Dispatches connector state job handled)
    (noPing : job.kind ≠ .ping)
    (noQuery : job.kind ≠ .query) :
    handled.answer = .failure (job.kind.refusal ++ job.kind.name) := by
  cases dispatches with
  | probed isPing _ =>
      exact (noPing isPing).elim
  | unread isQuery _
  | ran isQuery _ _ =>
      exact (noQuery isQuery).elim
  | notImplemented known =>
      rcases known with known | known <;>
        rw [known] <;>
        rfl
  | unknown unknown =>
      rw [unknown]
      rfl

/-- A job does not both succeed and fail. -/
theorem SucceedsWith.not_failsBy
    {payload : String}
    (succeeds : SucceedsWith connector state job payload)
    (cause : AgentError) :
    ¬ FailsBy connector state job cause := by
  intro fails
  cases succeeds with
  | probed isPing alive =>
      cases fails <;> simp_all
  | ran isQuery parsed answered =>
      cases fails <;> simp_all

end Outcomes

/--
A dispatch comes to one outcome: a success with the text of one JSON value and
no error, or a failure with an empty object and the words of its cause.  It
succeeds exactly when the backend answers the probe, or a payload that can be
read is run.  A connector that records its calls is probed once by a ping, runs
the query of the payload once, and is left alone by every other job; a kind that
is neither fails by its name.
-/
theorem dispatch_one_outcome
    (connector : Connector σ)
    (job : Job)
    (state : σ)
    (taken : List ConnectorCall) :
    let handled := dispatch connector job state
    let recorded := dispatch connector.recording job (state, taken)
    ((∃ payload,
        SucceedsWith connector state job payload ∧
          handled.answer = ⟨true, payload, ""⟩) ∨
      ∃ cause,
        FailsBy connector state job cause ∧
          handled.answer = ⟨false, "\x7b\x7d", cause.jobMessage⟩) ∧
      (handled.answer.succeeded = true ↔
        ∃ payload, SucceedsWith connector state job payload) ∧
      (∃ node, Json.read handled.answer.resultPayload = ⟨node, none⟩) ∧
      (∃ calls,
        Brings job calls ∧
          recorded.answer = handled.answer ∧
          recorded.state = (handled.state, taken ++ calls) ∧
          (calls = [] → handled.state = state ∧ handled.duration = 0)) ∧
      (job.kind ≠ .ping →
        job.kind ≠ .query →
        handled.answer =
          ⟨false, "\x7b\x7d", job.kind.refusal ++ job.kind.name⟩) := by
  intro handled recorded
  have dispatches : Dispatches connector state job handled :=
    dispatches_dispatch connector job state
  have settled := dispatches.succeeds_or_fails
  refine ⟨settled, ?_, ?_, ?_, dispatches.names_kind⟩
  · constructor
    · intro succeeded
      rcases settled with ⟨payload, succeeds, _⟩ | ⟨_, _, answer⟩
      · exact ⟨payload, succeeds⟩
      · rw [answer] at succeeded
        cases succeeded
    · rintro ⟨_, succeeds⟩
      rcases settled with ⟨_, _, answer⟩ | ⟨cause, fails, _⟩
      · rw [answer]
        rfl
      · exact (succeeds.not_failsBy cause fails).elim
  · rcases settled with ⟨_, succeeds, answer⟩ | ⟨_, _, answer⟩
    · rw [answer]
      exact succeeds.readable
    · rw [answer]
      exact ⟨_, Json.read_compact (.object [])⟩
  · have records := dispatch_recording connector job state taken
    refine
      ⟨handled.calls.map BackendCall.taken, dispatches.brings,
        congrArg Handled.answer records, congrArg Handled.state records, ?_⟩
    intro noCalls
    exact dispatches.untouched (List.map_eq_nil_iff.mp noCalls)

/-- A backend that answers every query with no rows, and no probe. -/
def emptyBackend : Connector Nat where
  probe := fun state => ⟨.error notConnected, 3, state + 1⟩
  run := fun _ state => ⟨.ok (.ofRows []), 7, state + 1⟩
  close := fun state => ⟨.ok (), 0, state⟩

/-- A query is run once, and a job of a kind nobody knows is refused by name without a call. -/
theorem dispatch_one_outcome_vacuum :
    let query : Job := ⟨"7", .query, "\x7b\"table\":\"orders\"\x7d"⟩
    let vacuum : Job := ⟨"8", .unknown "vacuum", ""⟩
    (dispatch emptyBackend query 0).answer.succeeded = true ∧
      (∃ calls,
        Brings query calls ∧
          (dispatch emptyBackend.recording query (0, [])).state.2 = calls) ∧
      (dispatch emptyBackend vacuum 1).answer =
        ⟨false, "\x7b\x7d", "unhandled job kind: vacuum"⟩ := by
  intro query vacuum
  obtain ⟨_, succeeds, _, ⟨calls, brings, _, recorded, _⟩, _⟩ :=
    dispatch_one_outcome emptyBackend query 0 []
  obtain ⟨_, _, _, _, named⟩ :=
    dispatch_one_outcome emptyBackend vacuum 1 []
  refine ⟨succeeds.mpr ?_, ⟨calls, brings, ?_⟩, ?_⟩
  · have reads : (Query.ofPayload query.payload).toOption.isSome = true := by
      decide +kernel
    cases parsed : Query.ofPayload query.payload with
    | error cause =>
        rw [parsed] at reads
        cases reads
    | ok read =>
        exact ⟨_, .ran rfl parsed rfl⟩
  · rw [recorded]
    rfl
  · rw [named (by decide) (by decide)]
    rfl

end QueryAgent

import QueryAgent.Proofs.Agent.Cycles
import QueryAgent.Proofs.Job.Outcomes

namespace QueryAgent.Agent

/-!
# The two tasks of an agent, side by side

A run is told here as the steps of two tasks that go on at the same time: the
worker runs the job loop, waits for the other task and closes the backend; the
pulse runs the heartbeat loop.  Which of them goes next, when it does, what the
controller answers and how long a call takes is left open, so whatever holds of
every moment that can be reached holds of every interleaving.  At the very time
of the cancellation a task may find itself before it or behind it.
-/

/-- An action together with when it was over. -/
structure Span where
  action : Action
  ended : Nat

/-- Where the worker stands: in the job loop, at the end of it, or behind it. -/
inductive Stage where
  | waiting
  | holding (job : Job)
  | reporting (id : String) (outcome : JobOutcome)
  | joining
  | closing
  | returned (result : Result Unit)

/-- Where a poll leaves the worker. -/
def Stage.afterPoll : Result (Option Job) → Stage
  | .ok (some job) => .holding job
  | _ => .waiting

/-- The worker, when its last call is over, and the backend that only it uses. -/
structure Worker (σ : Type) where
  stage : Stage
  free : Nat
  backend : σ

/-- The pulse: whether its loop goes on, and when its last call is over. -/
structure Pulse where
  beating : Bool
  free : Nat

/-- A moment of a run, with everything that was done so far. -/
structure Moment (σ : Type) where
  clock : Nat
  worker : Worker σ
  pulse : Pulse
  spans : List Span

/-- The moment at which both tasks begin. -/
def Moment.initial
    (start : Nat)
    (backend : σ) : Moment σ where
  clock := start
  worker := ⟨.waiting, start, backend⟩
  pulse := ⟨true, start⟩
  spans := []

/-- What was done up to a moment. -/
def Moment.actions
    (moment : Moment σ) : List Action :=
  moment.spans.map Span.action

section System

variable
  (connector : Connector σ)
  (cancelled : Nat)

/-- What the worker does in the job loop; only a poll looks at the cancellation first. -/
inductive Works : Worker σ → Span → Worker σ → Prop where
  | polls
      {free now lasts : Nat}
      {backend : σ}
      {reply : Result (Option Job)}
      (idle : free ≤ now)
      (uncancelled : now ≤ cancelled) :
      Works ⟨.waiting, free, backend⟩
        ⟨.polled now JobKind.supported reply, now + lasts⟩
        ⟨.afterPoll reply, now + lasts, backend⟩
  | dispatches
      {free now : Nat}
      {backend : σ}
      {job : Job}
      {handled : Handled σ JobOutcome}
      (idle : free ≤ now)
      (comes : dispatch connector job backend = handled) :
      Works ⟨.holding job, free, backend⟩
        ⟨.dispatched now job handled.calls, now + handled.duration⟩
        ⟨.reporting job.id handled.answer, now + handled.duration,
          handled.state⟩
  | reports
      {free now lasts : Nat}
      {backend : σ}
      {id : String}
      {outcome : JobOutcome}
      {reply : Result Unit}
      (idle : free ≤ now) :
      Works ⟨.reporting id outcome, free, backend⟩
        ⟨.reported now id outcome reply, now + lasts⟩
        ⟨.waiting, now + lasts, backend⟩

/-- What the pulse does: it looks at the cancellation and sends a heartbeat. -/
inductive Beats : Pulse → Span → Pulse → Prop where
  | beats
      {free now lasts : Nat}
      {reply : Result Unit}
      (idle : free ≤ now)
      (uncancelled : now ≤ cancelled) :
      Beats ⟨true, free⟩ ⟨.heartbeat now reply, now + lasts⟩
        ⟨true, now + lasts⟩

/--
One step of the whole agent, of the worker or of the pulse, at the time of the
last one or later.  Each loop is left once the cancellation is seen; the worker
waits for the pulse before it closes the backend, and returns with no error,
whatever the backend answered.
-/
inductive Step : Moment σ → Moment σ → Prop where
  | works
      {clock : Nat}
      {worker next : Worker σ}
      {pulse : Pulse}
      {spans : List Span}
      {span : Span}
      (later : clock ≤ span.action.time)
      (takes : Works connector cancelled worker span next) :
      Step ⟨clock, worker, pulse, spans⟩
        ⟨span.action.time, next, pulse, spans ++ [span]⟩
  | beats
      {clock : Nat}
      {worker : Worker σ}
      {pulse next : Pulse}
      {spans : List Span}
      {span : Span}
      (later : clock ≤ span.action.time)
      (takes : Beats cancelled pulse span next) :
      Step ⟨clock, worker, pulse, spans⟩
        ⟨span.action.time, worker, next, spans ++ [span]⟩
  | leaves
      {clock now free : Nat}
      {backend : σ}
      {pulse : Pulse}
      {spans : List Span}
      (later : clock ≤ now)
      (idle : free ≤ now)
      (seen : cancelled ≤ now) :
      Step ⟨clock, ⟨.waiting, free, backend⟩, pulse, spans⟩
        ⟨now, ⟨.joining, free, backend⟩, pulse, spans⟩
  | rests
      {clock now free : Nat}
      {worker : Worker σ}
      {spans : List Span}
      (later : clock ≤ now)
      (idle : free ≤ now)
      (seen : cancelled ≤ now) :
      Step ⟨clock, worker, ⟨true, free⟩, spans⟩
        ⟨now, worker, ⟨false, free⟩, spans⟩
  | closes
      {clock now free rested : Nat}
      {backend : σ}
      {spans : List Span}
      {call : Call σ Unit}
      (later : clock ≤ now)
      (told : connector.close backend = call) :
      Step ⟨clock, ⟨.joining, free, backend⟩, ⟨false, rested⟩, spans⟩
        ⟨now, ⟨.closing, now + call.duration, call.state⟩, ⟨false, rested⟩,
          spans ++ [⟨.closed now call.result, now + call.duration⟩]⟩
  | returns
      {clock now free : Nat}
      {backend : σ}
      {pulse : Pulse}
      {spans : List Span}
      (later : clock ≤ now)
      (idle : free ≤ now) :
      Step ⟨clock, ⟨.closing, free, backend⟩, pulse, spans⟩
        ⟨now, ⟨.returned (.ok ()), free, backend⟩, pulse, spans⟩

/-- The moments that a run comes to from a moment. -/
inductive Reaches (first : Moment σ) : Moment σ → Prop where
  | here :
      Reaches first first
  | step
      {moment next : Moment σ}
      (reaches : Reaches first moment)
      (steps : Step connector cancelled moment next) :
      Reaches first next

end System

/-- Whether an action is the closing of the backend. -/
def Action.isClosing : Action → Bool
  | .closed _ _ => true
  | _ => false

/-- The job that the worker has been handed and has not dispatched yet. -/
def Stage.held : Stage → List Job
  | .holding job => [job]
  | _ => []

/-- The id of the job that the worker has dispatched and has not reported on yet. -/
def Stage.owed : Stage → List String
  | .reporting id _ => [id]
  | _ => []

/-- Whether the worker has begun to close the backend. -/
def Stage.isClosing : Stage → Bool
  | .closing => true
  | .returned _ => true
  | _ => false

/-- The jobs that a list of actions handed out. -/
def handedOut
    (actions : List Action) : List Job :=
  actions.filterMap Action.handedOut?

/-- The jobs that a list of actions dispatched. -/
def dispatchedJobs
    (actions : List Action) : List Job :=
  actions.filterMap Action.dispatchedJob?

/-- The ids that a list of actions reported on. -/
def reportedIds
    (actions : List Action) : List String :=
  actions.filterMap Action.reportedId?

/--
The jobs that were handed out are dispatched in their order, up to the one in
the worker's hands, and those that were dispatched are reported on in theirs.
-/
structure JobsKept
    (actions : List Action)
    (stage : Stage) : Prop where
  dispatched :
    handedOut actions = dispatchedJobs actions ++ stage.held
  reported :
    (dispatchedJobs actions).map Job.id = reportedIds actions ++ stage.owed

/-- An action that takes the jobs in the worker's hands from one stage to another. -/
structure Carries
    (stage : Stage)
    (action : Action)
    (next : Stage) : Prop where
  held :
    stage.held ++ handedOut [action] = dispatchedJobs [action] ++ next.held
  owed :
    stage.owed ++ (dispatchedJobs [action]).map Job.id =
      reportedIds [action] ++ next.owed

/-- The spans of a run that ends with the closing of the backend, behind everything else. -/
structure ClosedLast
    (spans before : List Span)
    (time : Nat)
    (reply : Result Unit)
    (ended : Nat) : Prop where
  last :
    spans = before ++ [⟨.closed time reply, ended⟩]
  finished :
    ∀ span ∈ before, span.ended ≤ time
  once :
    ∀ span ∈ before, span.action.isClosing = false

/--
What holds of every moment of a run.  No call outlasts the time at which its
task is free again, and a task that has left its loop is free; every job is
kept; the backend is closed behind everything else, and only once the pulse
rests.
-/
structure Orderly
    (moment : Moment σ) : Prop where
  finished :
    ∀ span ∈ moment.spans,
      span.ended ≤ max moment.worker.free moment.pulse.free
  joined :
    moment.worker.stage = .joining → moment.worker.free ≤ moment.clock
  rested :
    moment.pulse.beating = false → moment.pulse.free ≤ moment.clock
  jobs :
    JobsKept moment.actions moment.worker.stage
  opened :
    moment.worker.stage.isClosing = false →
    ∀ span ∈ moment.spans, span.action.isClosing = false
  closed :
    moment.worker.stage.isClosing = true →
    moment.pulse.beating = false ∧
      ∃ before time reply ended,
        ClosedLast moment.spans before time reply ended

/-- How many steps the worker takes at most until it returns, if it begins no other cycle. -/
def Stage.ahead : Stage → Nat
  | .holding _ => 5
  | .reporting _ _ => 4
  | .waiting => 3
  | .joining => 2
  | .closing => 1
  | .returned _ => 0

/-- How many steps both tasks take at most, if neither begins another round. -/
def Moment.ahead
    (moment : Moment σ) : Nat :=
  moment.worker.stage.ahead + moment.pulse.beating.toNat

/-- The calls that an action brings the backend. -/
def Action.connectorCalls : Action → List ConnectorCall
  | .dispatched _ _ calls => calls.map BackendCall.taken
  | .closed _ _ => [.close]
  | _ => []

/-- No run from a moment goes on forever. -/
def Halts
    (connector : Connector σ)
    (cancelled : Nat)
    (moment : Moment σ) : Prop :=
  Acc (fun later earlier => Step connector cancelled earlier later) moment

section Steps

variable
  {connector : Connector σ}
  {cancelled : Nat}

/-- What the worker does in the job loop takes it from one end of a call to the next. -/
theorem Works.takes_time
    {worker next : Worker σ}
    {span : Span}
    (takes : Works connector cancelled worker span next) :
    worker.free ≤ span.action.time ∧
      span.action.time ≤ span.ended ∧
      next.free = span.ended := by
  cases takes with
  | polls idle _
  | dispatches idle _
  | reports idle =>
      exact ⟨idle, Nat.le_add_right _ _, rfl⟩

/-- In the job loop the backend is not closed. -/
theorem Works.keeps_open
    {worker next : Worker σ}
    {span : Span}
    (takes : Works connector cancelled worker span next) :
    span.action.isClosing = false ∧
      worker.stage.isClosing = false ∧
      next.stage.isClosing = false ∧
      next.stage ≠ .joining := by
  cases takes with
  | @polls _ _ _ _ reply _ _ =>
      rcases reply with _ | (_ | _) <;>
        simp [Action.isClosing, Stage.isClosing, Stage.afterPoll]
  | dispatches _ _
  | reports _ =>
      simp [Action.isClosing, Stage.isClosing]

/-- A job that is handed out is dispatched next, and one that was dispatched reported on. -/
theorem Works.carries
    {worker next : Worker σ}
    {span : Span}
    (takes : Works connector cancelled worker span next) :
    Carries worker.stage span.action next.stage := by
  cases takes with
  | @polls _ _ _ _ reply _ _ =>
      rcases reply with _ | (_ | _) <;>
        exact ⟨rfl, rfl⟩
  | dispatches _ _
  | reports _ =>
      exact ⟨rfl, rfl⟩

/-- A heartbeat takes the pulse from one end of a call to the next and leaves all else alone. -/
theorem Beats.takes_time
    {pulse next : Pulse}
    {span : Span}
    (takes : Beats cancelled pulse span next) :
    pulse.free ≤ span.action.time ∧
      span.action.time ≤ span.ended ∧
      next.free = span.ended ∧
      pulse.beating = true ∧
      next.beating = true := by
  cases takes with
  | beats idle _ =>
      exact ⟨idle, Nat.le_add_right _ _, rfl, rfl, rfl⟩

/-- A heartbeat neither closes the backend nor touches a job. -/
theorem Beats.apart
    {pulse next : Pulse}
    {span : Span}
    (takes : Beats cancelled pulse span next)
    (stage : Stage) :
    span.action.isClosing = false ∧ Carries stage span.action stage := by
  cases takes with
  | beats _ _ =>
      exact ⟨rfl, List.append_nil _, List.append_nil _⟩

/-- What carries the jobs on keeps them. -/
theorem JobsKept.append
    {actions : List Action}
    {action : Action}
    {stage next : Stage}
    (kept : JobsKept actions stage)
    (carries : Carries stage action next) :
    JobsKept (actions ++ [action]) next := by
  constructor
  · calc handedOut (actions ++ [action])
        = handedOut actions ++ handedOut [action] :=
          List.filterMap_append
      _ = dispatchedJobs actions ++ (stage.held ++ handedOut [action]) := by
          rw [kept.dispatched, List.append_assoc]
      _ = dispatchedJobs (actions ++ [action]) ++ next.held := by
          rw [carries.held, ← List.append_assoc, dispatchedJobs,
            dispatchedJobs, dispatchedJobs, List.filterMap_append]
  · calc (dispatchedJobs (actions ++ [action])).map Job.id
        = (dispatchedJobs actions).map Job.id ++
            (dispatchedJobs [action]).map Job.id := by
          rw [dispatchedJobs, List.filterMap_append, List.map_append]
          rfl
      _ = reportedIds actions ++
            (stage.owed ++ (dispatchedJobs [action]).map Job.id) := by
          rw [kept.reported, List.append_assoc]
      _ = reportedIds (actions ++ [action]) ++ next.owed := by
          rw [carries.owed, ← List.append_assoc, reportedIds, reportedIds,
            reportedIds, List.filterMap_append]

/-- The two tasks begin in order. -/
theorem orderly_initial
    (start : Nat)
    (backend : σ) :
    Orderly (Moment.initial start backend) where
  finished := by
    intro span member
    cases member
  joined := nofun
  rested := nofun
  jobs := ⟨rfl, rfl⟩
  opened := by
    intro _ span member
    cases member
  closed := nofun

/-- What the worker does in the job loop keeps the order. -/
theorem Orderly.works
    {clock : Nat}
    {worker next : Worker σ}
    {pulse : Pulse}
    {spans : List Span}
    {span : Span}
    (orderly : Orderly ⟨clock, worker, pulse, spans⟩)
    (later : clock ≤ span.action.time)
    (takes : Works connector cancelled worker span next) :
    Orderly ⟨span.action.time, next, pulse, spans ++ [span]⟩ := by
  obtain ⟨idle, forward, frees⟩ := takes.takes_time
  obtain ⟨noClosing, wasOpen, staysOpen, notJoining⟩ := takes.keeps_open
  constructor
  · have earlier :
        ∀ each ∈ spans, each.ended ≤ max next.free pulse.free := by
      intro each member
      have endsBy := orderly.finished each member
      simp only at endsBy
      omega
    have own : span.ended ≤ max next.free pulse.free :=
      frees ▸ Nat.le_max_left _ _
    exact
      List.forall_mem_append.mpr
        ⟨earlier, List.forall_mem_singleton.mpr own⟩
  · intro joining
    exact (notJoining joining).elim
  · intro resting
    exact Nat.le_trans (orderly.rested resting) later
  · rw [Moment.actions, List.map_append]
    exact orderly.jobs.append takes.carries
  · intro _
    exact
      List.forall_mem_append.mpr
        ⟨orderly.opened wasOpen, List.forall_mem_singleton.mpr noClosing⟩
  · intro closing
    rw [staysOpen] at closing
    cases closing

/-- A heartbeat keeps the order, and is sent only while the backend is open. -/
theorem Orderly.beats
    {clock : Nat}
    {worker : Worker σ}
    {pulse next : Pulse}
    {spans : List Span}
    {span : Span}
    (orderly : Orderly ⟨clock, worker, pulse, spans⟩)
    (later : clock ≤ span.action.time)
    (takes : Beats cancelled pulse span next) :
    Orderly ⟨span.action.time, worker, next, spans ++ [span]⟩ := by
  obtain ⟨idle, forward, frees, beating, beatsOn⟩ := takes.takes_time
  obtain ⟨noClosing, carries⟩ := takes.apart worker.stage
  constructor
  · have earlier :
        ∀ each ∈ spans, each.ended ≤ max worker.free next.free := by
      intro each member
      have endsBy := orderly.finished each member
      simp only at endsBy
      omega
    have own : span.ended ≤ max worker.free next.free :=
      frees ▸ Nat.le_max_right _ _
    exact
      List.forall_mem_append.mpr
        ⟨earlier, List.forall_mem_singleton.mpr own⟩
  · intro joining
    exact Nat.le_trans (orderly.joined joining) later
  · intro resting
    rw [beatsOn] at resting
    cases resting
  · rw [Moment.actions, List.map_append]
    exact orderly.jobs.append carries
  · intro isOpen
    exact
      List.forall_mem_append.mpr
        ⟨orderly.opened isOpen, List.forall_mem_singleton.mpr noClosing⟩
  · -- The worker closes the backend only once the pulse rests.
    intro closing
    have resting := (orderly.closed closing).1
    rw [beating] at resting
    cases resting

/-- When the worker closes the backend, every call of either task is over. -/
theorem Orderly.closes
    {clock now free rested : Nat}
    {backend : σ}
    {spans : List Span}
    {call : Call σ Unit}
    (orderly :
      Orderly ⟨clock, ⟨.joining, free, backend⟩, ⟨false, rested⟩, spans⟩)
    (later : clock ≤ now) :
    Orderly
      ⟨now, ⟨.closing, now + call.duration, call.state⟩, ⟨false, rested⟩,
        spans ++ [⟨.closed now call.result, now + call.duration⟩]⟩ := by
  have overByNow : ∀ each ∈ spans, each.ended ≤ now := by
    intro each member
    have endsBy := orderly.finished each member
    have workerFree := orderly.joined rfl
    have pulseFree := orderly.rested rfl
    simp only at endsBy workerFree pulseFree
    omega
  constructor
  · have earlier :
        ∀ each ∈ spans, each.ended ≤ max (now + call.duration) rested := by
      intro each member
      have endsBy := overByNow each member
      omega
    exact
      List.forall_mem_append.mpr
        ⟨earlier, List.forall_mem_singleton.mpr (Nat.le_max_left _ _)⟩
  · nofun
  · intro _
    exact Nat.le_trans (orderly.rested rfl) later
  · rw [Moment.actions, List.map_append]
    exact
      orderly.jobs.append ⟨List.append_nil _, List.append_nil _⟩
  · nofun
  · intro _
    exact ⟨rfl, _, _, _, _, rfl, overByNow, orderly.opened rfl⟩

/-- Every step keeps the order. -/
theorem Orderly.step
    {moment next : Moment σ}
    (orderly : Orderly moment)
    (steps : Step connector cancelled moment next) :
    Orderly next := by
  cases steps with
  | works later takes =>
      exact orderly.works later takes
  | beats later takes =>
      exact orderly.beats later takes
  | leaves later idle _ =>
      exact
        { finished := orderly.finished
          joined := fun _ => idle
          rested := fun resting =>
            Nat.le_trans (orderly.rested resting) later
          jobs := ⟨orderly.jobs.dispatched, orderly.jobs.reported⟩
          opened := fun _ => orderly.opened rfl
          closed := nofun }
  | rests later idle _ =>
      exact
        { finished := orderly.finished
          joined := fun joining =>
            Nat.le_trans (orderly.joined joining) later
          rested := fun _ => idle
          jobs := orderly.jobs
          opened := orderly.opened
          closed := fun closing => ⟨rfl, (orderly.closed closing).2⟩ }
  | closes later _ =>
      exact orderly.closes later
  | returns later idle =>
      exact
        { finished := orderly.finished
          joined := nofun
          rested := fun resting =>
            Nat.le_trans (orderly.rested resting) later
          jobs := ⟨orderly.jobs.dispatched, orderly.jobs.reported⟩
          opened := nofun
          closed := fun _ => orderly.closed rfl }

/-- Whatever a run comes to from its beginning is in order. -/
theorem Reaches.orderly
    {start : Nat}
    {backend : σ}
    {moment : Moment σ}
    (reaches : Reaches connector cancelled (.initial start backend) moment) :
    Orderly moment := by
  induction reaches with
  | here =>
      exact orderly_initial start backend
  | step _ steps inductionHypothesis =>
      exact inductionHypothesis.step steps

/-- Time does not run backwards. -/
theorem Step.onward
    {moment next : Moment σ}
    (steps : Step connector cancelled moment next) :
    moment.clock ≤ next.clock := by
  cases steps <;>
    assumption

/-- Past the cancellation every step brings a run nearer to its end. -/
theorem Step.shortens
    {moment next : Moment σ}
    (steps : Step connector cancelled moment next)
    (past : cancelled < moment.clock) :
    next.ahead < moment.ahead := by
  cases steps with
  | works later takes =>
      cases takes with
      | polls _ uncancelled =>
          simp only [Action.time] at later past
          omega
      | dispatches
      | reports =>
          simp [Moment.ahead, Stage.ahead]
  | beats later takes =>
      cases takes with
      | beats _ uncancelled =>
          simp only [Action.time] at later past
          omega
  | leaves
  | rests
  | closes
  | returns =>
      simp [Moment.ahead, Stage.ahead]

/-- Past the cancellation no run goes on forever. -/
theorem halts_past_cancellation
    (moment : Moment σ)
    (past : cancelled < moment.clock) :
    Halts connector cancelled moment := by
  induction measured : moment.ahead using Nat.strongRecOn
      generalizing moment with
  | ind ahead inductionHypothesis =>
      constructor
      intro next steps
      subst measured
      exact
        inductionHypothesis next.ahead (steps.shortens past) next
          (Nat.lt_of_lt_of_le past steps.onward) rfl

/-- A run that has not returned goes on: neither task waits for what does not come. -/
theorem returned_or_step
    (moment : Moment σ) :
    (∃ result, moment.worker.stage = .returned result) ∨
      ∃ next, Step connector cancelled moment next := by
  obtain ⟨clock, ⟨stage, free, backend⟩, ⟨beating, rested⟩, spans⟩ := moment
  cases stage with
  | waiting =>
      have later : clock ≤ max clock (max free cancelled) :=
        Nat.le_max_left _ _
      exact .inr ⟨_, .leaves later (by omega) (by omega)⟩
  | holding job =>
      refine
        .inr ⟨_, .works ?_ (.dispatches (Nat.le_max_right clock free) rfl)⟩
      exact Nat.le_max_left clock free
  | reporting id outcome =>
      have reports :
          Works connector cancelled
            ⟨.reporting id outcome, free, backend⟩
            ⟨.reported (max clock free) id outcome (.ok ()),
              max clock free + 0⟩
            ⟨.waiting, max clock free + 0, backend⟩ :=
        .reports (Nat.le_max_right clock free)
      refine .inr ⟨_, .works ?_ reports⟩
      exact Nat.le_max_left clock free
  | joining =>
      cases beating with
      | true =>
          have later : clock ≤ max clock (max rested cancelled) :=
            Nat.le_max_left _ _
          exact .inr ⟨_, .rests later (by omega) (by omega)⟩
      | false =>
          exact .inr ⟨_, .closes (Nat.le_refl clock) rfl⟩
  | closing =>
      exact
        .inr ⟨_, .returns (Nat.le_max_left clock free)
          (Nat.le_max_right clock free)⟩
  | returned result =>
      exact .inl ⟨result, rfl⟩

/-- A step brings the backend the calls that it tells of. -/
theorem Step.recorded
    {moment next : Moment (σ × List ConnectorCall)}
    (steps : Step connector.recording cancelled moment next)
    (recorded :
      moment.worker.backend.2 =
        moment.actions.flatMap Action.connectorCalls) :
    next.worker.backend.2 = next.actions.flatMap Action.connectorCalls := by
  cases steps with
  | works later takes =>
      simp only [Moment.actions, List.map_append, List.flatMap_append]
        at recorded ⊢
      rw [← recorded]
      cases takes with
      | polls
      | reports =>
          simp [Action.connectorCalls]
      | @dispatches _ _ backend job handled idle comes =>
          have records := dispatch_recording connector job backend.1 backend.2
          rw [← comes, records]
          simp [Action.connectorCalls]
  | beats later takes =>
      cases takes with
      | beats =>
          simpa [Moment.actions, Action.connectorCalls] using recorded
  | closes later told =>
      subst told
      simp only [Moment.actions, List.map_append, List.flatMap_append]
        at recorded ⊢
      rw [← recorded]
      simp [Action.connectorCalls, Connector.recording, Call.mapState]
  | leaves
  | rests
  | returns =>
      exact recorded

/-- A backend that records its calls has taken those that a run tells of, in their order. -/
theorem Reaches.recorded
    {start : Nat}
    {backend : σ}
    {moment : Moment (σ × List ConnectorCall)}
    (reaches :
      Reaches connector.recording cancelled (.initial start (backend, []))
        moment) :
    moment.worker.backend.2 =
      moment.actions.flatMap Action.connectorCalls := by
  induction reaches with
  | here =>
      rfl
  | step _ steps inductionHypothesis =>
      exact steps.recorded inductionHypothesis

end Steps

end QueryAgent.Agent

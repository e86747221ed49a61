import QueryAgent.Proofs.Agent.Cancellation
import QueryAgent.Proofs.Agent.Interleaving

namespace QueryAgent.Agent

/-!
# The shutdown of an agent

However the two tasks of an agent interleave, it closes its backend once, behind
everything else, and returns without an error.  What `run` comes to is one of
these interleavings, the one in which every action is taken at its time.
-/

/-- The way of one task on its own: one span after the other. -/
inductive Path (Takes : τ → Span → τ → Prop) : τ → List Span → τ → Prop where
  | done
      {task : τ} :
      Path Takes task [] task
  | next
      {task between last : τ}
      {span : Span}
      {spans : List Span}
      (takes : Takes task span between)
      (rest : Path Takes between spans last) :
      Path Takes task (span :: spans) last

/-- Where one way ends another one may begin. -/
theorem Path.append
    {Takes : τ → Span → τ → Prop}
    {task between last : τ}
    {spans others : List Span}
    (path : Path Takes task spans between)
    (onward : Path Takes between others last) :
    Path Takes task (spans ++ others) last := by
  induction path with
  | done =>
      exact onward
  | next takes _ inductionHypothesis =>
      exact .next takes (inductionHypothesis onward)

/-- The rounds of a loop are the way of its task, if each round is. -/
theorem Rounds.path
    {Takes : Nat → σ → Round σ Action → Prop}
    {period : Period}
    {cancelled : Nat}
    {Task : τ → Span → τ → Prop}
    (place : Nat → σ → τ)
    (each :
      ∀ {time state taking free},
        Takes time state taking →
        free ≤ time →
        time < cancelled →
        ∃ spans,
          Path Task (place free state) spans
              (place taking.ended taking.state) ∧
            spans.map Span.action = taking.events)
    {window : Window}
    (opens : window.free ≤ window.earliest)
    {state : σ}
    {run : Round σ Action}
    (rounds : Rounds Takes period cancelled window state run) :
    ∃ spans free,
      Path Task (place window.free state) spans (place free run.state) ∧
        spans.map Span.action = run.events ∧
        free ≤ run.ended := by
  induction rounds with
  | stop reached =>
      exact ⟨[], _, .done, rfl, Nat.le_max_left _ _⟩
  | next notEarlier _ uncancelled takes _ inductionHypothesis =>
      obtain ⟨spans, path, actions⟩ :=
        each takes (Nat.le_trans opens notEarlier) uncancelled
      obtain ⟨others, free, onward, otherActions, returns⟩ :=
        inductionHypothesis (Window.after_opens _ _ _)
      refine ⟨spans ++ others, free, path.append onward, ?_, returns⟩
      rw [List.map_append, actions, otherActions]

section Tasks

variable
  {controller : Controller κ}
  {connector : Connector σ}
  {period : Period}
  {cancelled : Nat}

/-- A poll without a job leaves the worker waiting. -/
theorem Stage.afterPoll_eq_waiting
    {reply : Result (Option Job)}
    (noJob : ∀ job, reply ≠ .ok (some job)) :
    Stage.afterPoll reply = .waiting := by
  rcases reply with _ | (_ | job)
  · rfl
  · rfl
  · exact (noJob job rfl).elim

/-- A whole cycle takes the worker from one wait to the next. -/
theorem WholeCycle.path
    {time free : Nat}
    {state : κ × σ}
    {cycle : Round (κ × σ) Action}
    (whole : WholeCycle controller connector time state cycle)
    (idle : free ≤ time)
    (uncancelled : time < cancelled) :
    ∃ spans,
      Path (Works connector cancelled)
          ⟨.waiting, free, state.2⟩ spans
          ⟨.waiting, cycle.ended, cycle.state.2⟩ ∧
        spans.map Span.action = cycle.events := by
  have inTime : time ≤ cancelled :=
    Nat.le_of_lt uncancelled
  cases whole with
  | @withoutJob _ backend poll _ noJob =>
      have polls :
          Works connector cancelled
            ⟨.waiting, free, backend⟩
            ⟨.polled time JobKind.supported poll.result,
              time + poll.duration⟩
            ⟨.afterPoll poll.result, time + poll.duration, backend⟩ :=
        .polls idle inTime
      rw [Stage.afterPoll_eq_waiting noJob] at polls
      exact ⟨_, .next polls .done, rfl⟩
  | @withJob _ backend poll job handled report received finished
      _ handedOut arrives dispatches finishes _ =>
      subst arrives finishes
      have polls :
          Works connector cancelled
            ⟨.waiting, free, backend⟩
            ⟨.polled time JobKind.supported (.ok (some job)),
              time + poll.duration⟩
            ⟨.holding job, time + poll.duration, backend⟩ :=
        .polls idle inTime
      have reports :
          Works connector cancelled
            ⟨.reporting job.id handled.answer,
              time + poll.duration + handled.duration, handled.state⟩
            ⟨.reported (time + poll.duration + handled.duration) job.id
                handled.answer report.result,
              time + poll.duration + handled.duration + report.duration⟩
            ⟨.waiting,
              time + poll.duration + handled.duration + report.duration,
              handled.state⟩ :=
        .reports (Nat.le_refl _)
      exact
        ⟨_, .next polls
            (.next (.dispatches (Nat.le_refl _) dispatches)
              (.next reports .done)),
          rfl⟩

/-- A heartbeat takes the pulse from one wait to the next. -/
theorem Beat.path
    {time free : Nat}
    {state : κ}
    {beat : Round κ Action}
    (sent : Beat controller time state beat)
    (idle : free ≤ time)
    (uncancelled : time < cancelled) :
    ∃ spans,
      Path (Beats cancelled) ⟨true, free⟩ spans ⟨true, beat.ended⟩ ∧
        spans.map Span.action = beat.events := by
  cases sent with
  | sent _ =>
      exact
        ⟨_, .next (.beats idle (Nat.le_of_lt uncancelled)) .done, rfl⟩

end Tasks

section Merging

/-- Without actions of the first run there are those of the second. -/
theorem mergeActions_nil
    (others : List Action) :
    mergeActions [] others = others := by
  rw [mergeActions]

/-- Without actions of the second run there are those of the first. -/
theorem mergeActions_nil_right
    (actions : List Action) :
    mergeActions actions [] = actions := by
  cases actions <;>
    simp [mergeActions]

/-- What begins no later than the other run goes first. -/
theorem mergeActions_of_le
    {action other : Action}
    (actions others : List Action)
    (notLater : action.time ≤ other.time) :
    mergeActions (action :: actions) (other :: others) =
      action :: mergeActions actions (other :: others) := by
  rw [mergeActions, if_pos notLater]

/-- What begins later than the other run waits. -/
theorem mergeActions_of_lt
    {action other : Action}
    (actions others : List Action)
    (later : other.time < action.time) :
    mergeActions (action :: actions) (other :: others) =
      other :: mergeActions (action :: actions) others := by
  rw [mergeActions, if_neg (Nat.not_le_of_lt later)]

/-- Actions that begin within two times, one after the other. -/
structure Due
    (earliest latest : Nat)
    (actions : List Action) : Prop where
  within :
    ∀ action ∈ actions, earliest ≤ action.time ∧ action.time ≤ latest
  ordered :
    actions.Pairwise fun first second => first.time ≤ second.time

/-- What is due within some times is due within wider ones. -/
theorem Due.widen
    {earliest latest earlier later : Nat}
    {actions : List Action}
    (due : Due earliest latest actions)
    (opens : earlier ≤ earliest)
    (ends : latest ≤ later) :
    Due earlier later actions where
  within := by
    intro action member
    obtain ⟨begins, inTime⟩ := due.within action member
    exact ⟨Nat.le_trans opens begins, Nat.le_trans inTime ends⟩
  ordered := due.ordered

/-- Behind the first of the actions the others are due from its time on. -/
theorem Due.tail
    {earliest latest : Nat}
    {action : Action}
    {actions : List Action}
    (due : Due earliest latest (action :: actions)) :
    Due action.time latest actions := by
  obtain ⟨first, ordered⟩ := List.pairwise_cons.mp due.ordered
  refine ⟨?_, ordered⟩
  intro other member
  exact
    ⟨first other member,
      (due.within other (List.mem_cons_of_mem action member)).2⟩

/-- What is due is due from the time of its first action on. -/
theorem Due.from_head
    {earliest latest time : Nat}
    {action : Action}
    {actions : List Action}
    (due : Due earliest latest (action :: actions))
    (notLater : time ≤ action.time) :
    Due time latest (action :: actions) where
  within := by
    intro other member
    refine ⟨?_, (due.within other member).2⟩
    rcases List.mem_cons.mp member with rfl | behind
    · exact notLater
    · exact Nat.le_trans notLater (due.tail.within other behind).1
  ordered := due.ordered

variable
  {connector : Connector σ}
  {cancelled : Nat}
  {first : Moment σ}

/-- A run comes by the given actions to where both tasks stand as given. -/
def ComesTo
    (connector : Connector σ)
    (cancelled : Nat)
    (first : Moment σ)
    (latest : Nat)
    (worker : Worker σ)
    (pulse : Pulse)
    (spans : List Span)
    (actions : List Action) : Prop :=
  ∃ clock others,
    clock ≤ latest ∧
      others.map Span.action = actions ∧
      Reaches connector cancelled first
        ⟨clock, worker, pulse, spans ++ others⟩

/-- What is done first comes in front of the rest. -/
theorem ComesTo.cons
    {latest : Nat}
    {worker : Worker σ}
    {pulse : Pulse}
    {spans : List Span}
    {span : Span}
    {actions : List Action}
    (comes :
      ComesTo connector cancelled first latest worker pulse
        (spans ++ [span]) actions) :
    ComesTo connector cancelled first latest worker pulse spans
      (span.action :: actions) := by
  obtain ⟨clock, others, inTime, rfl, reaches⟩ := comes
  refine ⟨clock, span :: others, inTime, rfl, ?_⟩
  rw [List.append_assoc, List.singleton_append] at reaches
  exact reaches

/-- Two tasks that go their ways in time go them side by side, in the order of time. -/
theorem Reaches.merge
    {clock latest : Nat}
    {worker lastWorker : Worker σ}
    {pulse lastPulse : Pulse}
    {spans jobSpans beatSpans : List Span}
    (reaches :
      Reaches connector cancelled first ⟨clock, worker, pulse, spans⟩)
    (works : Path (Works connector cancelled) worker jobSpans lastWorker)
    (beats : Path (Beats cancelled) pulse beatSpans lastPulse)
    (inTime : clock ≤ latest)
    (jobsDue : Due clock latest (jobSpans.map Span.action))
    (beatsDue : Due clock latest (beatSpans.map Span.action)) :
    ComesTo connector cancelled first latest lastWorker lastPulse spans
      (mergeActions (jobSpans.map Span.action)
        (beatSpans.map Span.action)) := by
  induction works
      generalizing clock spans pulse lastPulse beatSpans with
  | done =>
      rw [List.map_nil, mergeActions_nil]
      induction beats generalizing clock spans with
      | done =>
          refine ⟨clock, [], inTime, rfl, ?_⟩
          rw [List.append_nil]
          exact reaches
      | @next _ _ _ beat _ takes _ inductionHypothesis =>
          rw [List.map_cons] at beatsDue ⊢
          obtain ⟨later, beatInTime⟩ :=
            beatsDue.within beat.action List.mem_cons_self
          exact
            ComesTo.cons
              (inductionHypothesis (reaches.step (.beats later takes))
                beatInTime ⟨nofun, .nil⟩ beatsDue.tail)
  | @next _ _ _ span rest takes onward workerHypothesis =>
      induction beats generalizing clock spans with
      | done =>
          rw [List.map_cons] at jobsDue
          rw [List.map_nil, mergeActions_nil_right, List.map_cons,
            ← mergeActions_nil_right (rest.map Span.action)]
          obtain ⟨later, spanInTime⟩ :=
            jobsDue.within span.action List.mem_cons_self
          exact
            ComesTo.cons
              (workerHypothesis (reaches.step (.works later takes)) .done
                spanInTime jobsDue.tail ⟨nofun, .nil⟩)
      | @next _ _ _ beat others beats beatsOnward pulseHypothesis =>
          rw [List.map_cons] at jobsDue beatsDue
          rw [List.map_cons, List.map_cons]
          obtain ⟨spanLater, spanInTime⟩ :=
            jobsDue.within span.action List.mem_cons_self
          obtain ⟨beatLater, beatInTime⟩ :=
            beatsDue.within beat.action List.mem_cons_self
          -- Whichever goes first leaves the other task where it was, with all
          -- of its way still before it.
          rcases Nat.lt_or_ge beat.action.time span.action.time with
            beatFirst | spanFirst
          · rw [mergeActions_of_lt _ _ beatFirst]
            exact
              ComesTo.cons
                (pulseHypothesis (reaches.step (.beats beatLater beats))
                  beatInTime (jobsDue.from_head (Nat.le_of_lt beatFirst))
                  beatsDue.tail)
          · rw [mergeActions_of_le _ _ spanFirst]
            exact
              ComesTo.cons
                (workerHypothesis (reaches.step (.works spanLater takes))
                  (.next beats beatsOnward) spanInTime jobsDue.tail
                  (beatsDue.from_head spanFirst))

end Merging

/-- The actions of a loop are due between its start and its return. -/
theorem Rounds.due
    {Takes : Nat → σ → Round σ Action → Prop}
    {period : Period}
    {cancelled : Nat}
    (timely :
      ∀ {time state taking},
        Takes time state taking → Timely Action.time time taking)
    {window : Window}
    (opens : window.free ≤ window.earliest)
    {state : σ}
    {run : Round σ Action}
    (rounds : Rounds Takes period cancelled window state run) :
    Due window.free run.ended run.events where
  within := by
    intro action member
    obtain ⟨begins, inTime⟩ := (rounds.timely timely opens).1 action member
    exact ⟨Nat.le_trans opens begins, inTime⟩
  ordered := (rounds.timely timely opens).2

/-- What a run comes to at its end. -/
structure EndsAs
    (run : Run σ)
    (last : Moment σ) : Prop where
  returned :
    last.worker.stage = .returned run.result
  actions :
    last.actions = run.actions
  ended :
    last.clock = run.ended
  backend :
    last.worker.backend = run.backendState

section Runs

variable
  (controller : Controller κ)
  (connector : Connector σ)
  (pollPeriod heartbeatPeriod : Period)
  (cancelled start : Nat)

/-- What an agent is computed to do is one way in which its tasks interleave. -/
theorem run_reaches
    (jobController heartbeatController : κ)
    (backend : σ) :
    ∃ last,
      Reaches connector cancelled (.initial start backend) last ∧
        EndsAs
          (run controller connector pollPeriod heartbeatPeriod cancelled start
            jobController heartbeatController backend)
          last := by
  let jobs :=
    jobLoop controller connector pollPeriod cancelled start
      (jobController, backend)
  let heartbeats :=
    heartbeatLoop controller heartbeatPeriod cancelled start
      heartbeatController
  let closing := max jobs.ended heartbeats.ended
  have jobsOver : jobs.ended ≤ closing := Nat.le_max_left _ _
  have beatsOver : heartbeats.ended ≤ closing := Nat.le_max_right _ _
  have jobRounds :=
    rounds_jobLoop controller connector pollPeriod cancelled start
      (jobController, backend)
  have beatRounds :=
    rounds_heartbeatLoop controller heartbeatPeriod cancelled start
      heartbeatController
  have jobsOpen :=
    Window.first_opens start (start + pollPeriod.milliseconds)
  have beatsOpen := Window.first_opens start start
  obtain ⟨startBefore, seen⟩ :=
    Nat.max_le.mp (jobRounds.le_ended WholeCycle.forward jobsOpen)
  obtain ⟨jobSpans, workerFree, works, jobActions, workerIdle⟩ :=
    jobRounds.path
      (fun free state => (⟨.waiting, free, state.2⟩ : Worker σ))
      WholeCycle.path jobsOpen
  obtain ⟨beatSpans, pulseFree, beats, beatActions, pulseIdle⟩ :=
    beatRounds.path (fun free _ => (⟨true, free⟩ : Pulse))
      Beat.path beatsOpen
  have jobsDue : Due start closing (jobSpans.map Span.action) := by
    rw [jobActions]
    exact
      (jobRounds.due WholeCycle.timely jobsOpen).widen (Nat.le_refl _)
        jobsOver
  have beatsDue : Due start closing (beatSpans.map Span.action) := by
    rw [beatActions]
    exact
      (beatRounds.due Beat.timely beatsOpen).widen (Nat.le_refl _) beatsOver
  obtain ⟨clock, spans, inTime, merged, both⟩ :=
    Reaches.merge .here works beats (Nat.le_trans startBefore jobsOver)
      jobsDue beatsDue
  rw [jobActions, beatActions] at merged
  -- Both loops are left as soon as both are over, and the backend is closed
  -- at once.
  have seenByNow : cancelled ≤ closing := Nat.le_trans seen jobsOver
  have left :=
    both.step
      (.leaves inTime (Nat.le_trans workerIdle jobsOver) seenByNow)
  have rested :=
    left.step
      (.rests (Nat.le_refl closing) (Nat.le_trans pulseIdle beatsOver)
        seenByNow)
  have closed := rested.step (.closes (Nat.le_refl closing) rfl)
  have returned :=
    closed.step (.returns (Nat.le_add_right closing _) (Nat.le_refl _))
  refine ⟨_, returned, rfl, ?_, rfl, rfl⟩
  rw [Moment.actions, List.map_append, List.nil_append, merged]
  rfl

end Runs

/--
A backend that was closed once, behind everything else: the heartbeats have
ended, every call is over, and each job that was handed out has been dispatched
and reported on.
-/
structure ShutDown
    (moment : Moment σ)
    (before : List Span)
    (time : Nat)
    (reply : Result Unit)
    (ended : Nat) : Prop
    extends ClosedLast moment.spans before time reply ended where
  rested :
    moment.pulse.beating = false
  dispatched :
    dispatchedJobs (before.map Span.action) =
      handedOut (before.map Span.action)
  reported :
    reportedIds (before.map Span.action) =
      (dispatchedJobs (before.map Span.action)).map Job.id

/-- The closing of the backend is about no job. -/
theorem JobsKept.before_closing
    {actions : List Action}
    {time : Nat}
    {reply : Result Unit}
    {stage : Stage}
    (kept : JobsKept (actions ++ [.closed time reply]) stage)
    (closing : stage.isClosing = true) :
    dispatchedJobs actions = handedOut actions ∧
      reportedIds actions = (dispatchedJobs actions).map Job.id := by
  obtain ⟨dispatched, reported⟩ := kept
  have emptyHanded : stage.held = [] ∧ stage.owed = [] := by
    cases stage with
    | closing
    | returned _ =>
        exact ⟨rfl, rfl⟩
    | waiting
    | holding _
    | reporting _ _
    | joining =>
        cases closing
  rw [emptyHanded.1, List.append_nil] at dispatched
  rw [emptyHanded.2, List.append_nil] at reported
  simp only [handedOut, dispatchedJobs, reportedIds,
    List.filterMap_append] at dispatched reported ⊢
  simp only [List.filterMap_cons, List.filterMap_nil, Action.handedOut?,
    Action.dispatchedJob?, Action.reportedId?, List.append_nil]
    at dispatched reported
  exact ⟨dispatched.symm, reported.symm⟩

section Ends

variable
  {connector : Connector σ}
  {cancelled start : Nat}
  {backend : σ}
  {moment : Moment σ}

/-- Once the worker closes the backend, the agent is shut down. -/
theorem Orderly.shutDown
    (orderly : Orderly moment)
    (closing : moment.worker.stage.isClosing = true) :
    ∃ before time reply ended,
      ShutDown moment before time reply ended := by
  obtain ⟨rested, before, time, reply, ended, closedLast⟩ :=
    orderly.closed closing
  have kept := orderly.jobs
  rw [Moment.actions, closedLast.last, List.map_append] at kept
  obtain ⟨dispatched, reported⟩ := kept.before_closing closing
  exact
    ⟨before, time, reply, ended, closedLast, rested, dispatched, reported⟩

/-- The backend is open, or the agent is shut down. -/
theorem Orderly.open_or_shutDown
    (orderly : Orderly moment) :
    (∀ span ∈ moment.spans, span.action.isClosing = false) ∨
      ∃ before time reply ended,
        ShutDown moment before time reply ended := by
  cases closing : moment.worker.stage.isClosing with
  | false =>
      exact .inl (orderly.opened closing)
  | true =>
      exact .inr (orderly.shutDown closing)

/-- An agent returns without an error. -/
theorem Reaches.returns_ok
    (reaches : Reaches connector cancelled (.initial start backend) moment)
    {result : Result Unit}
    (returned : moment.worker.stage = .returned result) :
    result = .ok () := by
  induction reaches with
  | here =>
      cases returned
  | step _ steps inductionHypothesis =>
      cases steps with
      | works _ takes =>
          have staysOpen := takes.keeps_open.2.2.1
          rw [returned] at staysOpen
          cases staysOpen
      | beats
      | rests =>
          exact inductionHypothesis returned
      | leaves
      | closes =>
          cases returned
      | returns =>
          cases returned
          rfl

/-- What does not close the backend does not bring it a call to close. -/
theorem close_notMem_connectorCalls
    {action : Action}
    (noClosing : action.isClosing = false) :
    ConnectorCall.close ∉ action.connectorCalls := by
  cases action with
  | dispatched time job calls =>
      intro member
      obtain ⟨call, _, closes⟩ := List.mem_map.mp member
      cases call <;>
        cases closes
  | closed time reply =>
      cases noClosing
  | polled
  | reported
  | heartbeat =>
      exact List.not_mem_nil

/-- The call to close is the last one that the backend takes, and it takes only one. -/
theorem Reaches.close_recorded
    {moment : Moment (σ × List ConnectorCall)}
    (reaches :
      Reaches connector.recording cancelled (.initial start (backend, []))
        moment)
    {result : Result Unit}
    (returned : moment.worker.stage = .returned result) :
    ∃ calls,
      moment.worker.backend.2 = calls ++ [.close] ∧
        ConnectorCall.close ∉ calls := by
  have closing : moment.worker.stage.isClosing = true := by
    rw [returned]
    rfl
  obtain ⟨before, _, _, _, shutDown⟩ := reaches.orderly.shutDown closing
  refine
    ⟨(before.map Span.action).flatMap Action.connectorCalls, ?_, ?_⟩
  · rw [reaches.recorded, Moment.actions, shutDown.last, List.map_append,
      List.flatMap_append]
    rfl
  · intro member
    obtain ⟨action, inBefore, inCalls⟩ := List.mem_flatMap.mp member
    obtain ⟨span, inSpans, rfl⟩ := List.mem_map.mp inBefore
    exact close_notMem_connectorCalls (shutDown.once span inSpans) inCalls

end Ends

/--
However the job loop, the heartbeats and the cancellation interleave, and
whatever the controller and the backend answer, the backend is closed at most
once: behind the last report and the last heartbeat, with no call after it.  A
run that returns has closed it and returns without an error, even if the backend
would not be closed; a run does not stop before it returns, and past the
cancellation it does not go on forever.  A backend that records its calls was
told last to close, and only once.  What `run` comes to is such a run.
-/
theorem shutdown_in_order
    (controller : Controller κ)
    (connector : Connector σ)
    (pollPeriod heartbeatPeriod : Period)
    (cancelled start : Nat)
    (jobController heartbeatController : κ)
    (backend : σ) :
    (∀ moment,
      Reaches connector cancelled (.initial start backend) moment →
      ((∀ span ∈ moment.spans, span.action.isClosing = false) ∨
        ∃ before time reply ended,
          ShutDown moment before time reply ended) ∧
      (∀ result,
        moment.worker.stage = .returned result →
        result = .ok () ∧
          ∃ before time reply ended,
            ShutDown moment before time reply ended) ∧
      ((∃ result, moment.worker.stage = .returned result) ∨
        ∃ next, Step connector cancelled moment next) ∧
      (cancelled < moment.clock → Halts connector cancelled moment)) ∧
    (∀ moment,
      Reaches connector.recording cancelled (.initial start (backend, []))
        moment →
      ∀ result,
        moment.worker.stage = .returned result →
        ∃ calls,
          moment.worker.backend.2 = calls ++ [.close] ∧
            ConnectorCall.close ∉ calls) ∧
    ∃ last,
      Reaches connector cancelled (.initial start backend) last ∧
        EndsAs
          (run controller connector pollPeriod heartbeatPeriod cancelled start
            jobController heartbeatController backend)
          last := by
  refine ⟨?_, ?_, ?_⟩
  · intro moment reaches
    have orderly := reaches.orderly
    refine
      ⟨orderly.open_or_shutDown, ?_, returned_or_step moment,
        halts_past_cancellation moment⟩
    intro result returned
    refine ⟨reaches.returns_ok returned, orderly.shutDown ?_⟩
    rw [returned]
    rfl
  · intro moment reaches result returned
    exact reaches.close_recorded returned
  · exact
      run_reaches controller connector pollPeriod heartbeatPeriod cancelled
        start jobController heartbeatController backend

/-- A backend that will not be closed. -/
def stubborn : Connector Nat where
  probe := fun calls => ⟨.ok (), 9, calls + 1⟩
  run := fun _ calls => ⟨.ok (.ofRows []), 9, calls + 1⟩
  close := fun calls => ⟨.error notConnected, 2, calls⟩

/-- The job in flight at the cancellation is reported on before a close that fails. -/
theorem shutdown_in_order_stubborn :
    ∃ last before time ended,
      Reaches stubborn 12 (.initial 0 0) last ∧
        last.worker.stage = .returned (.ok ()) ∧
        ShutDown last before time (.error notConnected) ended := by
  obtain ⟨reachable, _, last, reaches, ends⟩ :=
    shutdown_in_order scripted stubborn ⟨10, by decide⟩ ⟨7, by decide⟩ 12 0
      slowScript slowScript 0
  obtain ⟨_, returns, _⟩ := reachable last reaches
  obtain ⟨_, before, time, reply, ended, shutDown⟩ :=
    returns _ ends.returned
  have lastAction := congrArg List.getLast? ends.actions
  rw [Moment.actions, shutDown.last] at lastAction
  simp only [run, stubborn, List.map_append, List.map_cons, List.map_nil,
    List.getLast?_concat, Option.some.injEq, Action.closed.injEq]
    at lastAction
  obtain ⟨_, rfl⟩ := lastAction
  exact ⟨last, before, time, ended, reaches, ends.returned, shutDown⟩

end QueryAgent.Agent

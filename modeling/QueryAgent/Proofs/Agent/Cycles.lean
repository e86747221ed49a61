import QueryAgent.Agent.Loops
import QueryAgent.Proofs.Agent.Rounds

namespace QueryAgent.Agent

/-!
# Cycles of the job loop

A round of the job loop is one whole cycle: a poll, and exactly when it hands
out a job also the job's dispatch and one report of the outcome.  Every run is
such cycles, one behind the other, whatever the replies are, and a cycle that
fails is followed by the next one like any other.
-/

/-- The job that an action handed out, if it did. -/
def Action.handedOut? : Action → Option Job
  | .polled _ _ (.ok job) => job
  | _ => none

/-- The job that an action dispatched, if it did. -/
def Action.dispatchedJob? : Action → Option Job
  | .dispatched _ job _ => some job
  | _ => none

/-- The id that an action reported on, if it did. -/
def Action.reportedId? : Action → Option String
  | .reported _ id _ _ => some id
  | _ => none

section Cycles

variable
  (controller : Controller κ)
  (connector : Connector σ)

/--
What one cycle does that begins at a time and in a state: a poll and nothing
more, or a poll that hands out a job, the dispatch of this job, and one report
under its id of the outcome that the dispatch came to.
-/
inductive WholeCycle (time : Nat) : κ × σ → Round (κ × σ) Action → Prop where
  | withoutJob
      {controllerState : κ}
      {backendState : σ}
      {poll : Call κ (Option Job)}
      (asked : controller.getJob JobKind.supported controllerState = poll)
      (noJob : ∀ job, poll.result ≠ .ok (some job)) :
      WholeCycle time (controllerState, backendState)
        { events := [.polled time JobKind.supported poll.result]
          ended := time + poll.duration
          state := (poll.state, backendState) }
  | withJob
      {controllerState : κ}
      {backendState : σ}
      {poll : Call κ (Option Job)}
      {job : Job}
      {handled : Handled σ JobOutcome}
      {report : Call κ Unit}
      {received finished : Nat}
      (asked : controller.getJob JobKind.supported controllerState = poll)
      (handedOut : poll.result = .ok (some job))
      (arrives : received = time + poll.duration)
      (dispatches : dispatch connector job backendState = handled)
      (finishes : finished = received + handled.duration)
      (told :
        controller.updateJob job.id handled.answer poll.state = report) :
      WholeCycle time (controllerState, backendState)
        { events :=
            [.polled time JobKind.supported (.ok (some job)),
              .dispatched received job handled.calls,
              .reported finished job.id handled.answer report.result]
          ended := finished + report.duration
          state := (report.state, handled.state) }

/-- A round of the job loop is a whole cycle. -/
theorem wholeCycle_jobRound
    (time : Nat)
    (state : κ × σ) :
    WholeCycle controller connector time state
      (jobRound controller connector time state) := by
  obtain ⟨controllerState, backendState⟩ := state
  unfold jobRound pollOnce
  generalize asked :
    controller.getJob JobKind.supported controllerState = poll
  obtain ⟨reply, duration, after⟩ := poll
  cases reply with
  | error cause =>
      exact .withoutJob asked (by simp)
  | ok found =>
      cases found with
      | none =>
          exact .withoutJob asked (by simp)
      | some job =>
          exact .withJob asked rfl rfl rfl rfl rfl

/-- The actions of a cycle begin one after the other while it goes on. -/
theorem WholeCycle.timely
    {controller : Controller κ}
    {connector : Connector σ}
    {time : Nat}
    {state : κ × σ}
    {cycle : Round (κ × σ) Action}
    (whole : WholeCycle controller connector time state cycle) :
    Timely Action.time time cycle := by
  cases whole with
  | withoutJob _ _ =>
      constructor <;>
        simp [Action.time]
  | withJob _ _ arrives _ finishes _ =>
      constructor <;>
        simp [Action.time] <;>
        omega

theorem WholeCycle.forward
    {controller : Controller κ}
    {connector : Connector σ}
    {time : Nat}
    {state : κ × σ}
    {cycle : Round (κ × σ) Action}
    (whole : WholeCycle controller connector time state cycle) :
    time ≤ cycle.ended :=
  whole.timely.forward

/-- A run of the job loop is whole cycles, the first one a period after the start. -/
theorem rounds_jobLoop
    (period : Period)
    (cancelled start : Nat)
    (state : κ × σ) :
    Rounds (WholeCycle controller connector) period cancelled
      (.first start (start + period.milliseconds)) state
      (jobLoop controller connector period cancelled start state) :=
  rounds_runRounds (wholeCycle_jobRound controller connector)
    rfl (Nat.le_refl _) (Nat.le_refl _)

end Cycles

section Runs

variable
  {controller : Controller κ}
  {connector : Connector σ}
  {period : Period}
  {cancelled : Nat}
  {window : Window}
  {state : κ × σ}
  {run : Round (κ × σ) Action}

/-- A poll that hands out no job is not taken for one that does. -/
theorem handedOut?_eq_none
    {time : Nat}
    {kinds : List JobKind}
    {reply : Result (Option Job)}
    (noJob : ∀ job, reply ≠ .ok (some job)) :
    (Action.polled time kinds reply).handedOut? = none := by
  rcases reply with cause | found
  · rfl
  · cases found with
    | none =>
        rfl
    | some job =>
        exact (noJob job rfl).elim

/-- Every job that is handed out is dispatched once, in the order in which they come. -/
theorem dispatched_eq_handedOut
    (rounds :
      Rounds (WholeCycle controller connector) period cancelled
        window state run) :
    run.events.filterMap Action.dispatchedJob? =
      run.events.filterMap Action.handedOut? := by
  induction rounds with
  | stop reached =>
      rfl
  | next _ _ _ takes _ inductionHypothesis =>
      rw [List.filterMap_append, List.filterMap_append,
        inductionHypothesis]
      cases takes with
      | withoutJob _ noJob =>
          simp [handedOut?_eq_none noJob, Action.dispatchedJob?]
      | withJob =>
          rfl

/-- Every job that is handed out is reported on once, in the order in which they come. -/
theorem reported_eq_handedOut
    (rounds :
      Rounds (WholeCycle controller connector) period cancelled
        window state run) :
    run.events.filterMap Action.reportedId? =
      (run.events.filterMap Action.handedOut?).map Job.id := by
  induction rounds with
  | stop reached =>
      rfl
  | next _ _ _ takes _ inductionHypothesis =>
      rw [List.filterMap_append, List.filterMap_append, List.map_append,
        inductionHypothesis]
      cases takes with
      | withoutJob _ noJob =>
          simp [handedOut?_eq_none noJob, Action.reportedId?]
      | withJob =>
          rfl

/--
A poll that hands out a job is followed by the dispatch of this job and the
report of its outcome, which is made before the loop returns.
-/
theorem handled_next
    (rounds :
      Rounds (WholeCycle controller connector) period cancelled
        window state run)
    {before after : List Action}
    {time : Nat}
    {kinds : List JobKind}
    {job : Job}
    (placed :
      run.events = before ++ .polled time kinds (.ok (some job)) :: after) :
    ∃ received finished backendState controllerState rest,
      let handled := dispatch connector job backendState
      let report :=
        controller.updateJob job.id handled.answer controllerState
      after =
          .dispatched received job handled.calls
            :: .reported finished job.id handled.answer report.result
            :: rest ∧
        time ≤ received ∧
        finished = received + handled.duration ∧
        finished + report.duration ≤ run.ended := by
  obtain ⟨_, _, _, earlier, later, rest, takes, _, returns, ownEvents, rfl⟩ :=
    rounds.split WholeCycle.forward placed
  cases takes with
  | withoutJob _ noJob =>
      cases earlier with
      | nil =>
          rw [List.nil_append, List.cons.injEq, Action.polled.injEq]
            at ownEvents
          exact (noJob job ownEvents.1.2.2).elim
      | cons _ _ =>
          simp at ownEvents
  | withJob _ _ arrives dispatches finishes told =>
      cases earlier with
      | nil =>
          cases ownEvents
          subst dispatches told
          have receivedLater := Nat.le.intro arrives.symm
          exact
            ⟨_, _, _, _, rest, rfl, receivedLater, finishes, returns⟩
      | cons _ others =>
          -- A cycle polls first, and what it does then is no poll.
          rcases others with _ | ⟨_, _ | ⟨_, _⟩⟩ <;>
            simp at ownEvents

/-- A dispatch is followed by the report on its job, with nothing in between. -/
theorem reported_next
    (rounds :
      Rounds (WholeCycle controller connector) period cancelled
        window state run)
    {before after : List Action}
    {time : Nat}
    {job : Job}
    {calls : List BackendCall}
    (placed : run.events = before ++ .dispatched time job calls :: after) :
    ∃ finished outcome reply rest,
      after = .reported finished job.id outcome reply :: rest := by
  obtain ⟨_, _, _, earlier, later, rest, takes, _, _, ownEvents, rfl⟩ :=
    rounds.split WholeCycle.forward placed
  cases takes with
  | withoutJob =>
      cases earlier <;>
        simp at ownEvents
  | withJob =>
      rcases earlier with _ | ⟨_, _ | ⟨_, others⟩⟩
      · simp at ownEvents
      · cases ownEvents
        exact ⟨_, _, _, rest, rfl⟩
      · -- A cycle dispatches second, and what it does then is no dispatch.
        cases others <;>
          simp at ownEvents

end Runs

/--
A run of the job loop is whole cycles to the cancellation, whatever the replies
of the controller and the backend are.  Every job that is handed out is
dispatched once and reported on once, in their order; nothing happens between
the dispatch of a job and its report, and no error ends the run.
-/
theorem jobLoop_whole_cycles
    (controller : Controller κ)
    (connector : Connector σ)
    (period : Period)
    (cancelled start : Nat)
    (state : κ × σ) :
    let run := jobLoop controller connector period cancelled start state
    Rounds (WholeCycle controller connector) period cancelled
        (.first start (start + period.milliseconds)) state run ∧
      run.events.filterMap Action.dispatchedJob? =
        run.events.filterMap Action.handedOut? ∧
      run.events.filterMap Action.reportedId? =
        (run.events.filterMap Action.handedOut?).map Job.id ∧
      (∀ before after time job calls,
        run.events = before ++ .dispatched time job calls :: after →
        ∃ finished outcome reply rest,
          after = .reported finished job.id outcome reply :: rest) ∧
      run.events.Pairwise (fun first second => first.time ≤ second.time) ∧
      cancelled ≤ run.ended := by
  intro run
  have rounds :=
    rounds_jobLoop controller connector period cancelled start state
  have opens := Window.first_opens start (start + period.milliseconds)
  refine
    ⟨rounds, dispatched_eq_handedOut rounds, reported_eq_handedOut rounds,
      ?_, ?_, ?_⟩
  · intro before after time job calls placed
    exact reported_next rounds placed
  · exact (rounds.timely WholeCycle.timely opens).2
  · have returns := rounds.le_ended WholeCycle.forward opens
    exact (Nat.max_le.mp returns).2

end QueryAgent.Agent

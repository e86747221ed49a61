import QueryAgent.Mock.Session
import QueryAgent.Proofs.Agent.Cycles

namespace QueryAgent.Agent

/-!
# Loops and their cancellation

The cancellation keeps a loop from beginning another round, and only that: what
has begun before it is finished.  The job loop begins one period after its
start, the heartbeat loop at once, and until the cancellation neither stops.
-/

section Beats

variable
  (controller : Controller κ)

/-- What one round of the heartbeat loop does: one heartbeat, whatever the answer. -/
inductive Beat (time : Nat) : κ → Round κ Action → Prop where
  | sent
      {state : κ}
      {call : Call κ Unit}
      (told : controller.heartbeat state = call) :
      Beat time state
        { events := [.heartbeat time call.result]
          ended := time + call.duration
          state := call.state }

/-- A run of the heartbeat loop is heartbeats, the first one at the start. -/
theorem rounds_heartbeatLoop
    (period : Period)
    (cancelled start : Nat)
    (state : κ) :
    Rounds (Beat controller) period cancelled (.first start start) state
      (heartbeatLoop controller period cancelled start state) :=
  rounds_runRounds (fun _ _ => .sent rfl) rfl (Nat.le_refl _) (Nat.le_refl _)

/-- A heartbeat begins its round. -/
theorem Beat.timely
    {controller : Controller κ}
    {time : Nat}
    {state : κ}
    {beat : Round κ Action}
    (sent : Beat controller time state beat) :
    Timely Action.time time beat := by
  cases sent with
  | sent _ =>
      constructor <;>
        simp [Action.time]

end Beats

section Runs

variable
  {controller : Controller κ}
  {connector : Connector σ}
  {period : Period}
  {cancelled : Nat}

/-- A poll begins before the cancellation, and not before the window opens. -/
theorem polled_in_time
    {window : Window}
    (opens : window.free ≤ window.earliest)
    {state : κ × σ}
    {run : Round (κ × σ) Action}
    (rounds :
      Rounds (WholeCycle controller connector) period cancelled
        window state run)
    {time : Nat}
    {kinds : List JobKind}
    {reply : Result (Option Job)}
    (member : .polled time kinds reply ∈ run.events) :
    window.earliest ≤ time ∧ time < cancelled := by
  constructor
  · have within := (rounds.timely WholeCycle.timely opens).1 _ member
    exact within.1
  · obtain ⟨began, _, _, takes, uncancelled, inOwn⟩ :=
      rounds.round_of_mem WholeCycle.forward member
    have begins : time = began := by
      cases takes with
      | withoutJob =>
          rw [List.mem_singleton, Action.polled.injEq] at inOwn
          exact inOwn.1
      | withJob =>
          simp only [List.mem_cons, Action.polled.injEq, reduceCtorEq,
            List.not_mem_nil, or_false] at inOwn
          exact inOwn.1
    rw [begins]
    exact uncancelled

/-- A heartbeat begins before the cancellation. -/
theorem beat_uncancelled
    {window : Window}
    {state : κ}
    {run : Round κ Action}
    (rounds : Rounds (Beat controller) period cancelled window state run) :
    ∀ action ∈ run.events, action.time < cancelled := by
  intro action member
  obtain ⟨began, _, _, takes, uncancelled, inOwn⟩ :=
    rounds.round_of_mem (fun beat => beat.timely.forward) member
  cases takes with
  | sent =>
      rw [List.mem_singleton] at inOwn
      rw [inOwn]
      exact uncancelled

/-- A cycle begins with its poll. -/
theorem WholeCycle.polls_first
    {time : Nat}
    {state : κ × σ}
    {cycle : Round (κ × σ) Action}
    (whole : WholeCycle controller connector time state cycle) :
    cycle.events.head? =
      some (.polled time JobKind.supported
        (controller.getJob JobKind.supported state.1).result) := by
  cases whole with
  | withoutJob asked _ =>
      rw [asked]
      rfl
  | withJob asked handedOut =>
      rw [asked, handedOut]
      rfl

end Runs

/--
The job loop polls for the first time one period after its start, and never at
the cancellation or later; a job that a poll hands out is dispatched and
reported on before the loop returns, even when the cancellation falls between.
The heartbeat loop begins at its start, and goes on whatever the answers are,
but never at the cancellation or later.
-/
theorem loops_heed_cancellation
    (controller : Controller κ)
    (connector : Connector σ)
    (period : Period)
    (cancelled start : Nat)
    (jobState : κ × σ)
    (beatState : κ) :
    let first := start + period.milliseconds
    let jobs := jobLoop controller connector period cancelled start jobState
    let beats := heartbeatLoop controller period cancelled start beatState
    (∀ time kinds reply,
      .polled time kinds reply ∈ jobs.events →
      first ≤ time ∧ time < cancelled) ∧
    (first < cancelled →
      jobs.events.head? =
        some (.polled first JobKind.supported
          (controller.getJob JobKind.supported jobState.1).result)) ∧
    (∀ before after time kinds job,
      jobs.events =
          before ++ .polled time kinds (.ok (some job)) :: after →
      ∃ received finished backendState controllerState rest,
        let handled := dispatch connector job backendState
        let report :=
          controller.updateJob job.id handled.answer controllerState
        after =
            .dispatched received job handled.calls
              :: .reported finished job.id handled.answer report.result
              :: rest ∧
          time ≤ received ∧
          finished = received + handled.duration ∧
          finished + report.duration ≤ jobs.ended) ∧
    (start < cancelled →
      beats.events.head? =
        some (.heartbeat start (controller.heartbeat beatState).result)) ∧
    Rounds (Beat controller) period cancelled (.first start start)
      beatState beats ∧
    ∀ action ∈ beats.events, action.time < cancelled := by
  intro first jobs beats
  have jobRounds :=
    rounds_jobLoop controller connector period cancelled start jobState
  have beatRounds :=
    rounds_heartbeatLoop controller period cancelled start beatState
  have startsBefore : start ≤ first :=
    Nat.le_add_right start _
  refine ⟨?_, ?_, ?_, ?_, beatRounds, beat_uncancelled beatRounds⟩
  · intro time kinds reply member
    have inTime :=
      polled_in_time (Window.first_opens _ _) jobRounds member
    rw [Window.first, Nat.max_eq_right startsBefore] at inTime
    exact inTime
  · intro uncancelled
    obtain ⟨cycle, rest, whole, begins⟩ :=
      jobRounds.starts startsBefore uncancelled
    rw [begins, List.head?_append, whole.polls_first]
    rfl
  · intro before after time kinds job placed
    exact handled_next jobRounds placed
  · intro uncancelled
    obtain ⟨beat, rest, ⟨told⟩, begins⟩ :=
      beatRounds.starts (Nat.le_refl start) uncancelled
    rw [begins, told]
    rfl

/-- A controller that takes its time to hand out its one job. -/
def slowScript : Script where
  polls := [.ok (some ⟨"late", .ping, ""⟩)]
  updates := []
  heartbeats := []
  pollDelay := 5
  updateDelay := 0
  heartbeatDelay := 0

/-- A job that is still on its way at the cancellation is dispatched and reported on. -/
theorem loops_heed_cancellation_late :
    let run :=
      jobLoop scripted (Mock.connector .standard) ⟨10, by decide⟩ 12 0
        (slowScript, .initial)
    ∃ received calls finished outcome reply rest,
      run.events =
          .polled 10 JobKind.supported (.ok (some ⟨"late", .ping, ""⟩))
            :: .dispatched received ⟨"late", .ping, ""⟩ calls
            :: .reported finished "late" outcome reply
            :: rest ∧
        finished ≤ run.ended := by
  intro run
  obtain ⟨_, polls, handles, _⟩ :=
    loops_heed_cancellation scripted (Mock.connector .standard)
      ⟨10, by decide⟩ 12 0 (slowScript, .initial) slowScript
  obtain ⟨after, placed⟩ := List.head?_eq_some_iff.mp (polls (by decide))
  obtain ⟨_, _, _, _, rest, rfl, _, _, returns⟩ :=
    handles [] after _ _ _ placed
  exact ⟨_, _, _, _, _, rest, placed, Nat.le_of_add_right_le returns⟩

end QueryAgent.Agent

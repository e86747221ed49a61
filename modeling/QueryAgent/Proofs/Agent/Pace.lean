import QueryAgent.Proofs.Agent.Cancellation

namespace QueryAgent.Agent

/-!
# The pace of the loops

A loop on a ticker neither catches up what it missed nor dawdles: two rounds
begin a period apart, less what a ticker forgives, and the next one as soon as
the last has ended and the period is over.  The times depend on how long the
rounds take and on nothing else.
-/

/-- A round of a run: when it was taken, and what it came to. -/
structure Taken (σ ε : Type) where
  began : Nat
  round : Round σ ε

/-- How long a round took. -/
def Taken.lasted
    (taken : Taken σ ε) : Nat :=
  taken.round.ended - taken.began

/-- The same rounds, each with itself as its only event. -/
def itemized
    (round : Nat → σ → Round σ ε)
    (time : Nat)
    (state : σ) : Round σ (Taken σ ε) :=
  let taking := round time state
  ⟨[⟨time, taking⟩], taking.ended, taking.state⟩

/-- The rounds that a loop takes, in their order. -/
def roundsTaken
    (round : Nat → σ → Round σ ε)
    (period : Period)
    (cancelled due now : Nat)
    (state : σ) : List (Taken σ ε) :=
  (runRounds (itemized round) period cancelled due now state).events

/-- Rounds that begin within their windows, up to the cancellation. -/
def InWindows
    (period : Period)
    (cancelled : Nat) : Window → List (Taken σ ε) → Prop
  | window, [] =>
      cancelled ≤ window.latest
  | window, taken :: rest =>
      window.earliest ≤ taken.began ∧
        taken.began ≤ window.latest ∧
        taken.began < cancelled ∧
        InWindows period cancelled
          (.after period taken.began taken.round.ended) rest

/--
Rounds at the pace of a period: two of them begin a period apart, up to the
tolerance, and never while the first goes on; the second begins once the first
has ended and the period is over; after the last one it is the cancellation
that comes in time.
-/
structure Paced
    (period : Period)
    (cancelled : Nat)
    (rounds : List (Taken σ ε)) : Prop where
  apart :
    ∀ before one next after,
      rounds = before ++ one :: next :: after →
      one.began + period.milliseconds ≤ next.began + tolerance ∧
        one.round.ended ≤ next.began
  prompt :
    ∀ before one next after,
      rounds = before ++ one :: next :: after →
      next.began ≤ max one.round.ended (one.began + period.milliseconds)
  onward :
    ∀ before last,
      rounds = before ++ [last] →
      cancelled ≤ max last.round.ended (last.began + period.milliseconds)

/-- Rounds that take as long as those of another run, wherever both have one. -/
def LastAlike
    (rounds : List (Taken σ ε))
    (others : List (Taken τ ζ)) : Prop :=
  ∀ (place : Nat) (one : Taken σ ε) (other : Taken τ ζ),
    rounds[place]? = some one →
    others[place]? = some other →
    one.lasted = other.lasted

section Runs

variable
  {round : Nat → σ → Round σ ε}
  {period : Period}
  {cancelled : Nat}

/-- At the cancellation no round is taken. -/
theorem roundsTaken_of_stopped
    {due now : Nat}
    {state : σ}
    (stopped : cancelled ≤ max now due) :
    roundsTaken round period cancelled due now state = [] := by
  rw [roundsTaken, runRounds, if_pos stopped]

/-- Before the cancellation the round that is due is taken, and the next ones behind it. -/
theorem roundsTaken_of_ongoing
    {due now : Nat}
    {state : σ}
    (ongoing : ¬ cancelled ≤ max now due) :
    roundsTaken round period cancelled due now state =
      ⟨max now due, round (max now due) state⟩
        :: roundsTaken round period cancelled
          (nextDue period due (max now due))
          (round (max now due) state).ended
          (round (max now due) state).state := by
  rw [roundsTaken, runRounds, if_neg ongoing]
  rfl

/-- What a loop does is what its rounds do, one after the other. -/
theorem events_runRounds
    (due now : Nat)
    (state : σ) :
    (runRounds round period cancelled due now state).events =
      (roundsTaken round period cancelled due now state).flatMap
        (·.round.events) := by
  fun_induction runRounds round period cancelled due now state with
  | case1 due now state stopped =>
      rw [roundsTaken_of_stopped stopped]
      rfl
  | case2 due now state ongoing taken taking others inductionHypothesis =>
      rw [roundsTaken_of_ongoing ongoing, List.flatMap_cons,
        ← inductionHypothesis]

/-- Every round of a run is taken by the loop in some state. -/
theorem round_of_mem_roundsTaken
    {due now : Nat}
    {state : σ}
    {taken : Taken σ ε}
    (member : taken ∈ roundsTaken round period cancelled due now state) :
    ∃ between, taken.round = round taken.began between := by
  fun_induction runRounds round period cancelled due now state with
  | case1 due now state stopped =>
      rw [roundsTaken_of_stopped stopped] at member
      cases member
  | case2 due now state ongoing began taking others inductionHypothesis =>
      rw [roundsTaken_of_ongoing ongoing] at member
      rcases List.mem_cons.mp member with rfl | inOthers
      · exact ⟨state, rfl⟩
      · exact inductionHypothesis inOthers

/-- The rounds of a loop keep to their windows. -/
theorem inWindows_of_rounds
    {window : Window}
    {state : σ}
    {run : Round σ (Taken σ ε)}
    (rounds :
      Rounds (fun time state taking => taking = itemized round time state)
        period cancelled window state run) :
    InWindows period cancelled window run.events := by
  induction rounds with
  | stop reached =>
      exact reached
  | next notEarlier notLater uncancelled takes _ inductionHypothesis =>
      subst takes
      exact ⟨notEarlier, notLater, uncancelled, inductionHypothesis⟩

/-- Wherever a run is cut, the rounds behind the cut keep to their windows. -/
theorem InWindows.behind
    {window : Window}
    {before : List (Taken σ ε)}
    {one : Taken σ ε}
    {after : List (Taken σ ε)}
    (within : InWindows period cancelled window (before ++ one :: after)) :
    InWindows period cancelled
      (.after period one.began one.round.ended) after := by
  induction before generalizing window with
  | nil =>
      exact within.2.2.2
  | cons _ _ inductionHypothesis =>
      exact inductionHypothesis within.2.2.2

/-- Rounds within their windows keep the pace. -/
theorem InWindows.paced
    {window : Window}
    {rounds : List (Taken σ ε)}
    (within : InWindows period cancelled window rounds) :
    Paced period cancelled rounds := by
  constructor
  · intro before one next after split
    rw [split] at within
    have earliest := within.behind.1
    simp only [Window.after] at earliest
    omega
  · intro before one next after split
    rw [split] at within
    exact within.behind.2.1
  · intro before last split
    rw [split] at within
    exact within.behind

/-- A loop on a ticker keeps the pace. -/
theorem paced_roundsTaken
    (due now : Nat)
    (state : σ) :
    Paced period cancelled
      (roundsTaken round period cancelled due now state) := by
  have rounds :
      Rounds (fun time state taking => taking = itemized round time state)
        period cancelled (.first now due) state
        (runRounds (itemized round) period cancelled due now state) := by
    apply rounds_runRounds
    · intro time state
      rfl
    · rfl
    · exact Nat.le_refl _
    · exact Nat.le_refl _
  exact (inWindows_of_rounds rounds).paced

/-- Rounds that take equally long begin at the same times. -/
theorem began_eq_of_lastAlike
    {other : Nat → τ → Round τ ζ}
    (forward : ∀ time state, time ≤ (round time state).ended)
    (otherForward : ∀ time state, time ≤ (other time state).ended)
    {due now : Nat}
    {state : σ}
    {otherState : τ}
    (alike :
      LastAlike
        (roundsTaken round period cancelled due now state)
        (roundsTaken other period cancelled due now otherState)) :
    (roundsTaken round period cancelled due now state).map Taken.began =
      (roundsTaken other period cancelled due now otherState).map
        Taken.began := by
  fun_induction runRounds round period cancelled due now state
      generalizing otherState with
  | case1 due now state stopped =>
      rw [roundsTaken_of_stopped stopped, roundsTaken_of_stopped stopped]
      rfl
  | case2 due now state ongoing taken taking others =>
      rename_i inductionHypothesis
      rw [roundsTaken_of_ongoing ongoing, roundsTaken_of_ongoing ongoing]
        at alike ⊢
      -- The first rounds begin together and take equally long, so both loops
      -- are free at the same time, which with the due time decides the rest.
      have sameLength := alike 0 _ _ rfl rfl
      have ends := forward (max now due) state
      have otherEnds := otherForward (max now due) otherState
      have sameEnd :
          (other (max now due) otherState).ended =
            (round (max now due) state).ended := by
        simp only [Taken.lasted] at sameLength
        omega
      rw [sameEnd] at alike ⊢
      rw [List.map_cons, List.map_cons]
      refine congrArg _ (inductionHypothesis ?_)
      intro place one another found otherFound
      exact alike (place + 1) one another found otherFound

end Runs

/-- When an action polled, if it did. -/
def Action.polledAt? : Action → Option Nat
  | .polled time _ _ => some time
  | _ => none

/-- When an action was a heartbeat, if it was. -/
def Action.beatAt? : Action → Option Nat
  | .heartbeat time _ => some time
  | _ => none

/-- The rounds of the job loop. -/
def jobRounds
    (controller : Controller κ)
    (connector : Connector σ)
    (period : Period)
    (cancelled start : Nat)
    (state : κ × σ) : List (Taken (κ × σ) Action) :=
  roundsTaken (jobRound controller connector) period cancelled
    (start + period.milliseconds) start state

/-- The rounds of the heartbeat loop. -/
def beatRounds
    (controller : Controller κ)
    (period : Period)
    (cancelled start : Nat)
    (state : κ) : List (Taken κ Action) :=
  roundsTaken (heartbeatRound controller) period cancelled start start state

/-- Where each round shows one time, when it begins, a run shows when its rounds begin. -/
theorem filterMap_flatMap_rounds
    {shown : ε → Option Nat}
    {rounds : List (Taken σ ε)}
    (each :
      ∀ taken ∈ rounds, taken.round.events.filterMap shown = [taken.began]) :
    (rounds.flatMap (·.round.events)).filterMap shown =
      rounds.map Taken.began := by
  induction rounds with
  | nil =>
      rfl
  | cons taken rest inductionHypothesis =>
      obtain ⟨own, others⟩ := List.forall_mem_cons.mp each
      rw [List.flatMap_cons, List.filterMap_append, own,
        inductionHypothesis others]
      rfl

section Loops

variable
  (controller : Controller κ)
  (connector : Connector σ)
  (period : Period)
  (cancelled start : Nat)

/-- A whole cycle is taken in each round of the job loop. -/
theorem wholeCycle_of_mem_jobRounds
    {state : κ × σ}
    {taken : Taken (κ × σ) Action}
    (member :
      taken ∈ jobRounds controller connector period cancelled start state) :
    ∃ between,
      WholeCycle controller connector taken.began between taken.round := by
  obtain ⟨between, same⟩ := round_of_mem_roundsTaken member
  rw [same]
  exact ⟨between, wholeCycle_jobRound controller connector taken.began between⟩

/-- One heartbeat is sent in each round of the heartbeat loop. -/
theorem beat_of_mem_beatRounds
    {state : κ}
    {taken : Taken κ Action}
    (member : taken ∈ beatRounds controller period cancelled start state) :
    ∃ between, Beat controller taken.began between taken.round := by
  obtain ⟨between, same⟩ := round_of_mem_roundsTaken member
  rw [same]
  exact ⟨between, .sent rfl⟩

/-- A cycle polls once, when it begins. -/
theorem WholeCycle.polledAt
    {controller : Controller κ}
    {connector : Connector σ}
    {time : Nat}
    {state : κ × σ}
    {cycle : Round (κ × σ) Action}
    (whole : WholeCycle controller connector time state cycle) :
    cycle.events.filterMap Action.polledAt? = [time] := by
  cases whole <;> rfl

/-- A round of the heartbeat loop sends its heartbeat when it begins. -/
theorem Beat.beatAt
    {controller : Controller κ}
    {time : Nat}
    {state : κ}
    {beat : Round κ Action}
    (sent : Beat controller time state beat) :
    beat.events.filterMap Action.beatAt? = [time] := by
  cases sent
  rfl

/-- The job loop does what its rounds do. -/
theorem events_jobLoop
    (state : κ × σ) :
    (jobLoop controller connector period cancelled start state).events =
      (jobRounds controller connector period cancelled start state).flatMap
        (·.round.events) :=
  events_runRounds _ _ _

/-- The job loop polls when its rounds begin, and only then. -/
theorem polledAt_jobLoop
    (state : κ × σ) :
    (jobLoop controller connector period cancelled start
        state).events.filterMap Action.polledAt? =
      (jobRounds controller connector period cancelled start state).map
        Taken.began := by
  rw [events_jobLoop]
  apply filterMap_flatMap_rounds
  intro taken member
  obtain ⟨_, whole⟩ :=
    wholeCycle_of_mem_jobRounds controller connector period cancelled start
      member
  exact whole.polledAt

/-- The heartbeat loop does what its rounds do. -/
theorem events_heartbeatLoop
    (state : κ) :
    (heartbeatLoop controller period cancelled start state).events =
      (beatRounds controller period cancelled start state).flatMap
        (·.round.events) :=
  events_runRounds _ _ _

/-- The heartbeat loop sends a heartbeat when its rounds begin, and only then. -/
theorem beatAt_heartbeatLoop
    (state : κ) :
    (heartbeatLoop controller period cancelled start
        state).events.filterMap Action.beatAt? =
      (beatRounds controller period cancelled start state).map
        Taken.began := by
  rw [events_heartbeatLoop]
  apply filterMap_flatMap_rounds
  intro taken member
  obtain ⟨_, sent⟩ :=
    beat_of_mem_beatRounds controller period cancelled start member
  exact sent.beatAt

end Loops

/--
Both loops keep the pace of their period, whatever the answers are and however
long the calls take: the rounds, each one a whole cycle or one heartbeat, begin
with their polls and heartbeats; two of them begin a period apart, less the
tolerance of the ticker, and the second no later than when the first has ended
and the period is over, unless the loop is cancelled by then.  Another run of
the same period, cancelled and started at the same times, begins its rounds at
the same times if they take as long, whichever calls succeed or fail.
-/
theorem loops_keep_pace
    (controller : Controller κ)
    (connector : Connector σ)
    (period : Period)
    (cancelled start : Nat)
    (jobState : κ × σ)
    (beatState : κ) :
    let jobs :=
      jobRounds controller connector period cancelled start jobState
    let jobEvents :=
      (jobLoop controller connector period cancelled start jobState).events
    let beats := beatRounds controller period cancelled start beatState
    let beatEvents :=
      (heartbeatLoop controller period cancelled start beatState).events
    (jobEvents = jobs.flatMap (·.round.events) ∧
      (∀ taken ∈ jobs,
        ∃ between,
          WholeCycle controller connector taken.began between taken.round) ∧
      jobEvents.filterMap Action.polledAt? = jobs.map Taken.began ∧
      Paced period cancelled jobs) ∧
    (beatEvents = beats.flatMap (·.round.events) ∧
      (∀ taken ∈ beats,
        ∃ between, Beat controller taken.began between taken.round) ∧
      beatEvents.filterMap Action.beatAt? = beats.map Taken.began ∧
      Paced period cancelled beats) ∧
    ∀ {κ' σ' : Type}
      (controller' : Controller κ')
      (connector' : Connector σ')
      (jobState' : κ' × σ')
      (beatState' : κ'),
      (LastAlike jobs
          (jobRounds controller' connector' period cancelled start
            jobState') →
        jobEvents.filterMap Action.polledAt? =
          (jobLoop controller' connector' period cancelled start
            jobState').events.filterMap Action.polledAt?) ∧
        (LastAlike beats
            (beatRounds controller' period cancelled start beatState') →
          beatEvents.filterMap Action.beatAt? =
            (heartbeatLoop controller' period cancelled start
              beatState').events.filterMap Action.beatAt?) := by
  intro jobs jobEvents beats beatEvents
  have jobTimes := polledAt_jobLoop controller connector period cancelled start
  have beatTimes := beatAt_heartbeatLoop controller period cancelled start
  refine ⟨⟨?_, ?_, ?_, ?_⟩, ⟨?_, ?_, ?_, ?_⟩, ?_⟩
  · exact events_jobLoop controller connector period cancelled start jobState
  · intro taken member
    exact
      wholeCycle_of_mem_jobRounds controller connector period cancelled start
        member
  · exact jobTimes jobState
  · exact paced_roundsTaken _ _ _
  · exact events_heartbeatLoop controller period cancelled start beatState
  · intro taken member
    exact beat_of_mem_beatRounds controller period cancelled start member
  · exact beatTimes beatState
  · exact paced_roundsTaken _ _ _
  · intro κ' σ' controller' connector' jobState' beatState'
    constructor
    · intro alike
      rw [jobTimes, polledAt_jobLoop]
      refine began_eq_of_lastAlike ?_ ?_ alike
      · intro time state
        exact (wholeCycle_jobRound controller connector time state).forward
      · intro time state
        exact (wholeCycle_jobRound controller' connector' time state).forward
    · intro alike
      rw [beatTimes, beatAt_heartbeatLoop]
      refine began_eq_of_lastAlike ?_ ?_ alike
      · intro time state
        exact Nat.le_add_right time _
      · intro time state
        exact Nat.le_add_right time _

/-- A controller without jobs that takes its time and that fails every call, or none. -/
def slow
    (failure : Option AgentError) : Controller Unit where
  heartbeat := fun _ => ⟨failure.elim (.ok ()) .error, 25, ()⟩
  getJob := fun _ _ => ⟨failure.elim (.ok none) .error, 25, ()⟩
  updateJob := fun _ _ _ => ⟨failure.elim (.ok ()) .error, 25, ()⟩

/-- A cycle without a job takes as long as the poll. -/
theorem lasted_slow
    {failure : Option AgentError}
    {connector : Connector σ}
    {period : Period}
    {cancelled start : Nat}
    {state : Unit × σ}
    {taken : Taken (Unit × σ) Action}
    (member :
      taken ∈ jobRounds (slow failure) connector period cancelled start state) :
    taken.lasted = 25 := by
  obtain ⟨began, round⟩ := taken
  obtain ⟨_, whole⟩ :
      ∃ between, WholeCycle (slow failure) connector began between round :=
    wholeCycle_of_mem_jobRounds _ _ _ _ _ member
  cases whole with
  | withoutJob asked _ =>
      subst asked
      exact Nat.add_sub_cancel_left began 25
  | withJob asked handedOut =>
      subst asked
      cases failure <;>
        cases handedOut

/-- Where every call takes longer than the period, it is the calls that set the pace. -/
theorem loops_keep_pace_slow :
    let polls (failure : Option AgentError) :=
      (jobLoop (slow failure) (Mock.connector .standard) ⟨10, by decide⟩ 100 0
        ((), .initial)).events.filterMap Action.polledAt?
    polls (some notConnected) = polls none ∧ polls none = [10, 35, 60, 85] := by
  intro polls
  obtain ⟨_, _, alike⟩ :=
    loops_keep_pace (slow (some notConnected)) (Mock.connector .standard)
      ⟨10, by decide⟩ 100 0 ((), .initial) ()
  refine
    ⟨(alike (slow none) (Mock.connector .standard) ((), .initial) ()).1 ?_, ?_⟩
  · intro place one other found otherFound
    rw [lasted_slow (List.mem_of_getElem? found),
      lasted_slow (List.mem_of_getElem? otherFound)]
  · decide +kernel

end QueryAgent.Agent

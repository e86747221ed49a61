import QueryAgent.Agent.Ticker

namespace QueryAgent.Agent

/-!
# The rounds of a loop

What a loop on a ticker does is said here without the ticker: round follows
round, each within a window that the one before it leaves, until the window
reaches the cancellation.  What a single round may come to is left open, so the
facts about whole runs hold of every loop.
-/

/-- When a round may begin: the loop is free from some time on, and the round falls between two. -/
structure Window where
  free : Nat
  earliest : Nat
  latest : Nat

/-- The window of the first round, which is due at a known time. -/
def Window.first
    (start due : Nat) : Window where
  free := start
  earliest := max start due
  latest := max start due

/-- The window after a round that was taken and ended at the given times. -/
def Window.after
    (period : Period)
    (taken ended : Nat) : Window where
  free := ended
  earliest := max ended (taken + period.milliseconds - tolerance)
  latest := max ended (taken + period.milliseconds)

theorem Window.first_opens
    (start due : Nat) :
    (Window.first start due).free ≤ (Window.first start due).earliest :=
  Nat.le_max_left _ _

theorem Window.after_opens
    (period : Period)
    (taken ended : Nat) :
    (Window.after period taken ended).free ≤
      (Window.after period taken ended).earliest :=
  Nat.le_max_left _ _

/--
A run of a loop from a window on.  Another round is taken unless the window
reaches the cancellation, whatever came of the rounds before; nothing else ends
the loop, and no round begins at the cancellation or later.
-/
inductive Rounds
    (Takes : Nat → σ → Round σ ε → Prop)
    (period : Period)
    (cancelled : Nat) :
    Window → σ → Round σ ε → Prop where
  | stop
      {window : Window}
      {state : σ}
      (reached : cancelled ≤ window.latest) :
      Rounds Takes period cancelled window state
        ⟨[], max window.free cancelled, state⟩
  | next
      {window : Window}
      {state : σ}
      {time : Nat}
      {taking others : Round σ ε}
      (notEarlier : window.earliest ≤ time)
      (notLater : time ≤ window.latest)
      (uncancelled : time < cancelled)
      (takes : Takes time state taking)
      (rest :
        Rounds Takes period cancelled
          (.after period time taking.ended) taking.state others) :
      Rounds Takes period cancelled window state
        { others with events := taking.events ++ others.events }

/-- A round that was taken when it was due or later leaves the next one due a period on. -/
theorem nextDue_le
    (period : Period)
    {due taken : Nat}
    (dueBefore : due ≤ taken) :
    nextDue period due taken ≤ taken + period.milliseconds := by
  unfold nextDue
  split <;> omega

/-- A ticker catches up by no more than its tolerance. -/
theorem le_nextDue
    (period : Period)
    (due taken : Nat) :
    taken + period.milliseconds ≤ nextDue period due taken + tolerance := by
  unfold nextDue
  split <;> omega

section Runs

variable
  {Takes : Nat → σ → Round σ ε → Prop}
  {period : Period}
  {cancelled : Nat}

/-- A loop on a ticker takes its rounds within their windows. -/
theorem rounds_runRounds
    {round : Nat → σ → Round σ ε}
    (takes : ∀ time state, Takes time state (round time state))
    {due now : Nat}
    {state : σ}
    {window : Window}
    (free : window.free = now)
    (notEarlier : window.earliest ≤ max now due)
    (notLater : max now due ≤ window.latest) :
    Rounds Takes period cancelled window state
      (runRounds round period cancelled due now state) := by
  fun_induction runRounds round period cancelled due now state
      generalizing window with
  | case1 due now state stopped =>
      subst free
      exact .stop (Nat.le_trans stopped notLater)
  | case2 due now state ongoing taken taking others =>
      rename_i inductionHypothesis
      have caughtUp := le_nextDue period due taken
      have onTime : nextDue period due taken ≤ taken + period.milliseconds :=
        nextDue_le period (Nat.le_max_right now due)
      -- A late round is forgiven up to the tolerance, so the next due time is
      -- no single point but lies between the ends of the window.
      refine
        .next notEarlier notLater (Nat.lt_of_not_le ongoing)
          (takes taken state) (inductionHypothesis rfl ?_ ?_)
      · simp only [Window.after]
        omega
      · simp only [Window.after]
        omega

/-- A loop returns once it is free and the cancellation is reached, never before. -/
theorem Rounds.le_ended
    (forward :
      ∀ {time state taking}, Takes time state taking → time ≤ taking.ended)
    {window : Window}
    (opens : window.free ≤ window.earliest)
    {state : σ}
    {run : Round σ ε}
    (rounds : Rounds Takes period cancelled window state run) :
    max window.free cancelled ≤ run.ended := by
  induction rounds with
  | stop reached =>
      exact Nat.le_refl _
  | @next window _ time taking others notEarlier _ _ takes _
      inductionHypothesis =>
      have later := inductionHypothesis (Window.after_opens _ _ _)
      have onward := forward takes
      obtain ⟨afterRound, afterCancellation⟩ := Nat.max_le.mp later
      have endsBefore : taking.ended ≤ others.ended := afterRound
      have freeBefore : window.free ≤ others.ended := by
        omega
      exact Nat.max_le.mpr ⟨freeBefore, afterCancellation⟩

/-- The first round is taken when it is due, unless the loop is cancelled by then. -/
theorem Rounds.starts
    {start due : Nat}
    (startsBefore : start ≤ due)
    {state : σ}
    {run : Round σ ε}
    (rounds : Rounds Takes period cancelled (.first start due) state run)
    (uncancelled : due < cancelled) :
    ∃ taking rest,
      Takes due state taking ∧ run.events = taking.events ++ rest := by
  have opensAt : max start due = due :=
    Nat.max_eq_right startsBefore
  cases rounds with
  | stop reached =>
      rw [Window.first, opensAt] at reached
      exact (Nat.not_le_of_lt uncancelled reached).elim
  | @next _ _ time taking others notEarlier notLater _ takes _ =>
      have onTime : time = due := by
        rw [Window.first, opensAt] at notEarlier notLater
        exact Nat.le_antisymm notLater notEarlier
      rw [onTime] at takes
      exact ⟨taking, others.events, takes, rfl⟩

/-- Where an event stands in a run, it stands in one of the rounds. -/
theorem Rounds.split
    (forward :
      ∀ {time state taking}, Takes time state taking → time ≤ taking.ended)
    {window : Window}
    {state : σ}
    {run : Round σ ε}
    (rounds : Rounds Takes period cancelled window state run)
    {before after : List ε}
    {event : ε}
    (placed : run.events = before ++ event :: after) :
    ∃ time between taking earlier later rest,
      Takes time between taking ∧
        time < cancelled ∧
        taking.ended ≤ run.ended ∧
        taking.events = earlier ++ event :: later ∧
        after = later ++ rest := by
  induction rounds generalizing before with
  | stop reached =>
      simp at placed
  | @next _ between time taking others _ _ uncancelled takes rest
      inductionHypothesis =>
      -- The event lies behind this round, or within it.
      rcases List.append_eq_append_iff.mp placed with
        ⟨passed, rfl, inOthers⟩ | ⟨own, ownEvents, inOwn⟩
      · exact inductionHypothesis inOthers
      · cases own with
        | nil =>
            have startsOthers : others.events = [] ++ event :: after :=
              inOwn.symm
            exact inductionHypothesis startsOthers
        | cons head later =>
            rw [List.cons_append, List.cons.injEq] at inOwn
            obtain ⟨rfl, rfl⟩ := inOwn
            have returns := rest.le_ended forward (Window.after_opens _ _ _)
            exact
              ⟨time, between, taking, before, later, others.events,
                takes, uncancelled, (Nat.max_le.mp returns).1,
                ownEvents, rfl⟩

/-- An event of a run is one of a round that began before the cancellation. -/
theorem Rounds.round_of_mem
    (forward :
      ∀ {time state taking}, Takes time state taking → time ≤ taking.ended)
    {window : Window}
    {state : σ}
    {run : Round σ ε}
    (rounds : Rounds Takes period cancelled window state run)
    {event : ε}
    (member : event ∈ run.events) :
    ∃ time between taking,
      Takes time between taking ∧
        time < cancelled ∧
        event ∈ taking.events := by
  obtain ⟨before, after, placed⟩ := List.append_of_mem member
  obtain ⟨time, between, taking, earlier, later, _, takes,
      uncancelled, _, ownEvents, _⟩ :=
    rounds.split forward placed
  refine ⟨time, between, taking, takes, uncancelled, ?_⟩
  rw [ownEvents]
  exact List.mem_append_right earlier List.mem_cons_self

/-- A round whose events begin one after the other while it goes on. -/
structure Timely
    (clock : ε → Nat)
    (time : Nat)
    (taking : Round σ ε) : Prop where
  forward : time ≤ taking.ended
  within :
    ∀ event ∈ taking.events,
      time ≤ clock event ∧ clock event ≤ taking.ended
  ordered :
    taking.events.Pairwise fun first second => clock first ≤ clock second

/-- The events of a run begin after its window opens, one after the other, before it returns. -/
theorem Rounds.timely
    {clock : ε → Nat}
    (timely :
      ∀ {time state taking},
        Takes time state taking → Timely clock time taking)
    {window : Window}
    (opens : window.free ≤ window.earliest)
    {state : σ}
    {run : Round σ ε}
    (rounds : Rounds Takes period cancelled window state run) :
    (∀ event ∈ run.events,
      window.earliest ≤ clock event ∧ clock event ≤ run.ended) ∧
      run.events.Pairwise
        fun first second => clock first ≤ clock second := by
  induction rounds with
  | stop reached =>
      simp
  | @next window _ time taking others notEarlier _ _ takes rest
      inductionHypothesis =>
      have own := timely takes
      obtain ⟨othersWithin, othersOrdered⟩ :=
        inductionHypothesis (Window.after_opens _ _ _)
      have opensLater :
          taking.ended ≤ (Window.after period time taking.ended).earliest :=
        Window.after_opens _ _ _
      have returns :=
        rest.le_ended (fun taken => (timely taken).forward) opensLater
      have endsBefore : taking.ended ≤ others.ended :=
        Nat.le_trans (Nat.le_max_left _ _) returns
      constructor
      · intro event member
        rcases List.mem_append.mp member with inOwn | inOthers
        · obtain ⟨begins, ends⟩ := own.within event inOwn
          exact
            ⟨Nat.le_trans notEarlier begins,
              Nat.le_trans ends endsBefore⟩
        · obtain ⟨begins, ends⟩ := othersWithin event inOthers
          have onward := own.forward
          exact ⟨by omega, ends⟩
      · refine
          List.pairwise_append.mpr ⟨own.ordered, othersOrdered, ?_⟩
        intro first inOwn second inOthers
        have ends := (own.within first inOwn).2
        have begins := (othersWithin second inOthers).1
        omega

end Runs

end QueryAgent.Agent

namespace QueryAgent.Agent

/-!
# Tickers

A ticker says when the next round of a loop is due.  A round taken on time, or
at most five milliseconds late, keeps the rhythm; a later one starts it anew,
so that missed rounds are not caught up.
-/

/-- The time between two rounds, in milliseconds. -/
structure Period where
  milliseconds : Nat
  positive : 0 < milliseconds

/-- How late a round may be taken and still count as on time. -/
def tolerance : Nat := 5

/-- When the round after one that was due and taken at the given times is due. -/
def nextDue
    (period : Period)
    (due taken : Nat) : Nat :=
  if taken ≤ due + tolerance then
    due + period.milliseconds
  else
    taken + period.milliseconds

/-- The next round is due after the one that was taken. -/
theorem lt_nextDue
    (period : Period)
    (due taken : Nat) :
    due < nextDue period due taken := by
  have positive := period.positive
  unfold nextDue tolerance
  split <;> omega

/-- What a round of a loop did. -/
structure Round (σ ε : Type) where
  events : List ε
  ended : Nat
  state : σ

/--
Takes a round whenever one is due until the cancellation, which wins over a
round that is due at the same time or came due while the last one went on.
-/
def runRounds
    (round : Nat → σ → Round σ ε)
    (period : Period)
    (cancelled due now : Nat)
    (state : σ) : Round σ ε :=
  if cancelled ≤ max now due then
    ⟨[], max now cancelled, state⟩
  else
    let taken := max now due
    let taking := round taken state
    let others :=
      runRounds round period cancelled
        (nextDue period due taken) taking.ended taking.state
    { others with events := taking.events ++ others.events }
termination_by cancelled - due
decreasing_by
  have later := lt_nextDue period due (max now due)
  omega

end QueryAgent.Agent

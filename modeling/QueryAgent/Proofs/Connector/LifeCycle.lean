import QueryAgent.Proofs.Connector.Failures

namespace QueryAgent

/-!
# The life cycle of a connector

A connector with a pool is connected exactly while it holds one.  What each of
its operations can come to is said once, for whatever server it talks to, and
kept along every sequence of operations; the server may answer differently each
time, and nothing is assumed of it.
-/

/-- What is done with a connector that may hold a pool, by the server as it is at that time. -/
structure Driver (ν ρ : Type) where
  connect : ν → ConnectionSettings → Pooled ρ → Call (Pooled ρ) Unit
  connector : ν → Connector (Pooled ρ)

/-- The driver of PostgreSQL servers. -/
def Postgres.driver : Driver Postgres.Server Postgres.Pool where
  connect := Postgres.connect
  connector := Postgres.connector

/-- The driver of MySQL servers. -/
def Mysql.driver : Driver Mysql.Server Mysql.Options where
  connect := Mysql.connect
  connector := Mysql.connector

/-- Something that is done with a connector. -/
inductive Operation (ν : Type) where
  | connect (server : ν) (settings : ConnectionSettings)
  | probe (server : ν)
  | run (server : ν) (query : Query)
  | close (server : ν)

namespace Driver

/-- The state that an operation leaves. -/
def next
    (driver : Driver ν ρ)
    (state : Pooled ρ) : Operation ν → Pooled ρ
  | .connect server settings => (driver.connect server settings state).state
  | .probe server => ((driver.connector server).probe state).state
  | .run server query => ((driver.connector server).run query state).state
  | .close server => ((driver.connector server).close state).state

/-- The state after a sequence of operations on a new connector. -/
def after
    (driver : Driver ν ρ)
    (operations : List (Operation ν)) : Pooled ρ :=
  operations.foldl driver.next .initial

end Driver

/-- What connecting can come to: a pool, or an error that leaves the state. -/
inductive Connects
    (settings : ConnectionSettings)
    (state : Pooled ρ) : Call (Pooled ρ) Unit → Prop where
  | opens
      {pool : ρ}
      {duration : Nat} :
      Connects settings state ⟨.ok (), duration, .opened settings pool⟩
  | fails
      {cause : AgentError}
      {duration : Nat}
      (available : Available (.error cause : Result Unit)) :
      Connects settings state ⟨.error cause, duration, state⟩

/-- What asking the server can come to: a refusal without a pool, or an answer. -/
inductive Asks
    (state : Pooled ρ) : Call (Pooled ρ) α → Prop where
  | refuses
      {cause : AgentError}
      (lacking : state.held = .error cause) :
      Asks state (state.refuse cause)
  | answers
      {pool : ρ}
      {result : Result α}
      {duration : Nat}
      (holding : state.held = .ok pool)
      (available : Available result) :
      Asks state ⟨result, duration, state⟩

/-- What closing can come to: the pool is gone, whatever the server says to it. -/
inductive Closes
    (state : Pooled ρ) : Call (Pooled ρ) Unit → Prop where
  | closes
      {result : Result Unit}
      {duration : Nat}
      (quiet : state.pool = none → result = .ok () ∧ duration = 0)
      (available : Available result) :
      Closes state ⟨result, duration, state.closed⟩

/-- A driver whose operations come to nothing else. -/
structure Driver.Sound
    (driver : Driver ν ρ) : Prop where
  connects :
    ∀ server settings state,
      Connects settings state (driver.connect server settings state)
  probes :
    ∀ server state, Asks state ((driver.connector server).probe state)
  runs :
    ∀ server query state,
      Asks state ((driver.connector server).run query state)
  closes :
    ∀ server state, Closes state ((driver.connector server).close state)

namespace Pooled

/-- Connected exactly while a pool is held. -/
def Coherent
    (state : Pooled ρ) : Prop :=
  state.connected = true ↔ ∃ pool, state.pool = some pool

theorem coherent_initial :
    (initial : Pooled ρ).Coherent := by
  simp [Coherent, initial]

theorem coherent_opened
    (settings : ConnectionSettings)
    (pool : ρ) :
    (opened settings pool).Coherent := by
  simp [Coherent, opened]

theorem coherent_closed
    (state : Pooled ρ) :
    state.closed.Coherent := by
  simp [Coherent, closed]

/-- A connector that is not connected refuses for that reason. -/
theorem held_of_not_connected
    {state : Pooled ρ}
    (disconnected : state.connected = false) :
    state.held = .error notConnected := by
  rw [held, disconnected]
  rfl

/-- Without a pool a connector is not connected, and says so. -/
theorem Coherent.lacking
    {state : Pooled ρ}
    (coherent : state.Coherent)
    {cause : AgentError}
    (lacking : state.held = .error cause) :
    cause = notConnected := by
  unfold held at lacking
  cases connected : state.connected with
  | false =>
      rw [connected] at lacking
      exact (Except.error.inj lacking).symm
  | true =>
      obtain ⟨pool, holding⟩ := coherent.mp connected
      rw [connected, holding] at lacking
      cases lacking

/-- A connector that is not connected holds no pool. -/
theorem Coherent.pool_eq_none
    {state : Pooled ρ}
    (coherent : state.Coherent)
    (disconnected : state.connected = false) :
    state.pool = none := by
  cases holding : state.pool with
  | none =>
      rfl
  | some pool =>
      have connected := coherent.mpr ⟨pool, holding⟩
      rw [disconnected] at connected
      cases connected

/-- Closing leaves a connector that is not connected as it is. -/
theorem Coherent.closed_eq
    {state : Pooled ρ}
    (coherent : state.Coherent)
    (disconnected : state.connected = false) :
    state.closed = state := by
  have empty := coherent.pool_eq_none disconnected
  obtain ⟨pool, connected, querySeconds⟩ := state
  subst empty disconnected
  rfl

end Pooled

section Operations

variable
  {settings : ConnectionSettings}
  {state : Pooled ρ}

theorem Connects.coherent
    {call : Call (Pooled ρ) Unit}
    (connects : Connects settings state call)
    (coherent : state.Coherent) :
    call.state.Coherent := by
  cases connects with
  | opens =>
      exact Pooled.coherent_opened _ _
  | fails _ =>
      exact coherent

/-- Connecting opens a pool or leaves the state, and its result says which. -/
theorem Connects.opened_or_kept
    {call : Call (Pooled ρ) Unit}
    (connects : Connects settings state call) :
    (call.result = .ok () ∧
        ∃ pool, call.state = .opened settings pool) ∨
      ∃ cause, call.result = .error cause ∧ call.state = state := by
  cases connects with
  | opens =>
      exact .inl ⟨rfl, _, rfl⟩
  | fails _ =>
      exact .inr ⟨_, rfl, rfl⟩

/-- Asking the server leaves the state. -/
theorem Asks.state_eq
    {call : Call (Pooled ρ) α}
    (asks : Asks state call) :
    call.state = state := by
  cases asks <;>
    rfl

/-- Without a connection the server is not asked. -/
theorem Asks.refused
    {call : Call (Pooled ρ) α}
    (asks : Asks state call)
    (disconnected : state.connected = false) :
    call = state.refuse notConnected := by
  have lacking := Pooled.held_of_not_connected disconnected
  cases asks with
  | refuses held =>
      rw [lacking] at held
      rw [Except.error.inj held]
  | answers holding _ =>
      rw [lacking] at holding
      cases holding

theorem Connects.available
    {call : Call (Pooled ρ) Unit}
    (connects : Connects settings state call) :
    Available call.result := by
  cases connects with
  | opens =>
      nofun
  | fails available =>
      exact available

theorem Asks.available
    {call : Call (Pooled ρ) α}
    (asks : Asks state call)
    (coherent : state.Coherent) :
    Available call.result := by
  cases asks with
  | answers _ available =>
      exact available
  | refuses lacking =>
      rw [coherent.lacking lacking]
      simp [Available, Pooled.refuse, notConnected, noPool]

theorem Closes.available
    {call : Call (Pooled ρ) Unit}
    (closes : Closes state call) :
    Available call.result := by
  cases closes with
  | closes _ available =>
      exact available

/-- Closing lets the pool go. -/
theorem Closes.state_eq
    {call : Call (Pooled ρ) Unit}
    (closes : Closes state call) :
    call.state = state.closed := by
  cases closes
  rfl

/-- There is nothing to close without a connection. -/
theorem Closes.again
    {call : Call (Pooled ρ) Unit}
    (closes : Closes state call)
    (coherent : state.Coherent)
    (disconnected : state.connected = false) :
    call = ⟨.ok (), 0, state⟩ := by
  cases closes with
  | closes quiet _ =>
      obtain ⟨rfl, rfl⟩ := quiet (coherent.pool_eq_none disconnected)
      rw [coherent.closed_eq disconnected]

end Operations

namespace Driver

variable
  {driver : Driver ν ρ}

/-- Every operation of a sound driver keeps a coherent state so. -/
theorem Sound.coherent_next
    (sound : driver.Sound)
    {state : Pooled ρ}
    (coherent : state.Coherent)
    (operation : Operation ν) :
    (driver.next state operation).Coherent := by
  cases operation with
  | connect server settings =>
      exact (sound.connects server settings state).coherent coherent
  | probe server =>
      rw [next, (sound.probes server state).state_eq]
      exact coherent
  | run server query =>
      rw [next, (sound.runs server query state).state_eq]
      exact coherent
  | close server =>
      rw [next, (sound.closes server state).state_eq]
      exact Pooled.coherent_closed state

/-- Every sequence of operations keeps a coherent state so. -/
theorem Sound.coherent_foldl
    (sound : driver.Sound)
    {state : Pooled ρ}
    (coherent : state.Coherent)
    (operations : List (Operation ν)) :
    (operations.foldl driver.next state).Coherent := by
  induction operations generalizing state with
  | nil =>
      exact coherent
  | cons operation others inductionHypothesis =>
      exact inductionHypothesis (sound.coherent_next coherent operation)

/-- Whatever was done with a new connector, its state is coherent. -/
theorem Sound.coherent_after
    (sound : driver.Sound)
    (operations : List (Operation ν)) :
    (driver.after operations).Coherent :=
  sound.coherent_foldl Pooled.coherent_initial operations

end Driver

namespace Pooled

/-- An attempt to open a pool opens it, or leaves the state. -/
theorem connects_openPool
    (settings : ConnectionSettings)
    (describe : ε → String)
    (pool : ρ)
    (attempt : Reply ε Unit)
    (state : Pooled ρ) :
    Connects settings state
      (openPool settings describe pool attempt state) := by
  simp only [openPool]
  split
  · exact .fails (.error (by simp [noPool]))
  · cases attempt.outcome with
    | ok _ =>
        exact .opens
    | error cause =>
        exact .fails (.connectionFailed rfl (by decide) _)

/-- What a server replies is read, unless it takes too long. -/
theorem asks_conclude
    {what : String}
    {reply : Reply ε β}
    {read : Except ε β → Result α}
    {state : Pooled ρ}
    {pool : ρ}
    (holding : state.held = .ok pool)
    (available : ∀ outcome, Available (read outcome)) :
    Asks state (state.conclude what reply read) := by
  unfold conclude withDeadline
  split
  · exact .answers holding (available reply.outcome)
  · split
    · exact .answers holding (available reply.outcome)
    · exact .answers holding (.error (by simp [noPool]))

end Pooled

namespace Postgres

/-- The operations of the connector come to what a driver's may. -/
theorem sound_driver :
    driver.Sound where
  connects := by
    intro server settings session
    simp only [driver, connect]
    have available := available_target settings
    cases found : target settings with
    | error cause =>
        rw [found] at available
        exact .fails available.elsewhere
    | ok target =>
        exact Pooled.connects_openPool _ _ _ _ _
  probes := by
    intro server session
    simp only [driver, connector, probe]
    cases held : session.held with
    | error cause =>
        exact .refuses held
    | ok pool =>
        exact Pooled.asks_conclude held available_readProbe
  runs := by
    intro server query session
    simp only [driver, connector, run]
    cases held : session.held with
    | error cause =>
        exact .refuses held
    | ok pool =>
        have available := available_statement .postgres query
        cases compiled : Sql.Dialect.postgres.statement query with
        | error cause =>
            rw [compiled] at available
            exact .answers held available.elsewhere
        | ok statement =>
            exact Pooled.asks_conclude held available_readAnswer
  closes := by
    intro server session
    exact .closes (fun _ => ⟨rfl, rfl⟩) (.ok ())

end Postgres

namespace Mysql

/-- The operations of the connector come to what a driver's may. -/
theorem sound_driver :
    driver.Sound where
  connects := by
    intro server settings session
    simp only [driver, connect]
    have available := available_ofSettings settings
    cases found : Options.ofSettings settings with
    | error cause =>
        rw [found] at available
        exact .fails available.elsewhere
    | ok options =>
        exact Pooled.connects_openPool _ _ _ _ _
  probes := by
    intro server session
    simp only [driver, connector, probe]
    cases held : session.held with
    | error cause =>
        exact .refuses held
    | ok pool =>
        exact Pooled.asks_conclude held available_readProbe
  runs := by
    intro server query session
    simp only [driver, connector, run]
    cases held : session.held with
    | error cause =>
        exact .refuses held
    | ok pool =>
        have available := available_boundStatement query
        cases compiled : boundStatement query with
        | error cause =>
            rw [compiled] at available
            exact .answers held available.elsewhere
        | ok statement =>
            exact Pooled.asks_conclude held available_readAnswer
  closes := by
    intro server session
    simp only [driver, connector, close]
    cases pool : session.pool with
    | none =>
        exact .closes (fun _ => ⟨rfl, rfl⟩) (.ok ())
    | some options =>
        refine .closes (fun empty => ?_) ?_
        · rw [pool] at empty
          cases empty
        · cases server.disconnect.outcome with
          | ok _ =>
              exact .ok ()
          | error fault =>
              exact .connectionFailed rfl (by decide) _

end Mysql

/--
What holds of a connector at every point of its life: it is connected exactly
while it holds a pool, so no operation misses one; a failure to connect changes
nothing; closing ends the connection whatever the server says to it, and a
connector that is not connected is closed without a word; probes and queries
reach the server only through a connection.
-/
structure LifeCycle
    (driver : Driver ν ρ)
    (state : Pooled ρ) : Prop where
  coherent :
    state.connected = true ↔ ∃ pool, state.pool = some pool
  available :
    ∀ server settings query,
      Available (driver.connect server settings state).result ∧
        Available ((driver.connector server).probe state).result ∧
        Available ((driver.connector server).run query state).result ∧
        Available ((driver.connector server).close state).result
  connected :
    ∀ server settings,
      let call := driver.connect server settings state
      (call.result = .ok () ∧
          ∃ pool, call.state = .opened settings pool) ∨
        ∃ cause, call.result = .error cause ∧ call.state = state
  closed :
    ∀ server other,
      let state := ((driver.connector server).close state).state
      state.connected = false ∧
        state.pool = none ∧
        ((driver.connector other).close state).result = .ok ()
  disconnected :
    state.connected = false →
    ∀ server query,
      (driver.connector server).probe state = state.refuse notConnected ∧
        (driver.connector server).run query state =
          state.refuse notConnected ∧
        (driver.connector server).close state = ⟨.ok (), 0, state⟩

/-- A connector with a sound driver lives like this from the beginning. -/
theorem Driver.Sound.lifeCycle
    {driver : Driver ν ρ}
    (sound : driver.Sound)
    (operations : List (Operation ν)) :
    LifeCycle driver (driver.after operations) := by
  have coherent := sound.coherent_after operations
  generalize driver.after operations = state at coherent
  constructor
  · exact coherent
  · intro server settings query
    exact
      ⟨(sound.connects server settings state).available,
        (sound.probes server state).available coherent,
        (sound.runs server query state).available coherent,
        (sound.closes server state).available⟩
  · intro server settings
    exact (sound.connects server settings state).opened_or_kept
  · intro server other
    rw [(sound.closes server state).state_eq]
    have again :=
      (sound.closes other state.closed).again
        (Pooled.coherent_closed state) rfl
    exact ⟨rfl, rfl, congrArg Call.result again⟩
  · intro disconnected server query
    exact
      ⟨(sound.probes server state).refused disconnected,
        (sound.runs server query state).refused disconnected,
        (sound.closes server state).again coherent disconnected⟩

/--
The connectors of both kinds of servers live alike, whatever is done with a new
one: any sequence of connecting, closing, probing and running queries, with any
settings, against servers that may answer differently each time.
-/
theorem pooled_connectors_live_alike :
    (∀ operations,
      LifeCycle Postgres.driver (Postgres.driver.after operations)) ∧
    ∀ operations, LifeCycle Mysql.driver (Mysql.driver.after operations) :=
  ⟨Postgres.sound_driver.lifeCycle, Mysql.sound_driver.lifeCycle⟩

/-- A server that lets everybody in and nobody out. -/
def Mysql.Server.clinging : Mysql.Server where
  greet := fun _ => ⟨.ok (), 5⟩
  first := fun _ => ⟨.ok (some 1), 1⟩
  answer := fun _ _ => ⟨.ok ⟨[], []⟩, 1⟩
  disconnect := ⟨.error (.network "Broken pipe (os error 32)"), 2⟩

/-- Settings with an address. -/
def ConnectionSettings.local : ConnectionSettings :=
  { standard with url := some "mysql://agent@db.local/orders" }

/--
A connector that cannot connect again stays connected, and is let go of although
the server reports a failure; then it is closed without one, and a query that
would not compile is refused for want of a connection.
-/
theorem pooled_connectors_live_alike_clinging :
    let driver := Mysql.driver
    let server := Mysql.Server.clinging
    let connected :=
      driver.after [.connect server .local, .connect server .standard]
    let closing := (driver.connector server).close connected
    let nameless : Query := ⟨"", none, none, [], [], [], none⟩
    connected.connected = true ∧
      closing.result.toOption = none ∧
      ((driver.connector server).close closing.state).result = .ok () ∧
      (driver.connector server).run nameless closing.state =
        closing.state.refuse notConnected := by
  intro driver server connected closing nameless
  obtain ⟨_, mysql⟩ := pooled_connectors_live_alike
  have before :=
    mysql [.connect server .local, .connect server .standard]
  have behind :=
    mysql [.connect server .local, .connect server .standard, .close server]
  obtain ⟨disconnected, _, again⟩ := before.closed server server
  exact
    ⟨by decide +kernel, by decide +kernel, again,
      (behind.disconnected disconnected server nameless).2.1⟩

end QueryAgent

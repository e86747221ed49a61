import QueryAgent.Backend.Session
import QueryAgent.Proofs.Connector.Failures

namespace QueryAgent

/-!
# Connectors that have an address

A connector asks for its address once, when it connects.  Where the address is
given, nothing that goes wrong afterwards is reported as if it were missing.
-/

/-- The error of a connection without an address. -/
def urlMissing : AgentError :=
  .connector (.connectionFailed "connection url is required")

/-- An error that is raised for want of an address, before connecting or while at it. -/
def AgentError.WantsUrl
    (error : AgentError) : Prop :=
  (∃ database : DatabaseConfig, error = database.urlRequired) ∨ error = urlMissing

/-- An error of a connector is for want of an address when its words are those for it. -/
@[simp] theorem wantsUrl_connector
    (cause : ConnectorError) :
    (AgentError.connector cause).WantsUrl ↔
      cause = .connectionFailed "connection url is required" := by
  simp [AgentError.WantsUrl, urlMissing, DatabaseConfig.urlRequired]

/-- A result that is not for want of an address. -/
def Addressed
    (result : Result α) : Prop :=
  ∀ error, result = .error error → ¬ error.WantsUrl

namespace Addressed

theorem ok
    (value : α) :
    Addressed (.ok value : Result α) :=
  nofun

theorem error
    {cause : AgentError}
    (apart : ¬ cause.WantsUrl) :
    Addressed (.error cause : Result α) := by
  rintro _ ⟨⟩
  exact apart

/-- Words that begin otherwise are about something else. -/
theorem connectionFailed
    {first : Char}
    {words : String}
    (begins : words.toList.head? = some first)
    (other : first ≠ 'c')
    (rest : String) :
    Addressed
      (.error (.connector (.connectionFailed (words ++ rest))) : Result α) := by
  have apart :
      AgentError.connector (.connectionFailed (words ++ rest)) ≠
        .connector (.connectionFailed "connection url is required") :=
    connectionFailed_ne begins rfl other rest
  exact error (by simpa using apart)

end Addressed

/-- A call comes to what it was read as, unless it took too long. -/
theorem addressed_withDeadline
    {call : Call σ α}
    (addressed : Addressed call.result)
    (limit : Option Nat)
    (what : String) :
    Addressed (withDeadline limit what call).result := by
  unfold withDeadline
  split
  · exact addressed
  · split
    · exact addressed
    · exact .error (by simp)

namespace Pooled

theorem addressed_held
    (state : Pooled ρ) :
    Addressed state.held := by
  unfold held notConnected
  split
  · split
    · exact .ok _
    · exact .error (by simp)
  · exact .error (by simp)

/-- Opening a pool fails for the time it takes or for what the server says. -/
theorem addressed_openPool
    (settings : ConnectionSettings)
    (describe : ε → String)
    (pool : ρ)
    (attempt : Reply ε Unit)
    (state : Pooled ρ) :
    Addressed (state.openPool settings describe pool attempt).result := by
  simp only [openPool]
  split
  · exact .error (by simp)
  · cases attempt.outcome with
    | ok _ =>
        exact .ok ()
    | error cause =>
        exact .connectionFailed rfl (by decide) _

end Pooled

section
variable {settings : ConnectionSettings} {url : String}
  (supplied : settings.requireUrl = .ok url)
include supplied

/-- With an address, a connection to PostgreSQL is not refused for want of one. -/
theorem Postgres.addressed_connect
    (server : Server)
    (session : Session) :
    Addressed (connect server settings session).result := by
  have addressedTarget : Addressed (target settings) := by
    unfold target
    rw [supplied]
    simp only [bind, Except.bind]
    split
    · exact .ok _
    · exact .error (by simp)
  unfold connect
  split
  next cause fails =>
      exact .error (addressedTarget cause fails)
  next =>
      exact Pooled.addressed_openPool _ _ _ _ _

/-- With an address, a connection to MySQL is not refused for want of one. -/
theorem Mysql.addressed_connect
    (server : Server)
    (session : Session) :
    Addressed (connect server settings session).result := by
  have addressedOptions : Addressed (Options.ofSettings settings) := by
    unfold Options.ofSettings
    rw [supplied]
    simp only [bind, Except.bind]
    split
    · exact .connectionFailed rfl (by decide) _
    · split
      · exact .ok _
      · exact .connectionFailed rfl (by decide) _
  unfold connect
  split
  next cause fails =>
      exact .error (addressedOptions cause fails)
  next =>
      exact Pooled.addressed_openPool _ _ _ _ _

end

/-- A probe of PostgreSQL has no use for an address. -/
theorem Postgres.addressed_probe
    (server : Server)
    (session : Session) :
    Addressed (probe server session).result := by
  have addressedRead : ∀ outcome, Addressed (readProbe outcome) := by
    intro outcome
    unfold readProbe executionFailed
    split
    next fault =>
        cases fault with
        | connection cause =>
            exact .connectionFailed rfl (by decide) _
        | refused error
        | broken reason =>
            exact .error (by simp [StatementFault.toAgentError, executionFailed])
    · split
      · exact .error (by simp)
      · split
        · exact .ok ()
        · exact .error (by simp)
  unfold probe
  split
  next cause lacking =>
      exact .error (session.addressed_held cause lacking)
  next =>
      exact addressed_withDeadline (addressedRead _) _ _

/-- A probe of MySQL has no use for an address. -/
theorem Mysql.addressed_probe
    (server : Server)
    (session : Session) :
    Addressed (probe server session).result := by
  have addressedRead : ∀ outcome, Addressed (readProbe outcome) := by
    intro outcome
    unfold readProbe
    split
    next fault =>
        cases fault with
        | connection cause =>
            exact .connectionFailed rfl (by decide) _
        | execution cause =>
            exact .error (by simp [StatementFault.toAgentError])
    · split
      · exact .ok ()
      · exact .error (by simp)
  unfold probe
  split
  next cause lacking =>
      exact .error (session.addressed_held cause lacking)
  next =>
      exact addressed_withDeadline (addressedRead _) _ _

theorem Mock.addressed_probe
    (state : State) :
    Addressed (probe .standard state).result := by
  unfold probe notConnected
  simp only [Setup.standard]
  split
  · exact .error (by simp)
  · exact .ok ()

namespace Backend

/-- With an address where one is needed, no session is refused for want of one. -/
theorem Session.addressed_start
    (network : Network)
    {database : DatabaseConfig}
    (supplied :
      database.backend ≠ .mock →
        ∃ url, (ConnectionSettings.ofConfig database).requireUrl = .ok url) :
    Addressed (start network database).result := by
  unfold start
  cases isBackend : database.backend with
  | mock =>
      exact .ok ()
  | postgres =>
      obtain ⟨url, isUrl⟩ := supplied (by simp [isBackend])
      exact Postgres.addressed_connect isUrl _ _
  | mysql =>
      obtain ⟨url, isUrl⟩ := supplied (by simp [isBackend])
      exact Mysql.addressed_connect isUrl _ _

theorem Session.addressed_probeAndClose
    (network : Network)
    (session : Session) :
    Addressed (session.probeAndClose network).result := by
  cases session with
  | mock state =>
      exact Mock.addressed_probe state
  | postgres state =>
      exact Postgres.addressed_probe network.postgres state
  | mysql state =>
      exact Mysql.addressed_probe network.mysql state

end Backend

end QueryAgent

import QueryAgent.Mysql.Session
import QueryAgent.Postgres.Session
import QueryAgent.Proofs.Json.Records

namespace QueryAgent

/-!
# What connectors fail by

A connector that believes itself connected and holds no pool has an error of its
own for that.  Nothing else that goes wrong on the way to a server, in a query,
or in what a server answers is reported in the same words.
-/

/-- The error of a connector that is connected and holds no pool. -/
def noPool : AgentError :=
  .connector (.connectionFailed "No connection pool available")

/-- A failure to connect whose words begin otherwise is another one. -/
theorem connectionFailed_ne
    {first second : Char}
    {words message : String}
    (begins : words.toList.head? = some first)
    (messageBegins : message.toList.head? = some second)
    (other : first ≠ second)
    (rest : String) :
    AgentError.connector (.connectionFailed (words ++ rest)) ≠
      .connector (.connectionFailed message) := by
  intro same
  rw [← ConnectorError.connectionFailed.inj (AgentError.connector.inj same),
    String.toList_append, List.head?_append, begins] at messageBegins
  exact other (Option.some.inj messageBegins)

/-- A result that is not for want of a pool. -/
def Available
    (result : Result α) : Prop :=
  result ≠ .error noPool

namespace Available

theorem ok
    (value : α) :
    Available (.ok value : Result α) :=
  nofun

theorem error
    {cause : AgentError}
    (apart : cause ≠ noPool) :
    Available (.error cause : Result α) :=
  fun same => apart (Except.error.inj same)

/-- What is wrong with one result is wrong with another for the same reason. -/
theorem elsewhere
    {cause : AgentError}
    (available : Available (.error cause : Result α)) :
    Available (.error cause : Result β) :=
  error fun same => available (congrArg Except.error same)

/-- Words that begin otherwise are about something else. -/
theorem connectionFailed
    {first : Char}
    {words : String}
    (begins : words.toList.head? = some first)
    (other : first ≠ 'N')
    (rest : String) :
    Available
      (.error (.connector (.connectionFailed (words ++ rest))) : Result α) :=
  error (connectionFailed_ne begins rfl other rest)

theorem bind
    {first : Result α}
    {second : α → Result β}
    (available : Available first)
    (further : ∀ value, Available (second value)) :
    Available (first >>= second) := by
  intro same
  rcases Json.bind_eq_error.mp same with fails | ⟨value, _, fails⟩
  · exact available fails
  · exact further value fails

theorem map
    {result : Result α}
    (available : Available result)
    (change : α → β) :
    Available (result.map change) := by
  cases result with
  | error cause =>
      exact available.elsewhere
  | ok value =>
      exact ok (change value)

end Available

/-- A query that cannot be compiled is refused for what is wrong with it. -/
theorem available_statement
    (dialect : Sql.Dialect)
    (query : Query) :
    Available (dialect.statement query) := by
  unfold Sql.Dialect.statement
  cases dialect.compile query with
  | ok statement =>
      exact .ok statement
  | error fault =>
      apply Available.error
      cases fault <;>
        simp [Sql.CompileError.toAgentError, noPool]

theorem available_requireUrl
    (settings : ConnectionSettings) :
    Available settings.requireUrl := by
  unfold ConnectionSettings.requireUrl
  split
  · exact .ok _
  · exact .error (by simp [noPool])

namespace Postgres

theorem available_target
    (settings : ConnectionSettings) :
    Available (target settings) := by
  refine .bind (available_requireUrl settings) ?_
  intro url
  split
  · exact .ok _
  · exact .error (by simp [noPool])

theorem available_fault
    (fault : StatementFault) :
    Available (.error fault.toAgentError : Result α) := by
  cases fault with
  | connection cause =>
      exact .connectionFailed rfl (by decide) _
  | refused error
  | broken reason =>
      exact .error (by simp [StatementFault.toAgentError, executionFailed, noPool])

theorem available_executionFailed
    (reason : String) :
    Available (.error (executionFailed reason) : Result α) :=
  .error (by simp [executionFailed, noPool])

theorem available_readProbe
    (outcome : Except StatementFault Answer) :
    Available (readProbe outcome) := by
  unfold readProbe
  split
  · exact available_fault _
  · split
    · exact available_executionFailed _
    · split
      · exact .ok ()
      · exact available_executionFailed _

theorem available_readCells
    (columns : List Column)
    (cells : List (Option (List UInt8))) :
    Available (readCells columns cells) := by
  fun_induction readCells columns cells with
  | case1 column columns cells inductionHypothesis =>
      exact .bind inductionHypothesis fun _ => .ok _
  | case2 =>
      exact available_executionFailed _
  | case3 column columns bytes cells value decoded inductionHypothesis =>
      exact .bind inductionHypothesis fun _ => .ok _
  | case4 =>
      exact .ok []

theorem available_readRows
    (columns : List Column)
    (rows : List (List (Option (List UInt8)))) :
    Available (readRows columns rows) := by
  induction rows with
  | nil =>
      exact .ok []
  | cons cells rest inductionHypothesis =>
      refine .bind (available_readCells columns cells) ?_
      intro row
      exact .bind inductionHypothesis fun _ => .ok _

theorem available_readAnswer
    (outcome : Except StatementFault Answer) :
    Available (readAnswer outcome) := by
  unfold readAnswer
  split
  · exact available_fault _
  · exact .map (available_readRows _ _) _

end Postgres

namespace Mysql

theorem available_ofSettings
    (settings : ConnectionSettings) :
    Available (Options.ofSettings settings) := by
  refine .bind (available_requireUrl settings) ?_
  intro url
  split
  · exact .connectionFailed rfl (by decide) _
  · dsimp only
    split
    · exact .ok _
    · exact .connectionFailed rfl (by decide) _

theorem available_fault
    (fault : StatementFault) :
    Available (.error fault.toAgentError : Result α) := by
  cases fault with
  | connection cause =>
      exact .connectionFailed rfl (by decide) _
  | execution cause =>
      exact .error (by simp [StatementFault.toAgentError, noPool])

theorem available_readProbe
    (outcome : Except StatementFault (Option Int64)) :
    Available (readProbe outcome) := by
  unfold readProbe
  split
  · exact available_fault _
  · split
    · exact .ok ()
    · exact .error (by simp [noPool])

theorem available_readAnswer
    (outcome : Except StatementFault Answer) :
    Available (readAnswer outcome) := by
  unfold readAnswer
  split
  · exact available_fault _
  · exact .ok _

theorem available_bound
    (params : List Param) :
    Available (bound params) := by
  induction params with
  | nil =>
      exact .ok []
  | cons param rest inductionHypothesis =>
      refine .bind ?_ fun cell => .bind inductionHypothesis fun _ => .ok _
      cases param with
      | list items =>
          exact .error (by simp [noPool])
      | null
      | boolean
      | integer
      | float
      | text =>
          exact .ok _

theorem available_boundStatement
    (query : Query) :
    Available (boundStatement query) := by
  refine .bind (available_statement .mysql query) ?_
  intro statement
  exact .bind (available_bound statement.parameters) fun _ => .ok _

end Mysql

end QueryAgent

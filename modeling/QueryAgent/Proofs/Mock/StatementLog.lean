import Mathlib.Data.List.Basic
import Mathlib.Data.List.Induction
import QueryAgent.Cli.Program
import QueryAgent.Job.Dispatch
import QueryAgent.Mock.Session

namespace QueryAgent.Mock

/-!
# The log of a dry run

The mock backend logs the statement of every query that it is asked to run while
connected, and of none that does not compile, whatever comes of the run after
that.  What a dispatched payload adds to the log is what the payload compiles to
offline, and what keeps it from compiling is what its job fails by.
-/

/-! ## What a run comes to -/

/-- What running a query can come to: a refusal, or an answer behind a logged statement. -/
inductive Runs
    (setup : Setup)
    (query : Query)
    (state : State) : Call State ResultSet → Prop where
  | disconnected
      (isClosed : state.connected = false) :
      Runs setup query state ⟨.error notConnected, 0, state⟩
  | refused
      {cause : AgentError}
      (isOpen : state.connected = true)
      (refused : setup.dialect.statement query = .error cause) :
      Runs setup query state ⟨.error cause, 0, state⟩
  | logged
      {statement : Sql.Statement}
      (isOpen : state.connected = true)
      (compiled : setup.dialect.statement query = .ok statement) :
      Runs setup query state
        { result := answer setup state.tables query
          duration := setup.queryDelay
          state := { state with statements := state.statements ++ [statement] } }

theorem runs_run
    (setup : Setup)
    (query : Query)
    (state : State) :
    Runs setup query state (run setup query state) := by
  unfold run
  split
  next isClosed =>
      exact .disconnected (by simpa using isClosed)
  next isOpen =>
      split
      next cause refused =>
          exact .refused (by simpa using isOpen) refused
      next statement compiled =>
          exact .logged (by simpa using isOpen) compiled

section
variable {setup : Setup} {query : Query} {state : State} {call : Call State ResultSet}

/-- A run leaves the connection as it is. -/
theorem Runs.connected_eq
    (runs : Runs setup query state call) :
    call.state.connected = state.connected := by
  cases runs <;>
    rfl

/-- A run logs a statement when it is asked for while connected and compiles, and nothing else. -/
theorem Runs.statements_eq
    (runs : Runs setup query state call) :
    call.state.statements =
      state.statements
        ++ (if state.connected then (setup.dialect.statement query).toOption.toList else []) := by
  cases runs with
  | disconnected isClosed =>
      simp [isClosed]
  | refused isOpen refused =>
      simp [isOpen, refused, Except.toOption]
  | logged isOpen compiled =>
      simp [isOpen, compiled, Except.toOption]

/-- A connected backend comes to an answer for a query that compiles. -/
theorem Runs.result_eq
    (runs : Runs setup query state call)
    (isOpen : state.connected = true)
    {statement : Sql.Statement}
    (compiled : setup.dialect.statement query = .ok statement) :
    call.result = answer setup state.tables query := by
  cases runs with
  | disconnected isClosed =>
      cases isOpen.symm.trans isClosed
  | refused _ refused =>
      cases compiled.symm.trans refused
  | logged =>
      rfl

end

/-! ## Sequences of operations -/

/-- Something that is done with the mock backend. -/
inductive Operation where
  | connect
  | close
  | probe
  | run (query : Query)
  | addTable (name : String) (columns : List String) (rows : List (List Value))

namespace Operation

/-- Whether an operation opens or closes the connection, none when it leaves it. -/
def opens? : Operation → Option Bool
  | .connect => some true
  | .close => some false
  | _ => none

/-- The statement of the query that an operation runs, if there is one. -/
def statement?
    (dialect : Sql.Dialect) : Operation → Option Sql.Statement
  | .run query => (dialect.statement query).toOption
  | _ => none

end Operation

/-- The state that an operation leaves. -/
def next
    (setup : Setup)
    (state : State) : Operation → State
  | .connect => (connect setup state).state
  | .close => (close state).state
  | .probe => (probe setup state).state
  | .run query => (run setup query state).state
  | .addTable name columns rows =>
      { state with tables := state.tables.add name columns rows }

/-- The state after a sequence of operations on a new connector with the given tables. -/
def after
    (setup : Setup)
    (tables : Tables)
    (operations : List Operation) : State :=
  operations.foldl (next setup) { State.initial with tables := tables }

/-- Whether the last of the operations that open or close the connection opens it. -/
def leavesOpen
    (operations : List Operation) : Bool :=
  (operations.reverse.findSome? Operation.opens?).getD false

/-- The statements that operations ask for while the connection is open, in their order. -/
def dryRun
    (dialect : Sql.Dialect)
    (operations : List Operation) : List Sql.Statement :=
  (List.range operations.length).filterMap fun place =>
    if leavesOpen (operations.take place) then
      operations[place]?.bind (Operation.statement? dialect)
    else
      none

/-! ## What one more operation changes -/

section
variable (setup : Setup) (operation : Operation)

/-- An operation that neither opens nor closes the connection leaves it. -/
theorem connected_next
    (state : State) :
    (next setup state operation).connected = operation.opens?.getD state.connected := by
  cases operation with
  | run query =>
      exact (runs_run setup query state).connected_eq
  | connect
  | close
  | probe
  | addTable =>
      rfl

/-- An operation logs its statement when there is one and the connection is open. -/
theorem statements_next
    (state : State) :
    (next setup state operation).statements =
      state.statements
        ++ (if state.connected then (operation.statement? setup.dialect).toList else []) := by
  cases operation with
  | run query =>
      exact (runs_run setup query state).statements_eq
  | connect
  | close
  | probe
  | addTable =>
      simp [next, connect, close, probe, Operation.statement?]

theorem leavesOpen_append_singleton
    (operations : List Operation) :
    leavesOpen (operations ++ [operation]) = operation.opens?.getD (leavesOpen operations) := by
  rw [leavesOpen, List.reverse_append, List.reverse_singleton, List.singleton_append,
    List.findSome?_cons]
  cases operation.opens? <;>
    rfl

/-- The places before the last one are those of the operations before it. -/
theorem dryRun_append_singleton
    (dialect : Sql.Dialect)
    (operations : List Operation) :
    dryRun dialect (operations ++ [operation]) =
      dryRun dialect operations
        ++ (if leavesOpen operations then (operation.statement? dialect).toList else []) := by
  have before :
      ∀ place ∈ List.range operations.length,
        (if leavesOpen ((operations ++ [operation]).take place) then
          (operations ++ [operation])[place]?.bind (Operation.statement? dialect)
        else none) =
          if leavesOpen (operations.take place) then
            operations[place]?.bind (Operation.statement? dialect)
          else none := by
    intro place member
    have inside : place < operations.length := List.mem_range.mp member
    rw [List.take_append_of_le_length (Nat.le_of_lt inside), List.getElem?_append_left inside]
  rw [dryRun, List.length_append, List.length_singleton, List.range_succ,
    List.filterMap_append, List.filterMap_congr before]
  congr 1
  simp only [List.filterMap_cons, List.filterMap_nil, List.take_left,
    List.getElem?_concat_length, Option.bind_some]
  cases leavesOpen operations with
  | false =>
      rfl
  | true =>
      cases operation.statement? dialect <;>
        rfl

end

/-! ## What a sequence leaves -/

section
variable (setup : Setup) (tables : Tables) (operations : List Operation)

theorem after_append_singleton
    (operation : Operation) :
    after setup tables (operations ++ [operation]) =
      next setup (after setup tables operations) operation := by
  rw [after, List.foldl_append]
  rfl

/-- The connection is as the last operation on it left it. -/
theorem connected_after :
    (after setup tables operations).connected = leavesOpen operations := by
  induction operations using List.reverseRecOn with
  | nil =>
      rfl
  | append_singleton operations operation inductionHypothesis =>
      rw [after_append_singleton, connected_next, inductionHypothesis,
        leavesOpen_append_singleton]

/-- The log holds the statements asked for while connected, in their order. -/
theorem statements_after :
    (after setup tables operations).statements = dryRun setup.dialect operations := by
  induction operations using List.reverseRecOn with
  | nil =>
      rfl
  | append_singleton operations operation inductionHypothesis =>
      rw [after_append_singleton, statements_next, inductionHypothesis, connected_after,
        dryRun_append_singleton]

end

/-! ## Dispatched payloads -/

/-- A payload that does not begin with an at sign is compiled as it is. -/
theorem compile_of_inline
    (files : Cli.FileReader)
    {payload : String}
    (inline : payload.toList.head? ≠ some '@')
    (dialect : Sql.Dialect) :
    Cli.compile files payload dialect = (do
      let query ← Query.ofPayload payload
      dialect.statement query) := by
  have source : Cli.PayloadSource.ofArgument payload = .inline payload := by
    unfold Cli.PayloadSource.ofArgument
    split
    next path spelled =>
        rw [spelled] at inline
        exact absurd rfl inline
    · rfl
  rw [Cli.compile, Cli.readPayload, source]
  rfl

/-- What dispatching a payload does to the log, given what it compiles to offline. -/
inductive LogsCompiled
    (state : State) : Result Sql.Statement → Handled State JobOutcome → Prop where
  | grows
      {statement : Sql.Statement}
      {handled : Handled State JobOutcome}
      (grown : handled.state = { state with statements := state.statements ++ [statement] }) :
      LogsCompiled state (.ok statement) handled
  | fails
      {cause : AgentError}
      {handled : Handled State JobOutcome}
      (kept : handled.state = state)
      (reported : handled.answer = ⟨false, "\x7b\x7d", cause.jobMessage⟩) :
      LogsCompiled state (.error cause) handled

theorem logsCompiled_dispatch
    (setup : Setup)
    (files : Cli.FileReader)
    (id : String)
    {payload : String}
    (inline : payload.toList.head? ≠ some '@')
    {state : State}
    (isOpen : state.connected = true) :
    LogsCompiled state (Cli.compile files payload setup.dialect)
      (dispatch (connector setup) ⟨id, .query, payload⟩ state) := by
  rw [compile_of_inline files inline]
  unfold dispatch handle
  cases read : Query.ofPayload payload with
  | error cause =>
      exact .fails rfl rfl
  | ok query =>
      have runs := runs_run setup query state
      dsimp only [bind, Except.bind, connector]
      generalize run setup query state = call at runs
      cases runs with
      | disconnected isClosed =>
          cases isOpen.symm.trans isClosed
      | refused _ refused =>
          rw [refused]
          exact .fails rfl rfl
      | logged _ compiled =>
          rw [compiled]
          exact .grows rfl

/--
After any operations on a new connector, with whatever tables, dialect and
injected failures, the log is exactly the statements of the runs that were asked
for while connected and that compile, in their order.  A payload dispatched to a
connected backend adds the statement that it compiles to offline, and when it
does not compile its job fails by the same error and the log stays.
-/
theorem log_shows_what_would_run :
    (∀ setup tables operations,
      (after setup tables operations).statements = dryRun setup.dialect operations)
      ∧ ∀ (setup : Setup) files id (payload : String) (state : State),
        payload.toList.head? ≠ some '@' →
          state.connected = true →
            LogsCompiled state (Cli.compile files payload setup.dialect)
              (dispatch (connector setup) ⟨id, .query, payload⟩ state) :=
  ⟨statements_after, fun setup files id _ _ inline isOpen =>
    logsCompiled_dispatch setup files id inline isOpen⟩

/-- A failed run is logged, one without a connection is not, and a payload needs a table. -/
theorem log_shows_what_would_run_failing :
    let orders : Query := ⟨"orders", none, none, [], [], [], none⟩
    let setup : Setup := { Setup.standard with queryFailure := some "disk full" }
    let connected : State := { State.initial with connected := true }
    let payload := "\x7b\"table\":\"\"\x7d"
    ((after setup []
          [.run orders, .connect, .run orders, .probe, .close, .run orders]).statements.map
        (·.text) =
      ["SELECT * FROM orders"])
      ∧ payload.toList.head? ≠ some '@'
      ∧ connected.connected = true
      ∧ LogsCompiled connected (Cli.compile (fun _ => .error "not found") payload setup.dialect)
        (dispatch (connector setup) ⟨"7", .query, payload⟩ connected) := by
  intro orders setup connected payload
  obtain ⟨logs, compiles⟩ := log_shows_what_would_run
  have inline : payload.toList.head? ≠ some '@' := by
    decide
  refine ⟨?_, inline, rfl, compiles setup _ "7" payload connected inline rfl⟩
  rw [logs]
  decide +kernel

end QueryAgent.Mock

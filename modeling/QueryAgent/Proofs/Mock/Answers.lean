import QueryAgent.Proofs.Data.RowCount
import QueryAgent.Proofs.Mock.Selection
import QueryAgent.Proofs.Mock.StatementLog
import QueryAgent.Proofs.Sql.Written

namespace QueryAgent.Mock

/-!
# Answers of the mock backend

A connected backend without injected failures answers a query from the rows of
its table: with the rows that the query selects, each cut down to the columns
asked for.  The order of the conditions does not matter, and where no limit
counts a further condition takes rows away and does nothing else.
-/

/-- A query without grouping that a connected backend can answer from the rows of a table. -/
structure Answerable
    (setup : Setup)
    (state : State)
    (query : Query)
    (rows : List Row) : Prop where
  isOpen : state.connected = true
  noFailure : setup.queryFailure = none
  compiles : ∃ statement, setup.dialect.statement query = .ok statement
  table : findNamed? query.table state.tables = some rows
  noGroups : query.groupBy = []
  noHaving : query.having = []

/-- The same query under other conditions. -/
def withConditions
    (query : Query)
    (conditions : List Condition) : Query :=
  { query with conditions := conditions }

section
variable {setup : Setup} {state : State} {query : Query} {rows : List Row}

/-- The rows that are selected are cut down, or the first column that one of them lacks is told. -/
theorem Answerable.result_eq
    (answerable : Answerable setup state query rows) :
    (run setup query state).result =
      match projectRows (projectedColumns? query) (selectRows query rows) with
      | .error column => .error (SelectError.noSuchColumn column).toAgentError
      | .ok cut => .ok (.ofRows cut) := by
  obtain ⟨isOpen, noFailure, ⟨statement, compiled⟩, table, noGroups, noHaving⟩ := answerable
  rw [(runs_run setup query state).result_eq isOpen compiled, answer, noFailure]
  simp only [Tables.select, table, noGroups, noHaving, List.isEmpty_nil, Bool.not_true,
    Bool.or_self, Bool.false_eq_true, ↓reduceIte]
  cases projectRows (projectedColumns? query) (selectRows query rows) <;>
    rfl

/-- Rows are answered just when they are what the rows that are selected are cut down to. -/
theorem Answerable.result_eq_ofRows_iff
    (answerable : Answerable setup state query rows)
    {asked : Option (List String)}
    (asks : AsksFor query.projection asked)
    {cut : List Row} :
    (run setup query state).result = .ok (.ofRows cut) ↔
      projectRows asked (selectRows query rows) = .ok cut := by
  rw [answerable.result_eq, asksFor_iff.mp asks]
  cases projectRows asked (selectRows query rows) with
  | error column =>
      simp
  | ok others =>
      rw [Except.ok.injEq, Except.ok.injEq]
      exact ⟨congrArg ResultSet.rows, congrArg ResultSet.ofRows⟩

/-- A missing column is told just when a row that is selected lacks one that is asked for. -/
theorem Answerable.exists_missing_iff
    (answerable : Answerable setup state query rows)
    {asked : Option (List String)}
    (asks : AsksFor query.projection asked) :
    (∃ column,
        (run setup query state).result = .error (SelectError.noSuchColumn column).toAgentError) ↔
      ∃ row ∈ selectRows query rows, ∃ name, Lacks asked row name := by
  rw [← exists_projectRows_eq_error_iff, answerable.result_eq, asksFor_iff.mp asks]
  cases projectRows asked (selectRows query rows) with
  | error column =>
      exact iff_of_true ⟨column, rfl⟩ ⟨column, rfl⟩
  | ok others =>
      exact iff_of_false nofun nofun

/-- A selection is a part of the table, in its order. -/
theorem selectRows_sublist_rows
    (query : Query)
    (rows : List Row) :
    (selectRows query rows).Sublist rows := by
  unfold selectRows limitRows
  split
  · exact List.filter_sublist
  · exact (List.take_sublist _ _).trans List.filter_sublist

/-- Where the columns asked for are present, the rows that are selected are cut down to them. -/
theorem Answerable.exists_results
    (answerable : Answerable setup state query rows)
    {asked : Option (List String)}
    (asks : AsksFor query.projection asked)
    (present : Present asked rows) :
    ∃ results,
      (run setup query state).result = .ok results
        ∧ projectRows asked (selectRows query rows) = .ok results.rows
        ∧ List.Forall₂ (CutDown asked) (selectRows query rows) results.rows
        ∧ results.Counted := by
  have presentSelected : Present asked (selectRows query rows) :=
    fun columns given row member =>
      present columns given row ((selectRows_sublist_rows query rows).subset member)
  obtain ⟨cut, projected, areCut⟩ := projectRows_of_present presentSelected
  exact ⟨.ofRows cut, (answerable.result_eq_ofRows_iff asks).mpr projected, projected, areCut,
    ResultSet.counted_ofRows cut⟩

/-- Other conditions that compile are answered from the same rows. -/
theorem Answerable.withConditions
    (answerable : Answerable setup state query rows)
    {conditions : List Condition}
    (compiles :
      ∃ statement, setup.dialect.statement (withConditions query conditions) = .ok statement) :
    Answerable setup state (Mock.withConditions query conditions) rows where
  isOpen := answerable.isOpen
  noFailure := answerable.noFailure
  compiles := compiles
  table := answerable.table
  noGroups := answerable.noGroups
  noHaving := answerable.noHaving

end

/-! ## Conditions in another order -/

/-- Conditions in another order compile as they did. -/
theorem compiles_of_perm
    {dialect : Sql.Dialect}
    {query : Query}
    {conditions : List Condition}
    (reordered : conditions.Perm query.conditions)
    (compiles : ∃ statement, dialect.statement query = .ok statement) :
    ∃ statement, dialect.statement (withConditions query conditions) = .ok statement := by
  rw [Sql.exists_statement_iff] at compiles ⊢
  refine ⟨compiles.1, fun condition member => compiles.2 condition ?_⟩
  rw [List.mem_append] at member ⊢
  exact member.imp_left reordered.mem_iff.mp

/-- Conditions in another order select the same rows. -/
theorem selectRows_of_perm
    {query : Query}
    {conditions : List Condition}
    (reordered : conditions.Perm query.conditions)
    (rows : List Row) :
    selectRows (withConditions query conditions) rows = selectRows query rows := by
  have same :
      (fun row => (withConditions query conditions).conditions.all (satisfies row)) =
        fun row => query.conditions.all (satisfies row) :=
    funext fun _ => reordered.all_eq
  rw [selectRows, same]
  rfl

/-! ## Further conditions -/

/-- A limit that is not positive, or none, does not count. -/
theorem effectiveLimit_eq_none
    {query : Query}
    (noLimit : ∀ limit ∈ query.limit, limit ≤ 0) :
    query.effectiveLimit = none := by
  refine Option.filter_eq_none_iff.mpr fun limit given => ?_
  simpa using noLimit limit given

/-- Where no limit counts, further conditions select fewer rows, in the same order. -/
theorem selectRows_sublist
    {query : Query}
    {conditions : List Condition}
    (further : query.conditions.Sublist conditions)
    (noLimit : query.effectiveLimit = none)
    (rows : List Row) :
    (selectRows (withConditions query conditions) rows).Sublist (selectRows query rows) := by
  have noLimitEither : (withConditions query conditions).effectiveLimit = none := noLimit
  rw [selectRows, selectRows, noLimit, noLimitEither]
  refine List.monotone_filter_right rows fun row satisfiesAll => ?_
  rw [List.all_eq_true] at satisfiesAll ⊢
  exact fun condition member => satisfiesAll condition (further.subset member)

/-- Rows are cut down by cutting down the first of them and the others. -/
theorem projectRows_cons_eq_ok_iff
    {asked : Option (List String)}
    {row : Row}
    {rows cut : List Row} :
    projectRows asked (row :: rows) = .ok cut ↔
      ∃ first others,
        projectRow asked row = .ok first
          ∧ projectRows asked rows = .ok others
          ∧ cut = first :: others := by
  rw [projectRows]
  cases projectRow asked row with
  | error column =>
      simp [bind, Except.bind]
  | ok first =>
      cases projectRows asked rows with
      | error column =>
          simp [bind, Except.bind]
      | ok others =>
          simp [bind, Except.bind, eq_comm]

/-- Fewer rows are cut down to fewer rows. -/
theorem projectRows_sublist
    {asked : Option (List String)}
    {rows fewer cut : List Row}
    (sublist : fewer.Sublist rows)
    (projected : projectRows asked rows = .ok cut) :
    ∃ fewerCut, projectRows asked fewer = .ok fewerCut ∧ fewerCut.Sublist cut := by
  induction sublist generalizing cut with
  | slnil =>
      exact ⟨cut, projected, List.Sublist.refl cut⟩
  | cons row sublist inductionHypothesis =>
      obtain ⟨first, others, _, projectedOthers, rfl⟩ := projectRows_cons_eq_ok_iff.mp projected
      obtain ⟨fewerCut, projectedFewer, fewerOthers⟩ := inductionHypothesis projectedOthers
      exact ⟨fewerCut, projectedFewer, fewerOthers.cons first⟩
  | cons_cons row sublist inductionHypothesis =>
      obtain ⟨first, others, projectedFirst, projectedOthers, rfl⟩ :=
        projectRows_cons_eq_ok_iff.mp projected
      obtain ⟨fewerCut, projectedFewer, fewerOthers⟩ := inductionHypothesis projectedOthers
      refine ⟨first :: fewerCut, ?_, fewerOthers.cons_cons first⟩
      exact projectRows_cons_eq_ok_iff.mpr
        ⟨first, fewerCut, projectedFirst, projectedFewer, rfl⟩

/-! ## Answers -/

/--
The answer holds the rows that the query selects, cut down to the columns asked
for.  Conditions in another order are answered alike, and where no limit counts
further conditions only take rows away.
-/
theorem answers_what_is_asked
    {setup : Setup}
    {state : State}
    {query : Query}
    {rows : List Row}
    {asked : Option (List String)}
    (answerable : Answerable setup state query rows)
    (asks : AsksFor query.projection asked)
    (present : Present asked rows) :
    (∃ selected results,
      (run setup query state).result = .ok results
        ∧ Selects query rows selected
        ∧ List.Forall₂ (CutDown asked) selected results.rows
        ∧ results.rowCount = results.rows.length)
      ∧ (∀ conditions,
        conditions.Perm query.conditions →
          (run setup (withConditions query conditions) state).result =
            (run setup query state).result)
      ∧ ∀ conditions,
        query.conditions.Sublist conditions →
        (∀ limit ∈ query.limit, limit ≤ 0) →
        (∃ statement, setup.dialect.statement (withConditions query conditions) = .ok statement) →
          ∃ results fewer,
            (run setup query state).result = .ok results
              ∧ (run setup (withConditions query conditions) state).result = .ok fewer
              ∧ fewer.rows.Sublist results.rows := by
  obtain ⟨results, answered, projected, areCut, counted⟩ :=
    answerable.exists_results asks present
  refine ⟨⟨_, results, answered, selects_selectRows query rows, areCut, counted⟩, ?_, ?_⟩
  · intro conditions reordered
    have alike := answerable.withConditions (compiles_of_perm reordered answerable.compiles)
    rw [alike.result_eq, answerable.result_eq, selectRows_of_perm reordered]
    rfl
  · intro conditions further noLimit compiles
    obtain ⟨fewer, answeredFewer, projectedFewer, _, _⟩ :=
      (answerable.withConditions compiles).exists_results asks present
    have selectedFewer := selectRows_sublist further (effectiveLimit_eq_none noLimit) rows
    obtain ⟨cut, projectedCut, fewerRows⟩ := projectRows_sublist selectedFewer projected
    cases projectedFewer.symm.trans projectedCut
    exact ⟨results, fewer, answered, answeredFewer, fewerRows⟩

/-- The condition is on a column that is not asked for, and a further one takes the younger row. -/
theorem answers_what_is_asked_ages :
    let rows : List Row :=
      [Row.ofCells [("name", .text "Ada"), ("age", .integer 30)],
        Row.ofCells [("name", .text "Ben"), ("age", .integer 20)]]
    let state : State := ⟨true, [("people", rows)], []⟩
    let adults : Condition := ⟨"age", .greaterOrEqual, some (.integer 18)⟩
    let older : Condition := ⟨"age", .greaterThan, some (.integer 25)⟩
    let query : Query := ⟨"people", none, some " name ", [adults], [], [], none⟩
    Answerable .standard state query rows
      ∧ AsksFor query.projection (some ["name"])
      ∧ Present (some ["name"]) rows
      ∧ (∃ selected results,
        (run .standard query state).result = .ok results
          ∧ Selects query rows selected
          ∧ List.Forall₂ (CutDown (some ["name"])) selected results.rows
          ∧ results.rowCount = results.rows.length)
      ∧ ∃ results fewer,
        (run .standard query state).result = .ok results
          ∧ (run .standard (withConditions query [adults, older]) state).result = .ok fewer
          ∧ fewer.rows.Sublist results.rows := by
  intro rows state adults older query
  have compiles :
      ∀ conditions ∈ [query.conditions, [adults, older]],
        ∃ statement, Sql.Dialect.postgres.statement (withConditions query conditions) =
          .ok statement := by
    simp only [Sql.exists_statement_iff]
    decide +kernel
  have answerable : Answerable .standard state query rows :=
    ⟨rfl, rfl, compiles query.conditions (by simp), rfl, rfl, rfl⟩
  have asks : AsksFor query.projection (some ["name"]) :=
    asksFor_iff.mpr (by decide +kernel)
  have present : Present (some ["name"]) rows := by
    simp [Present, rows, Row.cell?, Row.ofCells, findNamed?_sortEntries, findNamed?]
  obtain ⟨whole, _, furthered⟩ := answers_what_is_asked answerable asks present
  have noLimit : ∀ limit ∈ query.limit, limit ≤ 0 := by
    simp [query]
  refine ⟨answerable, asks, present, whole, furthered [adults, older] ?_ noLimit ?_⟩
  · exact List.sublist_append_left [adults] [older]
  · exact compiles [adults, older] (by simp)

end QueryAgent.Mock

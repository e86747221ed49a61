import QueryAgent.Proofs.Mock.Answers

namespace QueryAgent.Mock

/-!
# Whole rows

A statement selects a star when its query has no projection, one of nothing but
blanks, or a star with blanks around it.  The mock backend reads the first and
the last of these as all columns too, but a blank projection as one column
without a name, which it does not find in its rows.
-/

/-- The statement of a query selects a star, with blanks around it or without. -/
def SelectsStar
    (query : Query) : Prop :=
  Text.BlanksAround ['*'] (Sql.selection query).toList

/-- The projection of a query is a text of nothing but blanks. -/
def HasBlankProjection
    (query : Query) : Prop :=
  ∃ text ∈ query.projection, Text.allBlank text = true

/-- A star is selected for no projection, a blank one, and a star in blanks. -/
theorem selectsStar_iff
    {query : Query} :
    SelectsStar query ↔ HasBlankProjection query ∨ AsksFor query.projection none := by
  have starItself : Text.BlanksAround ['*'] "*".toList :=
    ⟨[], [], rfl, nofun, nofun⟩
  unfold SelectsStar HasBlankProjection Sql.selection Text.nonBlank?
  cases query.projection with
  | none =>
      exact iff_of_true starItself (.inr .unsaid)
  | some text =>
      cases blank : Text.allBlank text with
      | true =>
          simpa [Option.filter, blank] using starItself
      | false =>
          simp only [Option.filter, blank, Bool.not_false, ↓reduceIte, Option.getD_some,
            Option.mem_some_iff, exists_eq_left', Bool.false_eq_true, false_or]
          constructor
          · exact .star
          · rintro (star | star)
            exact star

/-- A blank projection asks for one column, without a name. -/
theorem HasBlankProjection.asksFor
    {query : Query}
    (blank : HasBlankProjection query) :
    AsksFor query.projection (some [""]) := by
  obtain ⟨text, given, blank⟩ := blank
  rw [Option.mem_def.mp given]
  have blanks : ∀ character ∈ text.toList, Text.isBlank character = true :=
    List.all_eq_true.mp blank
  have noStar : ¬ Text.BlanksAround ['*'] text.toList := by
    rintro ⟨before, after, around, _⟩
    have starBlank : Text.isBlank '*' = true := blanks '*' (by simp [around])
    cases starBlank
  have noComma : ',' ∉ text.toList := by
    intro comma
    have commaBlank : Text.isBlank ',' = true := blanks ',' comma
    cases commaBlank
  have onePart : text.toList = [','].intercalate [text.toList] := by
    simp
  have nameless : NamesColumn text.toList "" :=
    ⟨noComma, ⟨nofun, nofun⟩, text.toList, [], by simp, blanks, nofun⟩
  exact .named noStar onePart (by simp) (.cons nameless .nil)

/-- Rows are cut down to themselves when each of them is. -/
theorem projectRows_eq_self_iff
    {asked : Option (List String)}
    {rows : List Row} :
    projectRows asked rows = .ok rows ↔ ∀ row ∈ rows, projectRow asked row = .ok row := by
  induction rows with
  | nil =>
      exact ⟨fun _ => nofun, fun _ => rfl⟩
  | cons row rows inductionHypothesis =>
      rw [projectRows_cons_eq_ok_iff, List.forall_mem_cons, ← inductionHypothesis]
      constructor
      · rintro ⟨_, _, projected, projectedOthers, ⟨⟩⟩
        exact ⟨projected, projectedOthers⟩
      · rintro ⟨projected, projectedOthers⟩
        exact ⟨row, rows, projected, projectedOthers, rfl⟩

/-- A row is cut down to itself when the column asked for is its only one. -/
theorem projectRow_singleton_eq_self_iff
    {row : Row}
    {name : String} :
    projectRow (some [name]) row = .ok row ↔ row.cells.map (·.1) = [name] := by
  constructor
  · intro projected
    cases found : row.cell? name with
    | none =>
        simp [projectRow, pickCells, found, Except.map] at projected
    | some cell =>
        simp only [projectRow, pickCells, found] at projected
        have cells := congrArg Row.cells (Except.ok.inj projected)
        rw [← cells]
        rfl
  · obtain ⟨cells, ordered⟩ := row
    intro only
    obtain ⟨cell, rfl, rfl⟩ := List.map_eq_singleton_iff.mp only
    simp only [projectRow, pickCells, Row.cell?, findNamed?, ↓reduceIte]
    rfl

/--
A query whose statement selects a star is answered with whole rows just when its
projection is not blank or the rows have no other column than the one without a
name.  A missing column is told just when the projection is blank and a row that
is selected lacks that column.
-/
theorem star_selects_whole_rows
    {setup : Setup}
    {state : State}
    {query : Query}
    {rows : List Row}
    (answerable : Answerable setup state query rows)
    (star : SelectsStar query) :
    ∃ selected,
      Selects query rows selected
        ∧ ((run setup query state).result = .ok (.ofRows selected) ↔
          (HasBlankProjection query → ∀ row ∈ selected, row.cells.map (·.1) = [""]))
        ∧ ((∃ column,
            (run setup query state).result =
              .error (SelectError.noSuchColumn column).toAgentError) ↔
          HasBlankProjection query ∧ ∃ row ∈ selected, row.cell? "" = none) := by
  refine ⟨selectRows query rows, selects_selectRows query rows, ?_⟩
  by_cases blank : HasBlankProjection query
  · rw [answerable.result_eq_ofRows_iff blank.asksFor,
      answerable.exists_missing_iff blank.asksFor, projectRows_eq_self_iff]
    simp only [projectRow_singleton_eq_self_iff, Lacks, blank]
    simp
  · have whole : AsksFor query.projection none :=
      (selectsStar_iff.mp star).resolve_left blank
    rw [answerable.result_eq_ofRows_iff whole, answerable.exists_missing_iff whole,
      projectRows_eq_self_iff]
    simp [blank, projectRow, Lacks]

/-- A star with blanks around it selects whole rows from a table of pets. -/
theorem star_selects_whole_rows_pets :
    let rows : List Row := [Row.ofCells [("id", .integer 1), ("name", .text "Rex")]]
    let state : State := ⟨true, [("pets", rows)], []⟩
    let query : Query := ⟨"pets", none, some " * ", [], [], [], some 5⟩
    Answerable .standard state query rows
      ∧ SelectsStar query
      ∧ ∃ selected,
        Selects query rows selected
          ∧ (run .standard query state).result = .ok (.ofRows selected)
          ∧ ¬ ∃ column,
            (run .standard query state).result =
              .error (SelectError.noSuchColumn column).toAgentError := by
  intro rows state query
  have compiles : ∃ statement, Sql.Dialect.postgres.statement query = .ok statement :=
    (Sql.exists_statement_iff .postgres query).mpr (by decide +kernel)
  have answerable : Answerable .standard state query rows :=
    ⟨rfl, rfl, compiles, rfl, rfl, rfl⟩
  have star : SelectsStar query :=
    selectsStar_iff.mpr (.inr (asksFor_iff.mpr (by decide +kernel)))
  have notBlank : ¬ HasBlankProjection query := by
    rintro ⟨text, given, blank⟩
    cases given
    have starLeft : Text.allBlank " * " = false := by
      decide +kernel
    cases starLeft.symm.trans blank
  obtain ⟨selected, selects, whole, missing⟩ := star_selects_whole_rows answerable star
  exact ⟨answerable, star, selected, selects, whole.mpr (absurd · notBlank),
    fun told => notBlank (missing.mp told).1⟩

/-- An empty projection compiles to a star, but its run misses a column without a name. -/
theorem empty_projection_misses_column :
    let state : State := ⟨true, Tables.initial.add "pets" ["id"] [[.integer 1]], []⟩
    let query : Query := ⟨"pets", none, some "", [], [], [], none⟩
    ((Sql.Dialect.postgres.statement query).toOption.map (·.text)) = some "SELECT * FROM pets"
      ∧ SelectsStar query
      ∧ (run .standard query state).result = .error (SelectError.noSuchColumn "").toAgentError := by
  intro state query
  have compiles : ∃ statement, Sql.Dialect.postgres.statement query = .ok statement :=
    (Sql.exists_statement_iff .postgres query).mpr (by decide +kernel)
  have table :
      findNamed? query.table state.tables = some [Row.ofCells [("id", .integer 1)]] := by
    simp only [state, query, Tables.add, findNamed?_insertEntry, ↓reduceIte]
    rfl
  have answerable : Answerable .standard state query [Row.ofCells [("id", .integer 1)]] :=
    ⟨rfl, rfl, compiles, table, rfl, rfl⟩
  have blank : HasBlankProjection query :=
    ⟨"", rfl, rfl⟩
  refine ⟨by decide +kernel, selectsStar_iff.mpr (.inl blank), ?_⟩
  rw [answerable.result_eq, asksFor_iff.mp blank.asksFor]
  rfl

end QueryAgent.Mock

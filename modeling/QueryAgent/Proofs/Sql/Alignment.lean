import QueryAgent.Cli.Display
import QueryAgent.Proofs.Sql.Markers
import QueryAgent.Proofs.Sql.Written
import QueryAgent.Proofs.Text.Split

namespace QueryAgent.Sql

/-!
# Markers stand for their parameters

A query can also be written with a text in the place of every value, without any
markers.  The main statement says that the text of a compiled statement is that
text with its values taken out: filling the markers in their order with what is
written for the parameters gives it back.
-/

/-- A condition with a text in the place of its value, nothing where a value is missing. -/
def conditionInPlace
    (policy : ListPolicy)
    (literal : Param → String)
    (condition : Condition) : String :=
  match condition.operator, condition.value with
  | .isNull, _ =>
      condition.column ++ " IS NULL"
  | .isNotNull, _ =>
      condition.column ++ " IS NOT NULL"
  | .isIn, some (.list items) =>
      match policy, items with
      | .bindArray, items =>
          condition.column ++ " = ANY(" ++ literal (.list items) ++ ")"
      | .expand, [] =>
          "1 = 0"
      | .expand, items =>
          condition.column ++ " IN ("
            ++ ", ".intercalate (items.map literal) ++ ")"
  | operator, some value =>
      condition.column ++ " " ++ (comparisonSign? operator).getD "" ++ " "
        ++ literal value
  | _, none =>
      ""

/-- A clause of texts, nothing when there are none. -/
def clauseInPlace
    (keyword : String) : List String → String
  | [] => ""
  | texts => keyword ++ " AND ".intercalate texts

/-- The columns grouped by, nothing when there are none. -/
def groupInPlace : List String → String
  | [] => ""
  | columns => " GROUP BY " ++ ", ".intercalate columns

/-- The limit with a text in its place, nothing when it does not count. -/
def limitInPlace
    (literal : Param → String)
    (query : Query) : String :=
  match query.effectiveLimit with
  | some limit => " LIMIT " ++ literal (.integer limit)
  | none => ""

/-- A query with a text in the place of every value. -/
def queryInPlace
    (policy : ListPolicy)
    (literal : Param → String)
    (query : Query) : String :=
  "SELECT " ++ selection query ++ " FROM " ++ source query
    ++ clauseInPlace " WHERE "
      (query.conditions.map (conditionInPlace policy literal))
    ++ groupInPlace query.groupBy
    ++ clauseInPlace " HAVING "
      (query.having.map (conditionInPlace policy literal))
    ++ limitInPlace literal query

/-- Joined parts are written in place with the separator between each two. -/
theorem renderInPlace_joined
    (literal : Param → String)
    (between : String)
    (parts : List (List Piece)) :
    renderInPlace literal (joined between parts) =
      between.intercalate (parts.map (renderInPlace literal)) := by
  induction parts with
  | nil =>
      simp [joined, renderInPlace]
  | cons part rest inductionHypothesis =>
      cases rest with
      | nil =>
          simp [joined]
      | cons next rest =>
          rw [joined, renderInPlace_append, renderInPlace,
            inductionHypothesis]
          simp [String.append_assoc]

/-- A written condition has its value where its place is. -/
theorem renderInPlace_of_written
    {policy : ListPolicy}
    (literal : Param → String)
    {condition : Condition}
    {pieces : List Piece}
    (written : Written policy condition pieces) :
    renderInPlace literal pieces =
      conditionInPlace policy literal condition := by
  cases written with
  | comparison compares given =>
      rename_i operator _
      cases operator <;> cases compares <;>
        simp [renderInPlace, conditionInPlace, comparisonSign?,
          String.append_assoc]
  | isNull =>
      simp [renderInPlace, conditionInPlace]
  | isNotNull =>
      simp [renderInPlace, conditionInPlace]
  | array whole =>
      simp [renderInPlace, conditionInPlace, whole, String.append_assoc]
  | noItems expanded =>
      simp [renderInPlace, conditionInPlace, expanded]
  | items expanded =>
      have eachItem :
          ∀ items : List Param,
            (items.map fun item => [Piece.bound item]).map
                (renderInPlace literal) =
              items.map literal := by
        intro items
        simp [renderInPlace, Function.comp_def]
      simp only [renderInPlace_append, renderInPlace, List.cons_append,
        itemPieces, renderInPlace_joined, eachItem, conditionInPlace,
        expanded]
      simp [String.append_assoc]

/-- A written clause has the values of its conditions in their places. -/
theorem renderInPlace_clauseOfParts
    {policy : ListPolicy}
    (literal : Param → String)
    (keyword : String)
    {conditions : List Condition}
    {parts : List (List Piece)}
    (written : List.Forall₂ (Written policy) conditions parts) :
    renderInPlace literal (clauseOfParts keyword parts) =
      clauseInPlace keyword
        (conditions.map (conditionInPlace policy literal)) := by
  have eachPart :
      parts.map (renderInPlace literal) =
        conditions.map (conditionInPlace policy literal) := by
    induction written with
    | nil =>
        rfl
    | cons headWritten _ inductionHypothesis =>
        rw [List.map_cons, List.map_cons, inductionHypothesis,
          renderInPlace_of_written literal headWritten]
  rw [← eachPart]
  cases parts with
  | nil =>
      rfl
  | cons part rest =>
      rw [clauseOfParts, renderInPlace, renderInPlace_joined]
      · rfl
      · simp

/-- A written query has its values and its limit in their places. -/
theorem renderInPlace_piecesOfParts
    {policy : ListPolicy}
    (literal : Param → String)
    {query : Query}
    {conditionParts havingParts : List (List Piece)}
    (conditionsWritten :
      List.Forall₂ (Written policy) query.conditions conditionParts)
    (havingWritten :
      List.Forall₂ (Written policy) query.having havingParts) :
    renderInPlace literal
        (piecesOfParts query conditionParts havingParts) =
      queryInPlace policy literal query := by
  have grouped :
      renderInPlace literal (groupPieces query.groupBy) =
        groupInPlace query.groupBy := by
    cases query.groupBy <;>
      simp [groupPieces, renderInPlace, groupInPlace]
  have limited :
      renderInPlace literal (limitPieces query) =
        limitInPlace literal query := by
    unfold limitPieces limitInPlace
    cases query.effectiveLimit <;>
      simp [renderInPlace]
  simp only [piecesOfParts, renderInPlace_append, renderInPlace,
    List.cons_append,
    renderInPlace_clauseOfParts literal _ conditionsWritten,
    renderInPlace_clauseOfParts literal _ havingWritten,
    grouped, limited, queryInPlace, String.append_assoc]

/-- Nothing or something that ends a marker, and then the same again, ends a marker. -/
theorem endsMarker_append
    {first second : List Piece}
    (firstEnds : EndsMarker first)
    (secondEnds : EndsMarker second) :
    EndsMarker (first ++ second) := by
  cases first with
  | nil =>
      exact secondEnds
  | cons piece rest =>
      cases piece <;>
        exact firstEnds

/-- Legible pieces stay legible in front of what ends a marker. -/
theorem legible_append
    {mark : Char}
    {first second : List Piece}
    (firstLegible : Legible mark first)
    (secondLegible : Legible mark second)
    (ends : EndsMarker second) :
    Legible mark (first ++ second) := by
  induction first with
  | nil =>
      exact secondLegible
  | cons piece rest inductionHypothesis =>
      cases piece with
      | text content =>
          exact ⟨firstLegible.1, inductionHypothesis firstLegible.2⟩
      | bound value =>
          exact
            ⟨endsMarker_append firstLegible.1 ends,
              inductionHypothesis firstLegible.2⟩

/-- Legible parts stay legible with words between them that end a marker. -/
theorem legible_joined
    {mark : Char}
    {between : String}
    {parts : List (List Piece)}
    (unmarked : mark ∉ between.toList)
    (ends : EndsMarker [.text between])
    (legible : ∀ part ∈ parts, Legible mark part) :
    Legible mark (joined between parts) := by
  induction parts with
  | nil =>
      trivial
  | cons part rest inductionHypothesis =>
      have restLegible : ∀ part ∈ rest, Legible mark part :=
        fun later member => legible later (List.mem_cons_of_mem part member)
      cases rest with
      | nil =>
          exact legible part List.mem_cons_self
      | cons next rest =>
          rw [joined]
          exact
            legible_append (legible part List.mem_cons_self)
              ⟨unmarked, inductionHypothesis restLegible⟩ ends

/-- Names of a query that do not hold a character. -/
structure NamesWithout
    (character : Char)
    (query : Query) : Prop where
  table : character ∉ query.table.toList
  schema : ∀ schema ∈ query.schema, character ∉ schema.toList
  projection : ∀ projection ∈ query.projection, character ∉ projection.toList
  columns :
    ∀ condition ∈ query.conditions ++ query.having,
      character ∉ condition.column.toList
  groupBy : ∀ column ∈ query.groupBy, character ∉ column.toList

section KnownMark

variable
  {mark : Char}
  (known : mark = '?' ∨ mark = '$')

include known

/-- A condition on a column without the mark is legible. -/
theorem legible_of_written
    {policy : ListPolicy}
    {condition : Condition}
    {pieces : List Piece}
    (unmarked : mark ∉ condition.column.toList)
    (written : Written policy condition pieces) :
    Legible mark pieces := by
  cases written with
  | comparison compares given =>
      rename_i operator _
      rcases known with rfl | rfl <;>
        cases operator <;> cases compares <;>
        simp_all [Legible, EndsMarker]
  | isNull =>
      rcases known with rfl | rfl <;>
        simp_all [Legible]
  | isNotNull =>
      rcases known with rfl | rfl <;>
        simp_all [Legible]
  | array whole =>
      rcases known with rfl | rfl <;>
        simp_all [Legible, EndsMarker, Text.EndsRun]
  | noItems expanded =>
      rcases known with rfl | rfl <;>
        simp [Legible]
  | items expanded =>
      rename_i column item items
      have openingUnmarked : mark ∉ (column ++ " IN (").toList := by
        rcases known with rfl | rfl <;>
          simpa using unmarked
      have itemsLegible : Legible mark (itemPieces (item :: items)) := by
        refine legible_joined ?_ ?_ ?_
        · rcases known with rfl | rfl <;>
            simp
        · simp [EndsMarker, Text.EndsRun]
        · simp [Legible, EndsMarker]
      have closingLegible : Legible mark [.text ")"] := by
        rcases known with rfl | rfl <;>
          simp [Legible]
      exact
        ⟨openingUnmarked,
          legible_append itemsLegible closingLegible
            (by simp [EndsMarker, Text.EndsRun])⟩

/-- A clause on columns without the mark is legible, and ends a marker before it. -/
theorem legible_clauseOfParts
    {policy : ListPolicy}
    {keyword : String}
    {conditions : List Condition}
    {parts : List (List Piece)}
    (keywordUnmarked : mark ∉ keyword.toList)
    (unmarked :
      ∀ condition ∈ conditions, mark ∉ condition.column.toList)
    (written : List.Forall₂ (Written policy) conditions parts) :
    Legible mark (clauseOfParts keyword parts) := by
  have eachPart : ∀ part ∈ parts, Legible mark part := by
    induction written with
    | nil =>
        simp
    | cons headWritten _ inductionHypothesis =>
        rw [List.forall_mem_cons] at unmarked ⊢
        exact
          ⟨legible_of_written known unmarked.1 headWritten,
            inductionHypothesis unmarked.2⟩
  cases parts with
  | nil =>
      trivial
  | cons part rest =>
      refine ⟨keywordUnmarked, legible_joined ?_ ?_ eachPart⟩
      · rcases known with rfl | rfl <;>
          simp
      · simp [EndsMarker, Text.EndsRun]

end KnownMark

/-- A joined text holds no character that neither its parts nor the separator hold. -/
theorem not_mem_intercalate
    {character : Char}
    {between : String}
    {parts : List String}
    (outsideBetween : character ∉ between.toList)
    (outsideParts : ∀ part ∈ parts, character ∉ part.toList) :
    character ∉ (between.intercalate parts).toList := by
  rw [String.toList_intercalate]
  exact Text.not_mem_intercalate outsideBetween (List.forall_mem_map.mpr outsideParts)

/-- A clause with words that end a marker does so itself. -/
theorem endsMarker_clauseOfParts
    {keyword : String}
    (ends : EndsMarker [.text keyword])
    (parts : List (List Piece)) :
    EndsMarker (clauseOfParts keyword parts) := by
  cases parts with
  | nil =>
      trivial
  | cons part rest =>
      exact ends

/-- What is selected, and from where, is spelled with the names of a query. -/
theorem not_mem_selection
    {mark : Char}
    (known : mark = '?' ∨ mark = '$')
    {query : Query}
    (unmarked : NamesWithout mark query) :
    mark ∉ ("SELECT " ++ selection query ++ " FROM "
      ++ source query).toList := by
  have inSelection : mark ∉ (selection query).toList := by
    cases kept : Text.nonBlank? query.projection with
    | none =>
        rcases known with rfl | rfl <;>
          simp [selection, kept]
    | some projection =>
        obtain ⟨named, _⟩ := Option.filter_eq_some_iff.mp kept
        simpa [selection, kept] using
          unmarked.projection projection named
  have inSource : mark ∉ (source query).toList := by
    cases kept : Text.nonBlank? query.schema with
    | none =>
        simpa [source, kept] using unmarked.table
    | some schema =>
        obtain ⟨named, _⟩ := Option.filter_eq_some_iff.mp kept
        have inSchema := unmarked.schema schema named
        have inTable := unmarked.table
        rcases known with rfl | rfl <;>
          simp [source, kept, inSchema, inTable]
  rcases known with rfl | rfl <;>
    simp [inSelection, inSource]

/-- A query with names that do not hold the mark is legible. -/
theorem legible_piecesOfParts
    {policy : ListPolicy}
    {mark : Char}
    (known : mark = '?' ∨ mark = '$')
    {query : Query}
    (unmarked : NamesWithout mark query)
    {conditionParts havingParts : List (List Piece)}
    (conditionsWritten :
      List.Forall₂ (Written policy) query.conditions conditionParts)
    (havingWritten :
      List.Forall₂ (Written policy) query.having havingParts) :
    Legible mark (piecesOfParts query conditionParts havingParts) := by
  have conditionColumns :
      ∀ condition ∈ query.conditions, mark ∉ condition.column.toList :=
    fun condition member =>
      unmarked.columns condition (List.mem_append_left _ member)
  have havingColumns :
      ∀ condition ∈ query.having, mark ∉ condition.column.toList :=
    fun condition member =>
      unmarked.columns condition (List.mem_append_right _ member)
  have conditionsLegible :
      Legible mark (clauseOfParts " WHERE " conditionParts) :=
    legible_clauseOfParts known
      (by rcases known with rfl | rfl <;> simp)
      conditionColumns conditionsWritten
  have havingLegible :
      Legible mark (clauseOfParts " HAVING " havingParts) :=
    legible_clauseOfParts known
      (by rcases known with rfl | rfl <;> simp)
      havingColumns havingWritten
  have groupLegible :
      Legible mark (groupPieces query.groupBy) ∧
        EndsMarker (groupPieces query.groupBy) := by
    have inColumns :
        mark ∉ (", ".intercalate query.groupBy).toList :=
      not_mem_intercalate
        (by rcases known with rfl | rfl <;> simp) unmarked.groupBy
    cases grouped : query.groupBy with
    | nil =>
        exact ⟨trivial, trivial⟩
    | cons column columns =>
        rw [grouped] at inColumns
        rcases known with rfl | rfl <;>
          simpa [groupPieces, Legible, EndsMarker, Text.EndsRun]
            using inColumns
  have limitLegible :
      Legible mark (limitPieces query) ∧
        EndsMarker (limitPieces query) := by
    unfold limitPieces
    rcases known with rfl | rfl <;>
      cases query.effectiveLimit <;>
      simp [Legible, EndsMarker, Text.EndsRun]
  have havingEnds : EndsMarker (clauseOfParts " HAVING " havingParts) :=
    endsMarker_clauseOfParts
      (by simp [EndsMarker, Text.EndsRun]) havingParts
  refine legible_append (legible_append (legible_append ?_ ?_ ?_) ?_ ?_) ?_ ?_
  · exact ⟨not_mem_selection known unmarked, conditionsLegible⟩
  · exact groupLegible.1
  · exact groupLegible.2
  · exact havingLegible
  · exact havingEnds
  · exact limitLegible.1
  · exact limitLegible.2

/-- The table of parameters names each of them by its own marker. -/
theorem placeholders_paramCells
    (dialect : Dialect)
    (number : Nat)
    (params : List Param) :
    (Cli.paramCells dialect number params).map
        (fun row => row[1]?.map Cli.Cell.content) =
      (List.range' number params.length).map
        (fun index => some (dialect.placeholders.marker index)) := by
  induction params generalizing number with
  | nil =>
      rfl
  | cons param rest inductionHypothesis =>
      simp [Cli.paramCells, List.range'_succ, inductionHypothesis]

/--
The markers in a compiled text count its parameters from one, and each stands
for its own: with a text for every parameter in the place of its marker, the
compiled text is the one that has the values in their places.  The markers are
those by which the table of parameters names them.
-/
theorem markers_aligned
    {dialect : Dialect}
    {mark : Char}
    (known : mark = '?' ∨ mark = '$')
    (marks : dialect.placeholders.mark = String.singleton mark)
    {query : Query}
    (unmarked : NamesWithout mark query)
    {statement : Statement}
    (compiled : dialect.compile query = .ok statement) :
    let cut :=
      cutText dialect.placeholders mark statement.text.toList
    let count := statement.parameters.length
    (match dialect.placeholders with
      | .numbered _ =>
          cut.numbers = (List.range' 1 count).map some
      | .positional _ =>
          statement.text.toList.count mark = count) ∧
    (∀ literal : Param → String,
      cut.fill mark (statement.parameters.map literal) =
        queryInPlace dialect.listPolicy literal query) ∧
    cut.markers mark =
      (List.range' 1 count).map dialect.placeholders.marker ∧
    (Cli.paramCells dialect 1 statement.parameters).map
        (fun row => row[1]?.map Cli.Cell.content) =
      (cut.markers mark).map some := by
  obtain ⟨conditionParts, havingParts, rfl,
      conditionsWritten, havingWritten⟩ :=
    written_of_compile compiled
  have noDigit : mark.isDigit = false := by
    rcases known with rfl | rfl <;>
      rfl
  have legible :=
    legible_piecesOfParts known unmarked conditionsWritten havingWritten
  have labels :=
    labels_renderFrom marks noDigit 1 legible
  intro cut count
  have labelsOfCut :
      cut.marked.map Marked.label =
        (List.range' 1 count).map dialect.placeholders.labelOf :=
    labels
  have markers :
      cut.markers mark =
        (List.range' 1 count).map dialect.placeholders.marker := by
    have asWritten :
        ∀ number,
          String.ofList (mark :: dialect.placeholders.labelOf number) =
            dialect.placeholders.marker number := by
      intro number
      rw [← toList_marker marks, String.ofList_toList]
    calc
      cut.markers mark
          = (cut.marked.map Marked.label).map
              (fun label => String.ofList (mark :: label)) := by
            simp [CutText.markers]
      _ = (List.range' 1 count).map dialect.placeholders.marker := by
            rw [labelsOfCut, List.map_map]
            exact List.map_congr_left fun number _ => asWritten number
  refine ⟨?_, ?_, markers, ?_⟩
  · split
    · next numbered =>
        calc
          cut.numbers
              = (cut.marked.map Marked.label).map Text.readDecimal? := by
                simp [CutText.numbers]
          _ = (List.range' 1 count).map some := by
                rw [labelsOfCut, numbered, List.map_map]
                exact
                  List.map_congr_left fun number _ =>
                    Text.readDecimal?_decimalList number
    · next positional =>
        have counted := congrArg List.length labelsOfCut
        rw [List.length_map, List.length_map, List.length_range',
          length_marked] at counted
        exact counted
  · intro literal
    have filled := fill_renderFrom marks noDigit literal 1 legible
    rw [renderInPlace_piecesOfParts literal
      conditionsWritten havingWritten] at filled
    exact filled
  · rw [placeholders_paramCells, markers, List.map_map]
    rfl

/-- The markers of a statement with a value that looks like one. -/
theorem markers_aligned_orders :
    ∃ statement,
      Dialect.postgres.compile (ordersQuery "$9" [.text "north"] 10) =
          .ok statement ∧
        (cutText Dialect.postgres.placeholders '$'
            statement.text.toList).fill '$'
            (statement.parameters.map Cli.showParam) =
          queryInPlace .bindArray Cli.showParam
            (ordersQuery "$9" [.text "north"] 10) := by
  have known : '$' = '?' ∨ '$' = '$' := .inr rfl
  have unmarked :
      NamesWithout '$' (ordersQuery "$9" [.text "north"] 10) := by
    constructor <;>
      simp [ordersQuery]
  exact
    ⟨_, rfl,
      (markers_aligned known rfl unmarked rfl).2.1 Cli.showParam⟩

end QueryAgent.Sql
